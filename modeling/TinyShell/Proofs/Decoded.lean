import TinyShell.Proofs.Encoded

/-!
# Reading nothing but what was written

Only the UTF-8 form of a text is read as a text (`Utf8.decode?_eq_some_iff`). What a first byte
begins is filled up by the bytes it lacks and by no others (`Utf8.Begun.Opens`), and together they
are the form of the character that is read.
-/

namespace TinyShell.Utf8

/-! ## The forms of characters -/

theorem utf8EncodeChar_ofNat {n : Nat} (h : n.isValidChar) : String.utf8EncodeChar (Char.ofNat n) =
    if n ≤ 0x7F then [UInt8.ofNat n]
    else if n ≤ 0x7FF then [UInt8.ofNat (n / 64 % 32 + 0xC0), UInt8.ofNat (n % 64 + 0x80)]
    else if n ≤ 0xFFFF then
      [UInt8.ofNat (n / 4096 % 16 + 0xE0), UInt8.ofNat (n / 64 % 64 + 0x80),
        UInt8.ofNat (n % 64 + 0x80)]
    else
      [UInt8.ofNat (n / 262144 % 8 + 0xF0), UInt8.ofNat (n / 4096 % 64 + 0x80),
        UInt8.ofNat (n / 64 % 64 + 0x80), UInt8.ofNat (n % 64 + 0x80)] := by
  rw [Char.ofNat, dif_pos h]
  rfl

theorem ofNat_eq_of_toNat {n : Nat} {b : UInt8} (h : n = b.toNat) : UInt8.ofNat n = b := by
  rw [h, UInt8.ofNat_toNat]

variable {a b c d : UInt8}

/-- A byte that is none of the first ones of a character. -/
def IsTail (b : UInt8) : Prop := 0x80 ≤ b.toNat ∧ b.toNat ≤ 0xBF

theorem form_one (ha : a.toNat < 0x80) : String.utf8EncodeChar (Char.ofNat a.toNat) = [a] := by
  rw [utf8EncodeChar_ofNat (.inl (by omega)), if_pos (by omega), UInt8.ofNat_toNat]

theorem form_of_lead {c : Char} (h : lead a = .whole c) : String.utf8EncodeChar c = [a] := by
  unfold lead at h
  split at h
  · next ha =>
    cases h
    exact form_one ha
  · repeat' split at h
    all_goals cases h

theorem form_two (hlow : 0xC2 ≤ a.toNat) (hhigh : a.toNat < 0xE0) (hb : IsTail b) :
    String.utf8EncodeChar (Char.ofNat ((a.toNat - 0xC0) * 64 + (b.toNat - 0x80))) = [a, b] := by
  obtain ⟨hb, hb'⟩ := hb
  rw [utf8EncodeChar_ofNat (.inl (by omega)), if_neg (by omega), if_pos (by omega),
    ofNat_eq_of_toNat (b := a) (by omega), ofNat_eq_of_toNat (b := b) (by omega)]

/-- Neither overlong nor a surrogate. -/
theorem form_three {high next : Nat} (ha : a.toNat = high + 0xE0) (hhigh : high < 16)
    (hb : b.toNat = next + 0x80) (hnext : next < 64) (hlong : 32 ≤ high * 64 + next)
    (hplain : high * 64 + next < 0x360 ∨ 0x380 ≤ high * 64 + next) (hc : IsTail c) :
    String.utf8EncodeChar (Char.ofNat ((high * 64 + next) * 64 + (c.toNat - 0x80))) =
      [a, b, c] := by
  obtain ⟨hc, hc'⟩ := hc
  have hvalid : ((high * 64 + next) * 64 + (c.toNat - 0x80)).isValidChar := by
    simp only [Nat.isValidChar]; omega
  rw [utf8EncodeChar_ofNat hvalid, if_neg (by omega), if_neg (by omega), if_pos (by omega),
    ofNat_eq_of_toNat (b := a) (by omega), ofNat_eq_of_toNat (b := b) (by omega),
    ofNat_eq_of_toNat (b := c) (by omega)]

/-- Neither overlong nor past the last character. -/
theorem form_four {high next : Nat} (ha : a.toNat = high + 0xF0)
    (hb : b.toNat = next + 0x80) (hnext : next < 64) (hlong : 16 ≤ high * 64 + next)
    (hlast : high * 64 + next < 0x110) (hc : IsTail c) (hd : IsTail d) :
    String.utf8EncodeChar (Char.ofNat
      (((high * 64 + next) * 64 + (c.toNat - 0x80)) * 64 + (d.toNat - 0x80))) = [a, b, c, d] := by
  obtain ⟨hc, hc'⟩ := hc
  obtain ⟨hd, hd'⟩ := hd
  have hvalid : (((high * 64 + next) * 64 + (c.toNat - 0x80)) * 64 +
      (d.toNat - 0x80)).isValidChar := by
    simp only [Nat.isValidChar]; omega
  rw [utf8EncodeChar_ofNat hvalid, if_neg (by omega), if_neg (by omega), if_neg (by omega),
    ofNat_eq_of_toNat (b := a) (by omega), ofNat_eq_of_toNat (b := b) (by omega),
    ofNat_eq_of_toNat (b := c) (by omega), ofNat_eq_of_toNat (b := d) (by omega)]

/-! ## What a first byte begins -/

/-- With any bytes in the place of those that are lacking, the bytes before them are the form of a
character, the one that is read. -/
inductive Begun.Opens : Begun → Bytes → Prop where
  | last {p : Begun} {before : Bytes} (hlast : p.lacking = 1)
      (h : ∀ b, p.low ≤ b ∧ b ≤ p.high →
        String.utf8EncodeChar (Char.ofNat (p.bits * 64 + (b.toNat - 0x80))) = before ++ [b]) :
      Opens p before
  | within {p : Begun} {before : Bytes} (hmore : 1 < p.lacking)
      (h : ∀ b, p.low ≤ b ∧ b ≤ p.high →
        Opens ⟨p.lacking - 1, 0x80, 0xBF, p.bits * 64 + (b.toNat - 0x80)⟩ (before ++ [b])) :
      Opens p before

theorem opens_three {low high : UInt8} {bits : Nat} (ha : a.toNat = bits + 0xE0)
    (hbits : bits < 16) (hrange : 0x80 ≤ low.toNat ∧ high.toNat ≤ 0xBF)
    (hlong : 32 ≤ bits * 64 + (low.toNat - 0x80))
    (hplain : bits * 64 + (high.toNat - 0x80) < 0x360 ∨ 0x380 ≤ bits * 64 + (low.toNat - 0x80)) :
    Begun.Opens ⟨2, low, high, bits⟩ [a] :=
  .within (by decide : 1 < 2) fun b hb => .last rfl fun c hc => by
    have hlow : low.toNat ≤ b.toNat := hb.1
    have hhigh : b.toNat ≤ high.toNat := hb.2
    have hlong : 32 ≤ bits * 64 + (b.toNat - 0x80) := by omega
    have hplain : bits * 64 + (b.toNat - 0x80) < 0x360 ∨ 0x380 ≤ bits * 64 + (b.toNat - 0x80) := by
      omega
    exact form_three ha hbits (by omega) (by omega) hlong hplain hc

theorem opens_four {low high : UInt8} {bits : Nat} (ha : a.toNat = bits + 0xF0)
    (hrange : 0x80 ≤ low.toNat ∧ high.toNat ≤ 0xBF)
    (hlong : 16 ≤ bits * 64 + (low.toNat - 0x80))
    (hlast : bits * 64 + (high.toNat - 0x80) < 0x110) : Begun.Opens ⟨3, low, high, bits⟩ [a] :=
  .within (by decide : 1 < 3) fun b hb => .within (by decide : 1 < 2) fun c hc =>
    .last rfl fun d hd => by
      have hlow : low.toNat ≤ b.toNat := hb.1
      have hhigh : b.toNat ≤ high.toNat := hb.2
      have hlong : 16 ≤ bits * 64 + (b.toNat - 0x80) := by omega
      have hlast : bits * 64 + (b.toNat - 0x80) < 0x110 := by omega
      exact form_four ha (by omega) (by omega) hlong hlast hc hd

theorem opens_of_lead {p : Begun} (h : lead a = .begins p) : p.Opens [a] := by
  unfold lead at h
  simp only [UInt8.lt_iff_toNat_lt, ← UInt8.toNat_inj, UInt8.reduceToNat] at h
  repeat' split at h
  all_goals cases h
  · exact .last rfl fun b hb => form_two (by omega) (by omega) hb
  iterate 3
    · refine opens_three (by omega) (by omega) ?_ ?_ ?_ <;> simp only [UInt8.reduceToNat] <;> omega
  iterate 3
    · refine opens_four (by omega) ?_ ?_ ?_ <;> simp only [UInt8.reduceToNat] <;> omega

/-! ## What is read -/

variable {bytes before : Bytes} {p : Begun}

/-- Where nothing is refused, a byte in its place comes after what is begun. -/
theorem exists_next (hvalid : none ∉ decodeFrom (some p) bytes) :
    ∃ b rest, bytes = b :: rest ∧ p.low ≤ b ∧ b ≤ p.high := by
  cases bytes with
  | nil => simp [decodeFrom] at hvalid
  | cons b rest =>
    refine ⟨b, rest, rfl, Decidable.byContradiction fun hrange => ?_⟩
    simp [decodeFrom, step, hrange] at hvalid

theorem Begun.Opens.exists_char (hopens : p.Opens before)
    (hvalid : none ∉ decodeFrom (some p) bytes) :
    ∃ c rest, before ++ bytes = String.utf8EncodeChar c ++ rest := by
  induction hopens generalizing bytes with
  | last _ hform =>
    obtain ⟨b, rest, rfl, hb⟩ := exists_next hvalid
    exact ⟨_, rest, by rw [hform b hb, List.append_assoc]; rfl⟩
  | within hmore _ ih =>
    obtain ⟨b, rest, rfl, hb⟩ := exists_next hvalid
    rw [decodeFrom_within rest hb hmore] at hvalid
    obtain ⟨c, rest', hc⟩ := ih b hb hvalid
    exact ⟨c, rest', by rw [← hc, List.append_assoc]; rfl⟩

theorem exists_char (hvalid : none ∉ decode (a :: bytes)) :
    ∃ c rest, a :: bytes = String.utf8EncodeChar c ++ rest := by
  rw [decode] at hvalid
  cases hlead : lead a with
  | whole c => exact ⟨c, bytes, by rw [form_of_lead hlead]; rfl⟩
  | begins p =>
    rw [decodeFrom_begins bytes hlead] at hvalid
    exact (opens_of_lead hlead).exists_char hvalid
  | stray => simp [decodeFrom, step, start, hlead] at hvalid

theorem eq_of_decode {cs : List Char} (h : decode bytes = cs.map some) :
    bytes = cs.flatMap String.utf8EncodeChar := by
  induction cs generalizing bytes with
  | nil =>
    cases bytes with
    | nil => rfl
    | cons b bytes =>
      have hvalid : none ∉ decode (b :: bytes) := by simp [h]
      obtain ⟨c, rest, hbytes⟩ := exists_char hvalid
      rw [hbytes, decode, decodeFrom_char] at h
      cases h
  | cons c cs ih =>
    cases bytes with
    | nil => cases h
    | cons b bytes =>
      have hvalid : none ∉ decode (b :: bytes) := by simp [h]
      obtain ⟨c', rest, hbytes⟩ := exists_char hvalid
      rw [hbytes, decode, decodeFrom_char] at h
      obtain ⟨hc, hrest⟩ := List.cons.inj h
      obtain rfl := Option.some.inj hc
      rw [hbytes, List.flatMap_cons, ← ih hrest]

theorem eq_map_of_mapM {α : Type} {xs : List (Option α)} {ys : List α}
    (h : xs.mapM id = some ys) : xs = ys.map some := by
  induction xs generalizing ys with
  | nil => cases h; rfl
  | cons x xs ih =>
    rw [List.mapM_cons] at h
    obtain ⟨y, hy, h⟩ := Option.bind_eq_some_iff.1 h
    obtain ⟨ys, hys, h⟩ := Option.bind_eq_some_iff.1 h
    cases h
    rw [List.map_cons, ← ih hys]
    exact congrArg (· :: xs) hy

/-- A text is read from its form and from nothing else. -/
theorem decode?_eq_some_iff {text : String} :
    decode? bytes = some text.toList ↔ bytes = utf8 text := by
  constructor
  · intro h
    exact eq_of_decode (eq_map_of_mapM h)
  · rintro rfl
    exact decode?_utf8 text

theorem lossy_utf8 (text : String) : lossy (utf8 text) = text := by
  rw [lossy, decode_utf8, List.map_map]
  exact (congrArg String.ofList (List.map_id _)).trans (String.ofList_toList)

end TinyShell.Utf8
