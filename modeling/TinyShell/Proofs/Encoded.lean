import TinyShell.Text.Utf8

/-!
# Reading what was written

Reading the UTF-8 form of a text gives the text back (`Utf8.decode_utf8`). A character is read
from its first byte, which says how many are to come and where the next one lies, and then byte
by byte.
-/

namespace TinyShell.Utf8

variable {b : UInt8} {p : Begun} (bytes : Bytes)

theorem decodeFrom_whole {c : Char} (h : lead b = .whole c) :
    decodeFrom none (b :: bytes) = some c :: decodeFrom none bytes := by
  simp [decodeFrom, step, start, h]

theorem decodeFrom_begins (h : lead b = .begins p) :
    decodeFrom none (b :: bytes) = decodeFrom (some p) bytes := by
  simp [decodeFrom, step, start, h]

/-- The last byte that a character lacks. -/
theorem decodeFrom_last (h : p.low ≤ b ∧ b ≤ p.high) (hlast : p.lacking = 1) :
    decodeFrom (some p) (b :: bytes) =
      some (Char.ofNat (p.bits * 64 + (b.toNat - 0x80))) :: decodeFrom none bytes := by
  simp [decodeFrom, step, h, hlast]

theorem decodeFrom_within (h : p.low ≤ b ∧ b ≤ p.high) (hmore : 1 < p.lacking) :
    decodeFrom (some p) (b :: bytes) =
      decodeFrom (some ⟨p.lacking - 1, 0x80, 0xBF, p.bits * 64 + (b.toNat - 0x80)⟩) bytes := by
  simp [decodeFrom, step, h, Nat.not_le.2 hmore]

/-! ## First bytes -/

variable {n next : Nat}

theorem toNat_ofNat_of_lt (h : n < 0x100) : (UInt8.ofNat n).toNat = n := by
  rw [UInt8.toNat_ofNat']
  exact Nat.mod_eq_of_lt h

/-- A byte of a character that is none of its first ones. -/
theorem within_iff (h : next < 64) (low high : UInt8) :
    low ≤ UInt8.ofNat (next + 0x80) ∧ UInt8.ofNat (next + 0x80) ≤ high ↔
      low.toNat ≤ next + 0x80 ∧ next + 0x80 ≤ high.toNat := by
  rw [UInt8.le_iff_toNat_le, UInt8.le_iff_toNat_le, toNat_ofNat_of_lt (by omega)]

theorem lead_two (hlow : 2 ≤ n) (hhigh : n < 32) :
    lead (UInt8.ofNat (n + 0xC0)) = .begins ⟨1, 0x80, 0xBF, n⟩ := by
  have hbyte : (UInt8.ofNat (n + 0xC0)).toNat = n + 0xC0 := toNat_ofNat_of_lt (by omega)
  simp only [lead, UInt8.lt_iff_toNat_lt, hbyte, UInt8.reduceToNat]
  rw [if_neg (by omega), if_neg (by omega), if_pos (by omega), Nat.add_sub_cancel]

/-- The byte after it is not so low that the form is overlong, nor, where surrogates would lie,
high. -/
theorem lead_three (hhigh : n < 16) (hnext : next < 64) (hlong : 32 ≤ n * 64 + next)
    (hplain : n * 64 + next < 0x360 ∨ 0x380 ≤ n * 64 + next) :
    ∃ low high, lead (UInt8.ofNat (n + 0xE0)) = .begins ⟨2, low, high, n⟩ ∧
      low ≤ UInt8.ofNat (next + 0x80) ∧ UInt8.ofNat (next + 0x80) ≤ high := by
  simp only [within_iff hnext]
  by_cases hzero : n = 0
  · subst hzero
    exact ⟨0xA0, 0xBF, rfl, by simp only [UInt8.reduceToNat]; omega⟩
  by_cases hsurrogate : n = 0xD
  · subst hsurrogate
    exact ⟨0x80, 0x9F, rfl, by simp only [UInt8.reduceToNat]; omega⟩
  · refine ⟨0x80, 0xBF, ?_, by simp only [UInt8.reduceToNat]; omega⟩
    have hbyte : (UInt8.ofNat (n + 0xE0)).toNat = n + 0xE0 := toNat_ofNat_of_lt (by omega)
    simp only [lead, UInt8.lt_iff_toNat_lt, ← UInt8.toNat_inj, hbyte, UInt8.reduceToNat]
    rw [if_neg (by omega), if_neg (by omega), if_neg (by omega), if_neg (by omega),
      if_neg (by omega), if_pos (by omega), Nat.add_sub_cancel]

/-- The byte after it is not so low that the form is overlong, nor so high that it goes past the
last character. -/
theorem lead_four (hnext : next < 64) (hlong : 16 ≤ n * 64 + next)
    (hvalid : n * 64 + next < 0x110) :
    ∃ low high, lead (UInt8.ofNat (n + 0xF0)) = .begins ⟨3, low, high, n⟩ ∧
      low ≤ UInt8.ofNat (next + 0x80) ∧ UInt8.ofNat (next + 0x80) ≤ high := by
  simp only [within_iff hnext]
  by_cases hzero : n = 0
  · subst hzero
    exact ⟨0x90, 0xBF, rfl, by simp only [UInt8.reduceToNat]; omega⟩
  by_cases hlast : n = 4
  · subst hlast
    exact ⟨0x80, 0x8F, rfl, by simp only [UInt8.reduceToNat]; omega⟩
  · refine ⟨0x80, 0xBF, ?_, by simp only [UInt8.reduceToNat]; omega⟩
    have hbyte : (UInt8.ofNat (n + 0xF0)).toNat = n + 0xF0 := toNat_ofNat_of_lt (by omega)
    simp only [lead, UInt8.lt_iff_toNat_lt, ← UInt8.toNat_inj, hbyte, UInt8.reduceToNat]
    rw [if_neg (by omega), if_neg (by omega), if_neg (by omega), if_neg (by omega),
      if_neg (by omega), if_neg (by omega), if_neg (by omega), if_pos (by omega),
      Nat.add_sub_cancel]

/-! ## Characters and texts -/

theorem decodeFrom_char (c : Char) :
    decodeFrom none (String.utf8EncodeChar c ++ bytes) = some c :: decodeFrom none bytes := by
  have hvalid : c.val.toNat < 0xD800 ∨ 0xDFFF < c.val.toNat ∧ c.val.toNat < 0x110000 := c.valid
  have hchar : Char.ofNat c.val.toNat = c := Char.ofNat_toNat c
  have hwithin {next : Nat} (h : next < 64) :
      (0x80 : UInt8) ≤ UInt8.ofNat (next + 0x80) ∧ UInt8.ofNat (next + 0x80) ≤ 0xBF := by
    rw [within_iff h]; simp only [UInt8.reduceToNat]; omega
  have hbits {next : Nat} (h : next < 64) : (UInt8.ofNat (next + 0x80)).toNat - 0x80 = next := by
    rw [toNat_ofNat_of_lt (by omega), Nat.add_sub_cancel]
  unfold String.utf8EncodeChar
  simp only
  generalize c.val.toNat = v at hvalid hchar
  split
  · have hlead : lead (UInt8.ofNat v) = .whole c := by
      have hbyte : (UInt8.ofNat v).toNat = v := toNat_ofNat_of_lt (by omega)
      simp only [lead, UInt8.lt_iff_toNat_lt, hbyte, UInt8.reduceToNat]
      rw [if_pos (by omega), hchar]
    exact decodeFrom_whole bytes hlead
  have hlow : v % 64 < 64 := Nat.mod_lt v (by decide)
  have hmiddle : v / 64 % 64 < 64 := Nat.mod_lt _ (by decide)
  have hhigh : v / 4096 % 64 < 64 := Nat.mod_lt _ (by decide)
  simp only [apply_ite (· ++ bytes), List.cons_append, List.nil_append]
  split
  · have hfirst := lead_two (n := v / 64 % 32) (by omega) (by omega)
    have hvalue : v / 64 % 32 * 64 + v % 64 = v := by omega
    rw [decodeFrom_begins _ hfirst, decodeFrom_last _ (hwithin hlow) rfl, hbits hlow]
    simp only [hvalue, hchar]
  split
  · obtain ⟨low, high, hfirst, hsecond⟩ := lead_three (n := v / 4096 % 16) (by omega) hmiddle
      (by omega) (by omega)
    have hvalue : (v / 4096 % 16 * 64 + v / 64 % 64) * 64 + v % 64 = v := by omega
    rw [decodeFrom_begins _ hfirst, decodeFrom_within _ hsecond (by decide : 1 < 2), hbits hmiddle,
      decodeFrom_last _ (hwithin hlow) rfl, hbits hlow]
    simp only [hvalue, hchar]
  · obtain ⟨low, high, hfirst, hsecond⟩ := lead_four (n := v / 262144 % 8) hhigh (by omega)
      (by omega)
    have hvalue :
        ((v / 262144 % 8 * 64 + v / 4096 % 64) * 64 + v / 64 % 64) * 64 + v % 64 = v := by omega
    rw [decodeFrom_begins _ hfirst, decodeFrom_within _ hsecond (by decide : 1 < 3), hbits hhigh,
      decodeFrom_within _ (hwithin hmiddle) (by decide : 1 < 2), hbits hmiddle,
      decodeFrom_last _ (hwithin hlow) rfl, hbits hlow]
    simp only [hvalue, hchar]

theorem decode_utf8 (text : String) : decode (utf8 text) = text.toList.map some := by
  rw [decode, utf8]
  induction text.toList with
  | nil => rfl
  | cons c cs ih => rw [List.flatMap_cons, decodeFrom_char, ih, List.map_cons]

theorem decode?_utf8 (text : String) : decode? (utf8 text) = some text.toList := by
  rw [decode?, decode_utf8, List.mapM_map]
  exact List.mapM_pure.trans (by simp)

end TinyShell.Utf8
