import TinyShell.Proofs.Reliable
import TinyShell.Proofs.Tokens

/-!
# Texts on one line

No text of the shell holds a newline that was not in the bytes it tells of: reading bytes as
text makes none (`Utf8.oneLine_lossy`), no token holds one (`Token.newline_not_mem_words`), and
what the operating system has to say is on one line (`IoError.oneLine_message`).
-/

namespace TinyShell

/-- A text without a newline. -/
def OneLine (text : String) : Prop := '\n' ∉ text.toList

instance (text : String) : Decidable (OneLine text) := inferInstanceAs (Decidable ('\n' ∉ _))

@[simp] theorem oneLine_append {s t : String} : OneLine (s ++ t) ↔ OneLine s ∧ OneLine t := by
  simp [OneLine]

/-- A character of more than one byte has none below 0x80. -/
theorem toNat_of_mem_utf8EncodeChar {c : Char} {b : UInt8} (hb : b < 0x80)
    (h : b ∈ String.utf8EncodeChar c) : c.toNat = b.toNat := by
  have hb : b.toNat < 0x80 := hb
  have hbyte (n : Nat) : b = UInt8.ofNat n ↔ n % 256 = b.toNat := by
    rw [← UInt8.toNat_inj, UInt8.toNat_ofNat', eq_comm]
  change c.val.toNat = b.toNat
  unfold String.utf8EncodeChar at h
  simp only at h
  repeat' split at h
  all_goals
    simp only [List.mem_cons, List.not_mem_nil, or_false, hbyte] at h
    omega

theorem newline_mem_utf8EncodeChar {c : Char} (h : newline ∈ String.utf8EncodeChar c) :
    c = '\n' :=
  Char.ext (UInt32.toNat_inj.1 (toNat_of_mem_utf8EncodeChar (by decide) h))

theorem newline_not_mem_utf8 {text : String} (h : OneLine text) : newline ∉ utf8 text := by
  intro hmem
  obtain ⟨c, hc, hnewline⟩ := List.mem_flatMap.1 hmem
  exact h (newline_mem_utf8EncodeChar hnewline ▸ hc)

/-! ## Reading bytes as text -/

namespace Utf8

theorem newline_of_ofNat {n : Nat} (h : Char.ofNat n = '\n') : n = 10 := by
  by_cases hvalid : n.isValidChar
  · rw [Char.ofNat, dif_pos hvalid] at h
    exact congrArg Char.toNat h
  · rw [Char.ofNat, dif_neg hvalid] at h
    cases h

/-- Whatever bytes are still to come, the character is past the controls: overlong forms are ruled
out by the range of the next byte. -/
def Begun.IsWide (p : Begun) : Prop := 0x80 ≤ p.low.toNat ∧ 0x90 ≤ p.bits * 64 + p.low.toNat

theorem isWide_of_lead {b : UInt8} {p : Begun} (h : lead b = .begins p) : p.IsWide := by
  unfold lead at h
  simp only [UInt8.lt_iff_toNat_lt, ← UInt8.toNat_inj, UInt8.reduceToNat] at h
  repeat' split at h
  all_goals cases h
  all_goals
    simp only [Begun.IsWide, UInt8.reduceToNat]
    omega

theorem newline_of_lead {b : UInt8} (h : lead b = .whole '\n') : b = newline := by
  unfold lead at h
  split at h
  · exact UInt8.toNat_inj.1 (newline_of_ofNat (Lead.whole.inj h))
  · repeat' split at h
    all_goals cases h

theorem isWide_start {b : UInt8} : ∀ p ∈ (start b).2, p.IsWide := by
  intro p hp
  unfold start at hp
  split at hp
  · cases hp
  · next h => cases hp; exact isWide_of_lead h
  · cases hp

theorem newline_of_start {b : UInt8} (h : some '\n' ∈ (start b).1) : b = newline := by
  unfold start at h
  split at h
  · next c hc =>
    obtain rfl : '\n' = c := by simpa using h
    exact newline_of_lead hc
  · cases h
  · simp at h

variable {begun : Option Begun}

theorem isWide_step (hwide : ∀ p ∈ begun, p.IsWide) (b : UInt8) :
    ∀ p ∈ (step begun b).2, p.IsWide := by
  cases begun with
  | none => exact isWide_start
  | some q =>
    obtain ⟨hlow, hbits⟩ := hwide q rfl
    intro p hp
    rw [step] at hp
    split at hp
    · next hb =>
      have hb : q.low.toNat ≤ b.toNat := hb.1
      simp only at hp
      split at hp
      · cases hp
      · cases hp
        have hlow' : (0x80 : UInt8).toNat = 0x80 := rfl
        exact ⟨Nat.le_refl _, by simp only [hlow']; omega⟩
    · exact isWide_start p hp

theorem newline_of_step (hwide : ∀ p ∈ begun, p.IsWide) {b : UInt8}
    (h : some '\n' ∈ (step begun b).1) : b = newline := by
  cases begun with
  | none => exact newline_of_start h
  | some q =>
    obtain ⟨hlow, hbits⟩ := hwide q rfl
    rw [step] at h
    split at h
    · next hb =>
      have hb : q.low.toNat ≤ b.toNat := hb.1
      simp only at h
      split at h
      · have hchar := newline_of_ofNat (Option.some.inj (List.mem_singleton.1 h)).symm
        omega
      · cases h
    · exact newline_of_start (by simpa using h)

/-- What is begun becomes no newline, so a newline comes from one. -/
theorem newline_of_decodeFrom (hwide : ∀ p ∈ begun, p.IsWide) {bytes : Bytes}
    (h : some '\n' ∈ decodeFrom begun bytes) : newline ∈ bytes := by
  induction bytes generalizing begun with
  | nil => cases begun <;> simp [decodeFrom] at h
  | cons b bytes ih =>
    rw [decodeFrom] at h
    rcases List.mem_append.1 h with h | h
    · rw [newline_of_step hwide h]; exact List.mem_cons_self
    · exact List.mem_cons_of_mem _ (ih (isWide_step hwide b) h)

theorem oneLine_lossy {bytes : Bytes} (h : newline ∉ bytes) : OneLine (lossy bytes) := by
  intro hmem
  rw [lossy, String.toList_ofList] at hmem
  obtain ⟨_ | c, hc, hnewline⟩ := List.mem_map.1 hmem
  · exact absurd hnewline (by decide)
  · obtain rfl : c = '\n' := hnewline
    exact h (newline_of_decodeFrom (by simp) hc)

end Utf8

/-! ## Tokens -/

theorem Token.newline_not_mem_words {line token : Bytes} (h : token ∈ words line) :
    newline ∉ token :=
  fun hmem => (isToken_of_mem_words h).2 newline hmem (by decide)

/-! ## Messages -/

namespace IoError

/-- Only a failure of the shell's own streams is told in words of somebody else. -/
theorem oneLine_message {cause : IoError} (h : ∀ text, cause ≠ .stream text) :
    OneLine cause.message := by
  cases cause with
  | os e => cases e <;> decide
  | nulInPath => decide
  | nulInArgument => decide
  | notUtf8 => decide
  | stream text => exact absurd rfl (h text)

end IoError

end TinyShell
