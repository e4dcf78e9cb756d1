import TinyShell.Line.Editor
import TinyShell.Proofs.Decoded
import TinyShell.Proofs.OneLine

/-!
# Lines for the history

An editor offers a line to its history unless all of it is white space by Unicode
(`Editor.offers_iff`); a line has a token unless all of it is `Token.separators`
(`Token.words_utf8_eq_nil_iff`). The bell is a separator and no white space, and much white space
is no separator. So two kinds of lines, and no others, are offered without a token or have one and
are not offered (`Editor.steps_offers`).
-/

namespace TinyShell

/-! ## Texts without a token -/

namespace Token

/-- The delimiters, read as text. -/
def separators : List Char := [' ', '\t', '\r', '\n', '\x07']

variable {c : Char} {b : UInt8}

theorem mem_delimiters_of_separator (hc : c ∈ separators) :
    ∀ b ∈ String.utf8EncodeChar c, b ∈ delimiters := by
  have h : separators.all fun c => (String.utf8EncodeChar c).all (decide <| · ∈ delimiters) := by
    decide
  simp only [List.all_eq_true, decide_eq_true_eq] at h
  exact h c hc

theorem mem_separators_of_delimiter (hb : b ∈ delimiters) (h : b ∈ String.utf8EncodeChar c) :
    c ∈ separators := by
  have hread : delimiters.all fun b => decide (b < 0x80 ∧ Char.ofNat b.toNat ∈ separators) := by
    decide
  simp only [List.all_eq_true, decide_eq_true_eq] at hread
  obtain ⟨hlow, hc⟩ := hread b hb
  rwa [← toNat_of_mem_utf8EncodeChar hlow h, Char.ofNat_toNat] at hc

theorem words_utf8_eq_nil_iff {text : String} :
    words (utf8 text) = [] ↔ ∀ c ∈ text.toList, c ∈ separators := by
  rw [words_eq_nil_iff, utf8, List.forall_mem_flatMap]
  refine forall₂_congr fun c _ => ⟨fun h => ?_, mem_delimiters_of_separator⟩
  obtain ⟨b, bytes, hc⟩ := List.exists_cons_of_ne_nil (String.utf8EncodeChar_ne_nil)
  have hb : b ∈ String.utf8EncodeChar c := by rw [hc]; exact List.mem_cons_self
  exact mem_separators_of_delimiter (h b hb) hb

theorem isWhiteSpace_of_separator (hc : c ∈ separators) (hbell : c ≠ '\x07') :
    Text.isWhiteSpace c := by
  have h : separators.all fun c => decide (c ≠ '\x07' → Text.isWhiteSpace c) := by decide
  simp only [List.all_eq_true, decide_eq_true_eq] at h
  exact h c hc hbell

end Token

/-! ## Texts whose form is cut -/

/-- What stands before a byte below 0x80 in the form of a text is the form of a text. -/
theorem exists_utf8_dropLast {text : String} {b : UInt8} (hb : b < 0x80)
    (h : (utf8 text).getLast? = some b) : ∃ text', (utf8 text).dropLast = utf8 text' := by
  obtain ⟨cs, c, hcs⟩ : ∃ cs c, text.toList = cs ++ [c] := by
    rcases List.eq_nil_or_concat text.toList with hnil | ⟨cs, c, hcs⟩
    · simp [utf8, hnil] at h
    · exact ⟨cs, c, by rw [hcs, List.concat_eq_append]⟩
  have hutf8 : utf8 text = utf8 (String.ofList cs) ++ String.utf8EncodeChar c := by
    simp [utf8, hcs]
  have hmem : b ∈ String.utf8EncodeChar c := by
    rcases List.eq_nil_or_concat (String.utf8EncodeChar c) with hnil | ⟨front, last, hlast⟩
    · exact absurd hnil String.utf8EncodeChar_ne_nil
    · rw [hutf8, hlast, List.concat_eq_append, ← List.append_assoc, List.getLast?_concat] at h
      cases h
      rw [hlast, List.concat_eq_append]
      exact List.mem_concat_self
  have hform : String.utf8EncodeChar c = [b] := by
    rw [← Char.ofNat_toNat c, toNat_of_mem_utf8EncodeChar hb hmem]
    exact Utf8.form_one hb
  exact ⟨String.ofList cs, by rw [hutf8, hform, List.dropLast_concat]⟩

theorem Keyboard.exists_strip (text : String) : ∃ text', strip (utf8 text) = utf8 text' := by
  unfold strip
  split
  · next hnewline =>
    obtain ⟨front, hfront⟩ := exists_utf8_dropLast (by decide) hnewline
    simp only [hfront]
    split
    · next hreturn => exact exists_utf8_dropLast (by decide) hreturn
    · exact ⟨front, rfl⟩
  · exact ⟨text, rfl⟩

/-! ## Reads -/

namespace Editor

/-- The history takes the text in, whatever it holds. -/
def Offers (text : String) : Prop := ∀ history : History, offer history text = history.add text

variable {text : String} {e e' : Editor}

theorem offer_of_isBlank (h : Text.isBlank text.toList) (history : History) :
    offer history text = history :=
  if_pos h

/-- That a blank text is not taken in shows in an empty history. -/
theorem offers_iff_not_isBlank : Offers text ↔ ¬ Text.isBlank text.toList := by
  refine ⟨fun h hblank => ?_, fun h _ => if_neg h⟩
  have hempty := (offer_of_isBlank hblank {}).symm.trans (h {})
  cases hempty

theorem offers_iff : Offers text ↔ ∃ c ∈ text.toList, ¬ Text.isWhiteSpace c := by
  rw [offers_iff_not_isBlank, Text.isBlank, List.all_eq_true]
  simp only [Classical.not_forall, exists_prop]

theorem offer_of_not_offers (h : ¬ Offers text) (history : History) :
    offer history text = history :=
  offer_of_isBlank (Decidable.not_not.1 (mt offers_iff_not_isBlank.2 h)) history

theorem offers_and_words_eq_nil_iff : Offers text ∧ Token.words (utf8 text) = [] ↔
    (∀ c ∈ text.toList, c ∈ Token.separators) ∧ '\x07' ∈ text.toList := by
  rw [offers_iff, Token.words_utf8_eq_nil_iff]
  constructor
  · rintro ⟨⟨c, hc, hspace⟩, hall⟩
    refine ⟨hall, Decidable.byContradiction fun hbell => hspace ?_⟩
    exact Token.isWhiteSpace_of_separator (hall c hc) fun he => hbell (he ▸ hc)
  · rintro ⟨hall, hbell⟩
    exact ⟨⟨_, hbell, by decide⟩, hall⟩

theorem not_offers_and_words_ne_nil_iff : ¬ Offers text ∧ Token.words (utf8 text) ≠ [] ↔
    (∀ c ∈ text.toList, Text.isWhiteSpace c) ∧ ∃ c ∈ text.toList, c ∉ Token.separators := by
  rw [offers_iff, Ne, Token.words_utf8_eq_nil_iff]
  simp only [not_exists, not_and, Decidable.not_not, Classical.not_forall, exists_prop]

/-- What a read that gives a line does with it. -/
theorem next_line_offer {line : Bytes} (h : e.next = (.ok (.line line), e')) :
    ∃ text, utf8 text = line ∧ e'.history = offer e.history text := by
  rcases e with ⟨history, (_ | ⟨edit, edits⟩) | (_ | ⟨b, bytes⟩)⟩
  · cases h
  · rcases edit with ⟨back, text, _ | _ | _⟩
    · cases h
      exact ⟨_, rfl, rfl⟩
    · cases h
      exact ⟨"", rfl, (offer_of_isBlank rfl history).symm⟩
    · cases h
  · cases h
  · simp only [next] at h
    split at h
    · next cs hcs =>
      rw [← String.toList_ofList (l := cs), Utf8.decode?_eq_some_iff] at hcs
      obtain ⟨text, htext⟩ := Keyboard.exists_strip (String.ofList cs)
      cases h
      exact ⟨text, by rw [hcs, htext], by rw [hcs, htext, Utf8.lossy_utf8]⟩
    · cases h

theorem next_history (h : ∀ line, e.next.1 ≠ .ok (.line line)) :
    e.next.2.history = e.history := by
  rcases e with ⟨history, (_ | ⟨edit, edits⟩) | (_ | ⟨b, bytes⟩)⟩
  · rfl
  · rcases edit with ⟨back, text, _ | _ | _⟩
    · exact absurd rfl (h _)
    · exact absurd rfl (h _)
    · rfl
  · rfl
  · simp only [next] at h ⊢
    split
    · next hcs =>
      rw [hcs] at h
      exact absurd rfl (h _)
    · rfl

/-- One of a row of reads, with the editor before it and after it. -/
structure Step where
  before : Editor
  reading : Except EditorError Reading
  after : Editor

def steps : Nat → Editor → List Step
  | 0, _ => []
  | n + 1, e => ⟨e, e.next.1, e.next.2⟩ :: steps n e.next.2

theorem next_of_mem_steps {reads : Nat} {step : Step} (h : step ∈ steps reads e) :
    step.before.next = (step.reading, step.after) := by
  induction reads generalizing e with
  | zero => cases h
  | succ reads ih =>
    rcases List.mem_cons.1 h with rfl | h
    · rfl
    · exact ih h

/-- In a row of reads, a line that has a token is offered, and one that has none is not, but for
lines of delimiters alone with a bell among them, which are offered, and lines of white space
alone, some of it no delimiter, which are not. -/
theorem steps_offers (e : Editor) (reads : Nat) : ∀ step ∈ steps reads e,
    (∀ line, step.reading = .ok (.line line) → ∃ text, utf8 text = line ∧
      (Offers text → step.after.history = step.before.history.add text) ∧
      (¬ Offers text → step.after.history = step.before.history) ∧
      (Offers text ∧ (Token.split line).tokens = [] ↔
        (∀ c ∈ text.toList, c ∈ Token.separators) ∧ '\x07' ∈ text.toList) ∧
      (¬ Offers text ∧ (Token.split line).tokens ≠ [] ↔
        (∀ c ∈ text.toList, Text.isWhiteSpace c) ∧ ∃ c ∈ text.toList, c ∉ Token.separators)) ∧
    ((∀ line, step.reading ≠ .ok (.line line)) → step.after.history = step.before.history) := by
  intro step hstep
  have hnext := next_of_mem_steps hstep
  constructor
  · intro line hline
    rw [hline] at hnext
    obtain ⟨text, rfl, hhistory⟩ := next_line_offer hnext
    simp only [Token.split_tokens]
    exact ⟨text, rfl, fun h => hhistory.trans (h _),
      fun h => hhistory.trans (offer_of_not_offers h _), offers_and_words_eq_nil_iff,
      not_offers_and_words_ne_nil_iff⟩
  · intro hnone
    have hhistory := next_history (e := step.before) (by rw [hnext]; exact hnone)
    rwa [hnext] at hhistory

/-- A line called back, and a space after it that is no delimiter. -/
theorem steps_offers_recalled :
    let e : Editor := {
      history := ⟨["ls"]⟩, keyboard := .terminal [{ back := 1, text := "\u00A0", key := .enter }] }
    let step : Step := ⟨e, e.next.1, e.next.2⟩
    step ∈ steps 1 e ∧ step.reading = .ok (.line (utf8 "ls\u00A0")) ∧
      step.after.history = (⟨["ls"]⟩ : History).add "ls\u00A0" := by
  intro e step
  have hstep : step ∈ steps 1 e := List.mem_cons_self
  have hshown : History.shown ⟨["ls"]⟩ 1 ++ "\u00A0" = "ls\u00A0" := rfl
  have hline : step.reading = .ok (.line (utf8 "ls\u00A0")) := by
    simp only [step, e, next, enter, hshown]
  obtain ⟨text, htext, hoffered, -⟩ := (steps_offers e 1 step hstep).1 _ hline
  obtain rfl : text = "ls\u00A0" := by rw [← Utf8.lossy_utf8 text, htext, Utf8.lossy_utf8]
  exact ⟨hstep, hline, hoffered (offers_iff.2 ⟨'l', by decide, by decide⟩)⟩

/-- At a terminal an ideographic space is a command that the history does not take in; off one, a
bell is none and it does. -/
theorem offers_not_iff_tokens :
    let space : Editor := { keyboard := .terminal [{ text := "\u3000", key := .enter }] }
    let bell : Editor := { keyboard := .piped [0x07, newline] }
    (space.next = (.ok (.line (utf8 "\u3000")), { keyboard := .terminal [] }) ∧
      (Token.split (utf8 "\u3000")).tokens = [utf8 "\u3000"] ∧ ¬ Offers "\u3000") ∧
    (bell.next = (.ok (.line [0x07]), { history := ⟨["\x07"]⟩, keyboard := .piped [] }) ∧
      (Token.split [0x07]).tokens = [] ∧ Offers "\x07") ∧
    ¬ ∀ (e : Editor) (reads : Nat), ∀ step ∈ steps reads e, ∀ text,
      step.reading = .ok (.line (utf8 text)) →
        (Offers text ↔ (Token.split (utf8 text)).tokens ≠ []) := by
  intro space bell
  have hshown : History.shown {} 0 ++ "\u3000" = "\u3000" := rfl
  have hoffer : offer {} "\u3000" = {} := offer_of_isBlank (by decide) {}
  have hspace : space.next = (.ok (.line (utf8 "\u3000")), { keyboard := .terminal [] }) := by
    simp only [space, next, enter, hshown, hoffer]
  have htokens : (Token.split (utf8 "\u3000")).tokens = [utf8 "\u3000"] := by decide
  have hkept : ¬ Offers "\u3000" := by rw [offers_iff_not_isBlank]; decide
  have hbell : bell.next =
      (.ok (.line [0x07]), { history := ⟨["\x07"]⟩, keyboard := .piped [] }) := rfl
  have hoffered : Offers "\x07" := by rw [offers_iff_not_isBlank]; decide
  refine ⟨⟨hspace, htokens, hkept⟩, ⟨hbell, by decide, hoffered⟩, fun h => hkept ?_⟩
  refine (h space 1 ⟨space, space.next.1, space.next.2⟩ List.mem_cons_self _ ?_).2 ?_
  · rw [hspace]
  · rw [htokens]
    exact List.cons_ne_nil _ _

end Editor

end TinyShell
