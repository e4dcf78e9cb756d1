import Mathlib.Data.List.Chain
import TinyShell.Proofs.Offered

/-!
# Recalling lines

A row of reads at a terminal, from an empty history. What the history holds is settled by the texts
entered, one after the other (`Editor.history_afterReads`): none of its entries is blank, no
neighbours are equal, and the newest is the text entered last (`Editor.steps_recall`). So one step
back calls that text up again, and to enter it once more leaves the history as it is.
-/

namespace TinyShell

/-! ## Histories -/

namespace History

/-- No entry is blank, and no neighbours are equal. -/
structure IsTidy (h : History) : Prop where
  nonblank : ∀ text ∈ h.entries, ¬ Text.isBlank text.toList
  varied : h.entries.IsChain (· ≠ ·)

variable {h : History} {text : String}

theorem isTidy_empty : IsTidy {} := ⟨by simp, .nil⟩

theorem IsTidy.add (tidy : h.IsTidy) (hn : ¬ Text.isBlank text.toList) : (h.add text).IsTidy := by
  unfold History.add
  split
  · exact tidy
  · next hnewest =>
    constructor
    · intro entry hentry
      rcases List.mem_cons.1 (List.mem_of_mem_take hentry) with rfl | hold
      · exact hn
      · exact tidy.nonblank entry hold
    · apply List.IsChain.take
      refine List.isChain_cons.2 ⟨fun entry hentry he => hnewest ?_, tidy.varied⟩
      rw [newest, he]
      exact hentry

theorem IsTidy.foldl_add {texts : List String} (tidy : h.IsTidy)
    (hn : ∀ text ∈ texts, ¬ Text.isBlank text.toList) : (texts.foldl History.add h).IsTidy := by
  induction texts generalizing h with
  | nil => exact tidy
  | cons text texts ih =>
    have htext := hn text List.mem_cons_self
    exact ih (tidy.add htext) fun t ht => hn t (List.mem_cons_of_mem text ht)

theorem newest_foldl_add (texts : List String) (h : History) :
    (texts.foldl History.add h).newest = texts.getLast?.or h.newest := by
  induction texts generalizing h with
  | nil => rfl
  | cons text texts ih =>
    rw [List.foldl_cons, ih, newest_add, List.getLast?_cons]
    cases texts.getLast? <;> rfl

end History

namespace Editor

/-! ## What a read enters -/

/-- The edit that is read, at a terminal. -/
def Step.edit? (step : Step) : Option Edit :=
  match step.before.keyboard with
  | .terminal (edit :: _) => some edit
  | _ => none

/-- The text that is entered, unless it is blank. -/
def Step.entered? (step : Step) : Option String :=
  match step.edit?, step.reading with
  | some edit, .ok (.line line) =>
    let text := Utf8.lossy line
    if edit.key = .enter ∧ ¬ Text.isBlank text.toList then some text else none
  | _, _ => none

/-- One step back, and nothing typed. -/
def Step.IsRecall (step : Step) : Prop := step.edit? = some { back := 1, key := .enter }

instance (step : Step) : Decidable step.IsRecall := inferInstanceAs (Decidable (_ = _))

/-- One read. -/
def read (e : Editor) : Step := ⟨e, e.next.1, e.next.2⟩

def IsTerminal (e : Editor) : Prop := ∃ edits, e.keyboard = .terminal edits

variable {e : Editor} {text : String} {step : Step}

theorem not_isBlank_of_entered (h : step.entered? = some text) : ¬ Text.isBlank text.toList := by
  unfold Step.entered? at h
  split at h
  · simp only [Option.ite_none_right_eq_some, Option.some.injEq] at h
    obtain ⟨⟨-, hn⟩, rfl⟩ := h
    exact hn
  · cases h

theorem IsTerminal.next (h : e.IsTerminal) : e.next.2.IsTerminal := by
  obtain ⟨edits, hk⟩ := h
  rcases e with ⟨history, keyboard⟩
  obtain rfl : keyboard = .terminal edits := hk
  rcases edits with _ | ⟨edit, edits⟩
  · exact ⟨[], rfl⟩
  · exact ⟨edits, rfl⟩

/-- What each key makes of a read. -/
theorem read_edit {edit : Edit} (h : e.read.edit? = some edit) :
    (edit.key = .interrupt → e.read.reading = .ok (.line []) ∧ e.read.entered? = none) ∧
    (edit.key = .endOfInput → e.read.reading = .ok .endOfInput ∧ e.read.entered? = none) ∧
    (edit.key = .enter → ∃ text, e.read.reading = .ok (.line (utf8 text)) ∧
      text = e.history.shown edit.back ++ edit.text ∧
      e.read.entered? = if Text.isBlank text.toList then none else some text) := by
  rcases e with ⟨history, (_ | ⟨first, edits⟩) | bytes⟩
  · cases h
  · cases h
    rcases edit with ⟨back, typed, key⟩
    refine ⟨fun hkey => ?_, fun hkey => ?_, fun hkey => ?_⟩
    · obtain rfl : key = .interrupt := hkey
      exact ⟨rfl, rfl⟩
    · obtain rfl : key = .endOfInput := hkey
      exact ⟨rfl, rfl⟩
    · obtain rfl : key = .enter := hkey
      refine ⟨_, rfl, rfl, ?_⟩
      simp only [Step.entered?, Step.edit?, read, next, enter, Utf8.lossy_utf8, true_and, ite_not]
  · cases h

/-- Of a read at a terminal the history learns the text entered, if one is. -/
theorem history_read (h : e.IsTerminal) :
    e.read.after.history = e.read.entered?.elim e.history e.history.add := by
  obtain ⟨edits, hk⟩ := h
  rcases e with ⟨history, keyboard⟩
  obtain rfl : keyboard = .terminal edits := hk
  rcases edits with _ | ⟨⟨back, typed, _ | _ | _⟩, edits⟩
  · rfl
  · obtain ⟨text, -, rfl, hentered⟩ := (read_edit (e := ⟨history, .terminal
      (⟨back, typed, .enter⟩ :: edits)⟩) rfl).2.2 rfl
    rw [hentered]
    simp only [read, next, enter, offer]
    split <;> rfl
  · rfl
  · rfl

theorem history_of_not_entered (h : e.IsTerminal) (hn : e.read.entered? = none) :
    e.read.after.history = e.history := by
  rw [history_read h, hn]
  rfl

theorem newest_of_entered (h : e.IsTerminal) (hs : e.read.entered? = some text) :
    e.read.after.history.newest = some text := by
  rw [history_read h, hs]
  exact History.newest_add e.history text

/-- To enter the newest entry again changes nothing. -/
theorem read_recall (hn : ¬ Text.isBlank text.toList) (hnewest : e.history.newest = some text)
    (h : e.read.IsRecall) (ht : e.IsTerminal) :
    e.read.reading = .ok (.line (utf8 text)) ∧ e.read.after.history = e.history := by
  obtain ⟨shown, hreading, hshown, hentered⟩ := (read_edit h).2.2 rfl
  have htext : shown = text := by
    rw [hshown, History.shown_one, hnewest]
    exact String.append_empty
  rw [htext] at hreading hentered
  refine ⟨hreading, ?_⟩
  rw [history_read ht, hentered, if_neg hn]
  exact History.add_of_newest hnewest

/-! ## Rows of reads -/

/-- The editor after a number of reads. -/
def afterReads : Nat → Editor → Editor
  | 0, e => e
  | n + 1, e => afterReads n e.next.2

theorem steps_succ (n : Nat) (e : Editor) : steps (n + 1) e = e.read :: steps n e.next.2 := rfl

theorem length_steps (n : Nat) (e : Editor) : (steps n e).length = n := by
  induction n generalizing e with
  | zero => rfl
  | succ n ih => rw [steps_succ, List.length_cons, ih]

/-- The texts entered, one after the other, are all that a history learns of its reads. -/
theorem history_afterReads (h : e.IsTerminal) (reads : Nat) :
    (afterReads reads e).history =
      ((steps reads e).filterMap Step.entered?).foldl History.add e.history := by
  induction reads generalizing e with
  | zero => rfl
  | succ reads ih =>
    have hread := history_read h
    rw [steps_succ, List.filterMap_cons, afterReads, ih h.next,
      show e.next.2.history = e.read.after.history from rfl, hread]
    cases e.read.entered? <;> rfl

theorem exists_of_mem_steps (h : e.IsTerminal) {reads : Nat} (hs : step ∈ steps reads e) :
    ∃ e' : Editor, e'.IsTerminal ∧ step = e'.read := by
  induction reads generalizing e with
  | zero => cases hs
  | succ reads ih =>
    rcases List.mem_cons.1 hs with rfl | hs
    · exact ⟨e, h, rfl⟩
    · exact ih h.next hs

/-- The reads that follow one of a row are a row of their own. -/
theorem steps_of_eq_append {reads : Nat} {before rest : List Step}
    (h : steps reads e = before ++ step :: rest) : rest = steps rest.length step.after := by
  induction before generalizing reads e with
  | nil =>
    rcases reads with _ | reads
    · cases h
    · obtain ⟨rfl, rfl⟩ := List.cons.inj h
      rw [length_steps]
  | cons first before ih =>
    rcases reads with _ | reads
    · cases h
    · exact ih (List.cons.inj h).2

/-- While nothing but the newest entry is entered, it stays the newest. -/
theorem steps_unchanged (hn : ¬ Text.isBlank text.toList) (ht : e.IsTerminal)
    (hnewest : e.history.newest = some text) (reads : Nat)
    (h : ∀ step ∈ steps reads e, step.entered? = none ∨ step.IsRecall) :
    ∀ step ∈ steps reads e, step.after.history = e.history ∧
      (step.IsRecall → step.reading = .ok (.line (utf8 text))) := by
  induction reads generalizing e with
  | zero => exact fun _ hstep => absurd hstep List.not_mem_nil
  | succ reads ih =>
    rw [steps_succ] at h ⊢
    have hfirst : e.read.after.history = e.history ∧
        (e.read.IsRecall → e.read.reading = .ok (.line (utf8 text))) := by
      refine ⟨?_, fun hrecall => (read_recall hn hnewest hrecall ht).1⟩
      rcases h e.read List.mem_cons_self with hnone | hrecall
      · exact history_of_not_entered ht hnone
      · exact (read_recall hn hnewest hrecall ht).2
    have hhistory : e.next.2.history = e.history := hfirst.1
    intro step hstep
    rcases List.mem_cons.1 hstep with rfl | hstep
    · exact hfirst
    · have hrest := ih ht.next (hhistory ▸ hnewest) fun s hs => h s (List.mem_cons_of_mem _ hs)
      rw [hhistory] at hrest
      exact hrest step hstep

/-- However long it goes on at a terminal, the history is tidy and its newest entry is the text
entered last; other keys, and blank lines, change nothing. From when a text is entered on and until
another is, one step back and enter gives that text again, any number of times. -/
theorem steps_recall (edits : List Edit) (reads : Nat) :
    let e : Editor := { keyboard := .terminal edits }
    let row := steps reads e
    let history := (afterReads reads e).history
    (history.IsTidy ∧ history.newest = (row.filterMap Step.entered?).getLast?) ∧
    (∀ step ∈ row, step.entered? = none → step.after.history = step.before.history) ∧
    (∀ step ∈ row, ∀ edit, step.edit? = some edit →
      (edit.key = .interrupt → step.reading = .ok (.line []) ∧ step.entered? = none) ∧
      (edit.key = .endOfInput → step.reading = .ok .endOfInput ∧ step.entered? = none) ∧
      (edit.key = .enter → ∃ text, step.reading = .ok (.line (utf8 text)) ∧
        text = step.before.history.shown edit.back ++ edit.text ∧
        step.entered? = if Text.isBlank text.toList then none else some text)) ∧
    ∀ before step rest text, row = before ++ step :: rest → step.entered? = some text →
      (∀ later ∈ rest, later.entered? = none ∨ later.IsRecall) →
      ∀ later ∈ rest, later.after.history = step.after.history ∧
        (later.IsRecall → later.reading = .ok (.line (utf8 text))) := by
  intro e row history
  have ht : e.IsTerminal := ⟨edits, rfl⟩
  have hhistory : history = (row.filterMap Step.entered?).foldl History.add {} :=
    history_afterReads ht reads
  refine ⟨⟨?_, ?_⟩, ?_, ?_, ?_⟩
  · rw [hhistory]
    refine History.isTidy_empty.foldl_add fun text htext => ?_
    obtain ⟨step, -, hentered⟩ := List.mem_filterMap.1 htext
    exact not_isBlank_of_entered hentered
  · rw [hhistory, History.newest_foldl_add]
    exact Option.or_none
  · intro step hstep hnone
    obtain ⟨e', ht', rfl⟩ := exists_of_mem_steps ht hstep
    exact history_of_not_entered ht' hnone
  · intro step hstep edit hedit
    obtain ⟨e', -, rfl⟩ := exists_of_mem_steps ht hstep
    exact read_edit hedit
  · intro before step rest text hrow hentered hlater
    have hstep : step ∈ row := by rw [hrow]; exact List.mem_append_right before List.mem_cons_self
    obtain ⟨e', ht', rfl⟩ := exists_of_mem_steps ht hstep
    have hrest := steps_of_eq_append hrow
    rw [hrest] at hlater ⊢
    exact steps_unchanged (not_isBlank_of_entered hentered) ht'.next
      (newest_of_entered ht' hentered) _ hlater

/-- A command that is called back twice, after an interrupt, a blank line and an end of input. -/
theorem steps_recall_twice :
    let again : Edit := { back := 1, key := .enter }
    let interrupt : Edit := { text := "rm", key := .interrupt }
    let e : Editor := { keyboard := .terminal [
      { text := "ls", key := .enter }, interrupt, { text := "\u3000", key := .enter },
      { key := .endOfInput }, again, again] }
    let rest := steps 5 e.next.2
    let interrupted := e.next.2.read
    (interrupted ∈ steps 6 e ∧ interrupted.edit? = some interrupt ∧
      interrupted.reading = .ok (.line []) ∧
      interrupted.after.history = interrupted.before.history) ∧
    steps 6 e = [] ++ e.read :: rest ∧ e.read.entered? = some "ls" ∧
      (∀ later ∈ rest, later.entered? = none ∨ later.IsRecall) ∧
      ∀ later ∈ rest, later.after.history = e.next.2.history ∧
        (later.IsRecall → later.reading = .ok (.line (utf8 "ls"))) := by
  intro again interrupt e rest interrupted
  obtain ⟨-, hunchanged, hkeys, hrecall⟩ := steps_recall
    [{ text := "ls", key := .enter }, interrupt, { text := "\u3000", key := .enter },
      { key := .endOfInput }, again, again] 6
  have hmem : interrupted ∈ steps 6 e := List.mem_cons_of_mem _ List.mem_cons_self
  obtain ⟨hline, hnone⟩ := (hkeys interrupted hmem interrupt rfl).1 rfl
  have hentered : e.read.entered? = some "ls" := by decide
  have hlater : ∀ later ∈ rest, later.entered? = none ∨ later.IsRecall := by decide
  exact ⟨⟨hmem, rfl, hline, hunchanged interrupted hmem hnone⟩, rfl, hentered, hlater,
    hrecall [] e.read rest "ls" rfl hentered hlater⟩

end Editor

end TinyShell
