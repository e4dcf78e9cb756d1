import TinyShell.Proofs.Encoded
import TinyShell.Proofs.OneLine
import TinyShell.Proofs.Reading

/-!
# One text from two sources

A stream and, off a terminal, an editor cut a text into lines each in its own way: the stream
drops a tail that no newline ends and keeps carriage returns, the editor gives the tail as a line
and takes one carriage return from the end of every other. No command can tell them apart but by
the tail (`Shell.readEach_sources`).
-/

namespace TinyShell

/-- A line without the carriage return that it may end in. -/
def withoutReturn (line : Bytes) : Bytes :=
  if line.getLast? = some 0x0D then line.dropLast else line

theorem withoutReturn_cases (line : Bytes) :
    line = withoutReturn line ∨ line = withoutReturn line ++ [0x0D] := by
  unfold withoutReturn
  split
  · next h =>
    obtain ⟨front, rfl⟩ := List.getLast?_eq_some_iff.1 h
    exact .inr (by rw [List.dropLast_concat])
  · exact .inl rfl

/-- A carriage return is blank. -/
theorem Token.words_withoutReturn (line : Bytes) : words (withoutReturn line) = words line := by
  rcases withoutReturn_cases line with h | h
  · rw [← h]
  · have hwords : words (withoutReturn line ++ [0x0D]) = words (withoutReturn line) ++ words [] :=
      words_append (by decide) _ []
    rw [← h] at hwords
    exact (List.append_nil _).symm.trans hwords.symm

/-! ## Texts and their lines -/

/-- The lines of a text are texts. -/
theorem exists_lines (text : String) : ∃ (lines : List String) (tail : String),
    (∀ line ∈ tail :: lines, OneLine line) ∧
      terminated (lines.map utf8) ++ utf8 tail = utf8 text := by
  have hutf8 (c : Char) (line : String) :
      utf8 (String.singleton c ++ line) = String.utf8EncodeChar c ++ utf8 line := by
    simp [utf8]
  rw [show utf8 text = text.toList.flatMap String.utf8EncodeChar from rfl]
  induction text.toList with
  | nil => exact ⟨[], "", by decide, rfl⟩
  | cons c cs ih =>
    obtain ⟨lines, tail, hplain, hcs⟩ := ih
    rw [List.flatMap_cons, ← hcs]
    by_cases hc : c = '\n'
    · subst hc
      obtain ⟨htail, hlines⟩ := List.forall_mem_cons.1 hplain
      have hempty : OneLine "" := by decide
      refine ⟨"" :: lines, tail, ?_, by rw [List.map_cons, terminated_cons]; rfl⟩
      exact List.forall_mem_cons.2 ⟨htail, List.forall_mem_cons.2 ⟨hempty, hlines⟩⟩
    · have hsingle : OneLine (String.singleton c) := by
        simpa [OneLine] using Ne.symm hc
      cases lines with
      | nil =>
        refine ⟨[], String.singleton c ++ tail, ?_, ?_⟩
        · simpa [hsingle] using hplain
        · exact hutf8 c tail
      | cons line lines =>
        refine ⟨(String.singleton c ++ line) :: lines, tail, ?_, ?_⟩
        · simpa [hsingle] using hplain
        · rw [List.map_cons, List.map_cons, terminated_cons, terminated_cons, hutf8]
          simp only [List.append_assoc, List.cons_append]

/-- Nothing is left over of a text that is empty, or ends with a newline. -/
theorem tail_eq_nil_iff {tail : Bytes} (h : newline ∉ tail) (lines : List Bytes) :
    tail = [] ↔ terminated lines ++ tail = [] ∨
      (terminated lines ++ tail).getLast? = some newline := by
  constructor
  · rintro rfl
    rcases List.eq_nil_or_concat lines with rfl | ⟨front, last, rfl⟩
    · exact .inl rfl
    · exact .inr (by simp [terminated])
  · rintro (hnil | hlast)
    · exact (List.append_eq_nil_iff.1 hnil).2
    · rcases List.eq_nil_or_concat tail with rfl | ⟨front, b, rfl⟩
      · rfl
      · obtain rfl : b = newline := by simpa using hlast
        exact absurd (by simp) h

/-! ## The editor -/

namespace Keyboard

variable {line : Bytes}

theorem takeWhile_line (h : newline ∉ line) (rest : Bytes) :
    (line ++ rest).takeWhile (· != newline) = line ++ rest.takeWhile (· != newline) :=
  List.takeWhile_append_of_pos fun b hb => by
    simpa using fun he : b = newline => h (he ▸ hb)

theorem cut_line (h : newline ∉ line) (rest : Bytes) :
    cut (line ++ newline :: rest) = (line ++ [newline], rest) := by
  have hline : (line ++ newline :: rest).takeWhile (· != newline) = line := by
    rw [takeWhile_line h, List.takeWhile_cons_of_neg (by simp), List.append_nil]
  simp only [cut, hline]
  simp [List.drop_append]

theorem cut_tail (h : newline ∉ line) : cut line = (line, []) := by
  have hline : line.takeWhile (· != newline) = line := by
    simpa using takeWhile_line h []
  simp [cut, hline]

theorem strip_line (line : Bytes) : strip (line ++ [newline]) = withoutReturn line := by
  simp [strip, withoutReturn]

theorem strip_tail (h : newline ∉ line) : strip line = line := by
  refine if_neg fun hlast => h ?_
  obtain ⟨front, rfl⟩ := List.getLast?_eq_some_iff.1 hlast
  simp

end Keyboard

namespace Editor

variable (history : History) {text : String}

theorem next_line (h : OneLine text) (rest : Bytes) : ∃ history',
    next { history, keyboard := .piped (utf8 text ++ newline :: rest) } =
      (.ok (.line (withoutReturn (utf8 text))),
        { history := history', keyboard := .piped rest }) := by
  have hvalid : Utf8.decode? (utf8 text ++ [newline]) = some (text ++ "\n").toList := by
    rw [← Utf8.decode?_utf8, utf8_append]; rfl
  obtain ⟨b, bytes, hrest⟩ : ∃ b bytes, utf8 text ++ newline :: rest = b :: bytes :=
    List.exists_cons_of_ne_nil (by simp)
  have hcut := Keyboard.cut_line (newline_not_mem_utf8 h) rest
  rw [hrest] at hcut ⊢
  simp only [next, hcut, hvalid, Keyboard.strip_line]
  exact ⟨_, rfl⟩

theorem next_tail (h : OneLine text) (hne : text ≠ "") : ∃ history',
    next { history, keyboard := .piped (utf8 text) } =
      (.ok (.line (utf8 text)), { history := history', keyboard := .piped [] }) := by
  have hvalid := Utf8.decode?_utf8 text
  obtain ⟨b, bytes, htext⟩ := List.exists_cons_of_ne_nil (mt utf8_eq_nil_iff.1 hne)
  have hcut := Keyboard.cut_tail (newline_not_mem_utf8 h)
  have hstrip := Keyboard.strip_tail (newline_not_mem_utf8 h)
  rw [htext] at hcut hstrip hvalid ⊢
  simp only [next, hcut, hvalid, hstrip]
  exact ⟨_, rfl⟩

end Editor

/-! ## Calls -/

/-- What calls give that read these lines and then the end. -/
def Reading.row (lines : List Bytes) (calls : Nat) : List (Except ShellError Reading) :=
  (lines.map fun line => .ok (.line line)).take calls ++
    List.replicate (calls - lines.length) (.ok .endOfInput)

theorem Reading.row_cons (line : Bytes) (lines : List Bytes) (calls : Nat) :
    row (line :: lines) (calls + 1) = .ok (.line line) :: row lines calls := by
  simp [row]

theorem Reading.row_nil (calls : Nat) : row [] (calls + 1) = .ok .endOfInput :: row [] calls := by
  simp [row, List.replicate_succ]

namespace Shell

theorem readEach_editor (sh : Shell) (e : Editor) (prompt : String) (prompts : List String) :
    (sh.readEach (.editor e) (prompt :: prompts)).1 =
      e.next.1.mapError .editor :: (sh.readEach (.editor e.next.2) prompts).1 := rfl

/-- What an editor off a terminal gives. -/
theorem readEach_piped (sh : Shell) (history : History) {lines : List String} {tail : String}
    (h : ∀ line ∈ tail :: lines, OneLine line) (prompts : List String) :
    (sh.readEach (.editor {
        history, keyboard := .piped (terminated (lines.map utf8) ++ utf8 tail) }) prompts).1 =
      Reading.row ((lines.map utf8).map withoutReturn ++ if tail = "" then [] else [utf8 tail])
        prompts.length := by
  induction prompts generalizing history lines tail with
  | nil => simp [readEach, Reading.row]
  | cons prompt prompts ih =>
    obtain ⟨htail, hlines⟩ := List.forall_mem_cons.1 h
    rw [readEach_editor, List.length_cons]
    cases lines with
    | cons line lines =>
      obtain ⟨hline, hlines⟩ := List.forall_mem_cons.1 hlines
      obtain ⟨history', hnext⟩ :=
        Editor.next_line history hline (terminated (lines.map utf8) ++ utf8 tail)
      rw [List.map_cons, terminated_cons, List.append_assoc, List.cons_append, hnext,
        List.map_cons, List.cons_append, Reading.row_cons]
      exact congrArg _ (ih history' (List.forall_mem_cons.2 ⟨htail, hlines⟩))
    | nil =>
      have hempty : ∀ line ∈ [""], OneLine line := by decide
      by_cases hnil : tail = ""
      · subst hnil
        have hrest := ih history hempty
        rw [if_pos rfl] at hrest ⊢
        exact (congrArg (Except.ok Reading.endOfInput :: ·) hrest).trans (Reading.row_nil _).symm
      · obtain ⟨history', hnext⟩ := Editor.next_tail history htail hnil
        have hrest := ih history' hempty
        rw [List.map_nil, show terminated [] ++ utf8 tail = utf8 tail from rfl, hnext, if_neg hnil]
        exact congrArg (Except.ok (Reading.line (utf8 tail)) :: ·) hrest

variable {sh : Shell} {s : Stream}

/-- A text, read by a stream and by an editor off a terminal. They give the same lines, but that
the editor leaves out a carriage return at the end of one; after them the editor gives the tail as
it is. -/
theorem readEach_sources (text : String) (hout : sh.out.policy = .reliable)
    (hfinite : s.feed.IsFinite sh.world.input)
    (hs : s.symbols sh.world.input = (utf8 text).map .byte) (sh' : Shell) (history : History) :
    ∃ lines tail, (∀ line ∈ tail :: lines, newline ∉ line) ∧
      terminated lines ++ tail = utf8 text ∧
      (tail = [] ↔ utf8 text = [] ∨ (utf8 text).getLast? = some newline) ∧
      (∀ prompts, (sh.readEach (.stream s) prompts).1 = Reading.row lines prompts.length) ∧
      (∀ prompts,
        (sh'.readEach (.editor { history, keyboard := .piped (utf8 text) }) prompts).1 =
          Reading.row (lines.map withoutReturn ++ if tail = [] then [] else [tail])
            prompts.length) ∧
      ∀ line ∈ lines, Token.words (withoutReturn line) = Token.words line ∧
        (line = withoutReturn line ∨ line = withoutReturn line ++ [0x0D]) := by
  obtain ⟨lines, tail, hplain, htext⟩ := exists_lines text
  have hnewline : ∀ line ∈ utf8 tail :: lines.map utf8, newline ∉ line := by
    rw [← List.map_cons]
    exact List.forall_mem_map.2 fun line hline => newline_not_mem_utf8 (hplain line hline)
  refine ⟨lines.map utf8, utf8 tail, hnewline, htext, ?_, fun prompts => ?_, fun prompts => ?_,
    fun line _ => ⟨Token.words_withoutReturn line, withoutReturn_cases line⟩⟩
  · rw [← htext]
    exact tail_eq_nil_iff (hnewline _ List.mem_cons_self) _
  · obtain ⟨s', sh₁, hread, -⟩ := readEach_readings hout hfinite prompts
    rw [hread, hs, ← htext, Symbol.readings_terminated hnewline]
    simp only [Reading.row, List.map_append, List.map_take, List.map_map, List.map_replicate,
      List.length_map]
    rfl
  · rw [← htext]
    simpa only [utf8_eq_nil_iff] using readEach_piped sh' history hplain prompts

/-- Carriage returns before a newline and without one, and a tail. -/
theorem readEach_sources_returns :
    let sh : Shell := { world := { files := ⟨#[]⟩, cwd := 0, environment := [] } }
    let text := "a\r\r\n\r\nb\nc\r"
    let s : Stream := {
      feed := .scripted [.chunk (utf8 "a\r"), .interrupted, .chunk (utf8 "\r\n\r\nb\nc\r")] }
    let e : Editor := { keyboard := .piped (utf8 text) }
    let prompts := ["", "", "", "", ""]
    sh.out.policy = .reliable ∧ s.feed.IsFinite sh.world.input ∧
      s.symbols sh.world.input = (utf8 text).map .byte ∧
      (sh.readEach (.editor e) prompts).1.map Except.toOption =
        [some (.line (utf8 "a\r")), some (.line []), some (.line (utf8 "b")),
          some (.line (utf8 "c\r")), some .endOfInput] ∧
      ∃ lines tail, terminated lines ++ tail = utf8 text ∧ tail ≠ [] ∧
        (sh.readEach (.stream s) prompts).1 = Reading.row lines 5 ∧
        (sh.readEach (.editor e) prompts).1 =
          Reading.row (lines.map withoutReturn ++ [tail]) 5 := by
  intro sh text s e prompts
  have hout : sh.out.policy = .reliable := rfl
  have hfinite : s.feed.IsFinite sh.world.input := trivial
  have hs : s.symbols sh.world.input = (utf8 text).map .byte := by decide
  obtain ⟨lines, tail, -, htext, htail, hstream, hediting, -⟩ :=
    readEach_sources text hout hfinite hs sh {}
  have hne : tail ≠ [] := mt htail.1 (by decide)
  have hediting := hediting prompts
  rw [if_neg hne] at hediting
  exact ⟨hout, hfinite, hs, by decide, lines, tail, htext, hne, hstream prompts, hediting⟩

end Shell

end TinyShell
