import TinyShell.Error
import TinyShell.Line.History
import TinyShell.Line.Stream
import TinyShell.Text.Blank

/-!
# Lines from an editor

An `Editor` reads at a terminal or off one. At a terminal each line is one `Edit`: steps
back in the history, text typed at the end of the line, and the key that ends it. Off a
terminal it takes bytes up to a newline or the end, and they have to be UTF-8. Lines that
are not blank are offered to the history.
-/

namespace TinyShell

inductive Key where
  | enter
  | interrupt
  | endOfInput
  deriving DecidableEq, Repr

structure Edit where
  back : Nat := 0
  text : String := ""
  key : Key
  deriving DecidableEq, Repr

inductive Keyboard where
  | terminal (edits : List Edit)
  | piped (rest : Bytes)
  deriving DecidableEq, Repr

namespace Keyboard

def size : Keyboard → Nat
  | terminal edits => edits.length
  | piped rest => rest.length

/-- Reads what was typed at a terminal: enter is carriage return, interrupt Ctrl-C and end
of input Ctrl-D. Text that no key ends is no edit. -/
def typed (text : List Char) : List Edit :=
  (text.foldl (fun (edits, line) c =>
    if c = '\r' then (edits ++ [{ text := String.ofList line, key := .enter }], [])
    else if c = '\x03' then (edits ++ [{ text := String.ofList line, key := .interrupt }], [])
    else if c = '\x04' then (edits ++ [{ text := String.ofList line, key := .endOfInput }], [])
    else (edits, line ++ [c])) (([], []) : List Edit × List Char)).1

/-- The bytes of one line and its newline, and what follows. -/
def cut (rest : Bytes) : Bytes × Bytes :=
  let line := rest.takeWhile (· != newline)
  (line ++ (rest.drop line.length).take 1, rest.drop (line.length + 1))

/-- A line without the newline that ends it, nor a carriage return before that. -/
def strip (line : Bytes) : Bytes :=
  if line.getLast? = some newline then
    let line := line.dropLast
    if line.getLast? = some 0x0D then line.dropLast else line
  else line

theorem length_cut_lt {rest : Bytes} (h : rest ≠ []) :
    (cut rest).2.length < rest.length := by
  have : 0 < rest.length := List.length_pos_iff.2 h
  simp only [cut, List.length_drop]
  omega

end Keyboard

structure Editor where
  history : History := {}
  keyboard : Keyboard
  deriving DecidableEq, Repr

namespace Editor

/-- Offers a line to the history, unless it is blank. -/
def offer (history : History) (text : String) : History :=
  if Text.isBlank text.toList then history else history.add text

/-- One edit at a terminal. An interrupt drops what was typed and leaves an empty line. -/
def enter (history : History) (edit : Edit) : Reading × History :=
  match edit.key with
  | .enter =>
    let text := history.shown edit.back ++ edit.text
    (.line (utf8 text), offer history text)
  | .interrupt => (.line [], history)
  | .endOfInput => (.endOfInput, history)

/-- The next line. Bytes that are not UTF-8 are an error, and gone. -/
def next (e : Editor) : Except EditorError Reading × Editor :=
  match e.keyboard with
  | .terminal [] | .piped [] => (.ok .endOfInput, e)
  | .terminal (edit :: edits) =>
    let (reading, history) := enter e.history edit
    (.ok reading, { history, keyboard := .terminal edits })
  | .piped rest =>
    let (line, rest) := Keyboard.cut rest
    match Utf8.decode? line with
    | some _ =>
      let line := Keyboard.strip line
      (.ok (.line line), { history := offer e.history (Utf8.lossy line), keyboard := .piped rest })
    | none => (.error (.io .notUtf8), { e with keyboard := .piped rest })

theorem size_next_lt (e : Editor) {line : Bytes} {e' : Editor}
    (h : e.next = (.ok (.line line), e')) : e'.keyboard.size < e.keyboard.size := by
  rcases e with ⟨history, keyboard⟩
  unfold next at h
  rcases keyboard with (_ | ⟨edit, edits⟩) | rest
  · simp at h
  · simp only [Prod.mk.injEq] at h
    obtain ⟨-, rfl⟩ := h
    simp [Keyboard.size]
  · rcases rest with _ | ⟨b, bs⟩
    · simp at h
    · have := @Keyboard.length_cut_lt (b :: bs) (by simp)
      simp only at h
      split at h
      · simp only [Prod.mk.injEq] at h
        obtain ⟨-, rfl⟩ := h
        exact this
      · simp at h

end Editor

end TinyShell
