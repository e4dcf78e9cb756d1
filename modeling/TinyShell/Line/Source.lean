import TinyShell.Line.Editor

/-!
# Where command lines come from

A `Source` is a stream, which shows a prompt on the output of the shell, or an editor,
which draws its own. Every line read makes it smaller (`Source.size_next_lt`), and so it
ends.
-/

namespace TinyShell

inductive Source where
  | stream (s : Stream)
  | editor (e : Editor)
  deriving DecidableEq, Repr

namespace Source

/-- Whether the shell has to show the prompt. -/
def isPrompted : Source → Bool
  | stream _ => true
  | editor _ => false

def size (input : Input) : Source → Nat
  | stream s => s.size input
  | editor e => e.keyboard.size

/-- The next line, with what there is to tell of the reading. -/
def next (input : Input) :
    Source → Except ShellError Reading × List Event × Source × Input
  | stream s =>
    let (reading, events, s, input) := s.next input
    (reading.mapError .io, events, stream s, input)
  | editor e =>
    let (reading, e) := e.next
    (reading.mapError .editor, [], editor e, input)

theorem size_next_lt (s : Source) (input : Input) {line : Bytes} {events : List Event}
    {s' : Source} {input' : Input} (h : s.next input = (.ok (.line line), events, s', input')) :
    s'.size input' < s.size input := by
  rcases s with s | e
  · simp only [next, Prod.mk.injEq] at h
    obtain ⟨h, -, rfl, rfl⟩ := h
    rcases h' : s.next input with ⟨_ | _, events, s', input'⟩ <;> rw [h'] at h <;> cases h
    exact Stream.size_next_lt s input h'
  · simp only [next, Prod.mk.injEq] at h
    obtain ⟨h, -, rfl, rfl⟩ := h
    rcases h' : e.next with ⟨_ | _, e'⟩ <;> rw [h'] at h <;> cases h
    exact Editor.size_next_lt e h'

theorem size_drop_le (s : Source) (input : Input) (count : Nat) :
    s.size (input.drop count) ≤ s.size input := by
  rcases s with ⟨unread, _ | _⟩ | e <;> rcases input with rest | _ <;>
    simp [size, Stream.size, Feed.size, Input.drop, Input.rest]

end Source

end TinyShell
