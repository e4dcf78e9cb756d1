import TinyShell.Bytes

/-!
# History

The texts entered at a terminal, newest first. `History.add` keeps at most `History.limit`
of them and refuses one equal to the newest, so neighbours always differ;
`History.shown` is what a number of steps back shows.
-/

namespace TinyShell

structure History where
  entries : List String := []
  deriving DecidableEq, Repr

namespace History

def limit : Nat := 100

def newest (h : History) : Option String := h.entries.head?

def add (h : History) (text : String) : History :=
  if h.newest = some text then h else ⟨(text :: h.entries).take limit⟩

/-- The entry `steps` back. Going back stops at the oldest; without a step, or without an
entry, there is nothing. -/
def shown (h : History) (steps : Nat) : String :=
  match min steps h.entries.length with
  | 0 => ""
  | n + 1 => h.entries.getD n ""

theorem newest_add (h : History) (text : String) : (h.add text).newest = some text := by
  unfold add; split
  · assumption
  · simp [newest, limit]

theorem shown_one (h : History) : h.shown 1 = h.newest.getD "" := by
  rcases h with ⟨_ | ⟨text, entries⟩⟩
  · rfl
  · simp [shown, newest]

theorem add_of_newest {h : History} {text : String} (e : h.newest = some text) :
    h.add text = h := by
  simp [add, e]

end History

end TinyShell
