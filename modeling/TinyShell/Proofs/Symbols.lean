import TinyShell.Shell

/-!
# The symbols of a stream

What a stream has yet to give is a row of symbols: bytes, ends that do not last, and
failures. How the bytes are cut into chunks and where reads are interrupted leaves no mark
on it. `Symbol.next` takes a line off the row, `Stream.next_symbols` says that a stream
does the same.
-/

namespace TinyShell

inductive Symbol where
  | byte (b : UInt8)
  /-- An end of the stream that does not last. -/
  | pause
  | failure (cause : IoError)
  deriving DecidableEq, Repr

/-- The same reading, had these bytes stood before it. -/
def Reading.after (before : Bytes) : Reading → Reading
  | line bytes => line (before ++ bytes)
  | endOfInput => endOfInput

@[simp] theorem Reading.after_nil : Reading.after [] = id := by
  funext r; cases r <;> rfl

theorem Reading.map_after (a b : Bytes) (r : Except IoError Reading) :
    (r.map (after b)).map (after a) = r.map (after (a ++ b)) := by
  rcases r with _ | _ | _ <;> simp [Except.map, after]

namespace Symbol

/-- Takes the symbols up to the first that ends a line: a newline, a pause or a failure.
Bytes that no newline ends are dropped. -/
def next : List Symbol → Except IoError Reading × List Symbol
  | [] => (.ok .endOfInput, [])
  | pause :: rest => (.ok .endOfInput, rest)
  | failure cause :: rest => (.error cause, rest)
  | byte b :: rest =>
    if b = newline then (.ok (.line []), rest)
    else ((next rest).1.map (Reading.after [b]), (next rest).2)

/-- One reading after another. -/
def readings : Nat → List Symbol → List (Except IoError Reading) × List Symbol
  | 0, row => ([], row)
  | n + 1, row => ((next row).1 :: (readings n (next row).2).1, (readings n (next row).2).2)

theorem next_append {bytes : Bytes} (h : newline ∉ bytes) (row : List Symbol) :
    next (bytes.map byte ++ row) =
      ((next row).1.map (Reading.after bytes), (next row).2) := by
  induction bytes with
  | nil =>
    rcases h : next row with ⟨_ | _, rest⟩ <;> simp [Except.map, h]
  | cons b bytes ih =>
    have hb : b ≠ newline := fun e => h (e ▸ List.mem_cons_self)
    have ih := ih fun hm => h (List.mem_cons_of_mem b hm)
    rw [List.map_cons, List.cons_append, next, if_neg hb, ih]
    cases (next row).1 with
    | error e => rfl
    | ok r => cases r <;> rfl

theorem next_newline {bytes : Bytes} (h : newline ∉ bytes) (row : List Symbol) :
    next (bytes.map byte ++ byte newline :: row) = (.ok (.line bytes), row) := by
  rw [next_append h]; simp [next, Except.map, Reading.after]

theorem next_bytes {bytes : Bytes} (h : newline ∉ bytes) :
    next (bytes.map byte) = (.ok .endOfInput, []) := by
  have := next_append h []
  rw [List.append_nil] at this
  rw [this]; rfl

end Symbol

/-! ## Deliveries and streams -/

def Delivery.symbols : Delivery → List Symbol
  | chunk [] => [.pause]
  | chunk (b :: bytes) => (b :: bytes).map .byte
  | interrupted => []
  | failed cause => [.failure cause]

/-- The feed ends, and gives nothing only then. -/
def Feed.IsFinite (input : Input) : Feed → Prop
  | scripted _ => True
  | descriptor block => 0 < block ∧ input ≠ .directory

def Feed.symbols (input : Input) : Feed → List Symbol
  | scripted deliveries => deliveries.flatMap Delivery.symbols
  | descriptor _ => input.rest.map .byte

/-- What an offer means for the symbols: `row` was there before it and `row'` is there
after it, with `unread` at hand. -/
def Delivery.Spells (row row' : List Symbol) (unread : Bytes) : Delivery → Prop
  | interrupted => row = row'
  | failed cause => row = .failure cause :: row'
  | chunk [] => Symbol.next row = (.ok .endOfInput, row')
  | chunk (b :: bytes) => row = row' ∧ unread = b :: bytes

theorem LineBuffer.append_bytes (b : LineBuffer) (bytes : Bytes) :
    (b.append bytes).bytes = b.bytes ++ bytes := by
  unfold append makeRoom
  simp only
  split <;> rfl

theorem newline_not_mem_takeWhile (bytes : Bytes) :
    newline ∉ bytes.takeWhile (· != newline) := fun hm => by
  have h := List.all_eq_true.1 (List.all_takeWhile (p := (· != newline)) (l := bytes)) newline hm
  simp at h

namespace Stream

def symbols (s : Stream) (input : Input) : List Symbol :=
  s.unread.map .byte ++ s.feed.symbols input

variable {s s' : Stream} {input input' : Input}

theorem available_spells (hf : s.feed.IsFinite input) {d : Delivery}
    (h : s.available input = (d, s', input')) :
    s'.feed.IsFinite input' ∧ d.Spells (s.symbols input) (s'.symbols input') s'.unread := by
  rcases s with ⟨unread, feed⟩
  cases unread with
  | cons x xs =>
    simp only [available, Prod.mk.injEq] at h
    obtain ⟨rfl, rfl, rfl⟩ := h
    exact ⟨hf, rfl, rfl⟩
  | nil =>
    cases feed with
    | scripted ds =>
      rcases ds with _ | ⟨(_ | _) | _ | _, ds⟩ <;>
        simp only [available, Feed.fetch, Prod.mk.injEq] at h <;>
        obtain ⟨rfl, rfl, rfl⟩ := h <;>
        simp [Delivery.Spells, symbols, Feed.symbols, Feed.IsFinite, Delivery.symbols, Symbol.next]
    | descriptor block =>
      cases input with
      | directory => exact absurd rfl hf.2
      | bytes rest =>
        simp only [available, Feed.fetch, Prod.mk.injEq] at h
        obtain ⟨rfl, rfl, rfl⟩ := h
        refine ⟨⟨hf.1, by simp⟩, ?_⟩
        cases rest with
        | nil => simp [Delivery.Spells, symbols, Feed.symbols, Input.rest, Symbol.next]
        | cons b rest =>
          obtain ⟨n, rfl⟩ : ∃ n, block = n + 1 := ⟨block - 1, by have := hf.1; omega⟩
          simp [Delivery.Spells, symbols, Feed.symbols, Input.rest]

/-- What the bytes collected turn out to be. -/
def Ending.reading (bytes : Bytes) : Ending → Except IoError Reading
  | newline => .ok (.line bytes)
  | endOfInput => .ok .endOfInput
  | failed cause => .error cause

theorem collect_symbols (b : LineBuffer) (hf : s.feed.IsFinite input) {e : Ending}
    {b' : LineBuffer} (h : s.collect b input = (e, b', s', input')) :
    s'.feed.IsFinite input' ∧
      e.reading b'.bytes = (Symbol.next (s.symbols input)).1.map (Reading.after b.bytes) ∧
      s'.symbols input' = (Symbol.next (s.symbols input)).2 := by
  fun_induction collect b s input with
  | case1 b s input s₁ input₁ h₁ ih =>
    obtain ⟨hf₁, hs⟩ := available_spells hf h₁
    rw [show s.symbols input = s₁.symbols input₁ from hs]
    exact ih hf₁ h
  | case2 b s input cause s₁ input₁ h₁ =>
    obtain ⟨hf₁, hs⟩ := available_spells hf h₁
    simp only [Prod.mk.injEq] at h
    obtain ⟨rfl, rfl, rfl, rfl⟩ := h
    rw [show s.symbols input = .failure cause :: s₁.symbols input₁ from hs]
    exact ⟨hf₁, rfl, rfl⟩
  | case3 b s input s₁ input₁ h₁ =>
    obtain ⟨hf₁, hs⟩ := available_spells hf h₁
    simp only [Prod.mk.injEq] at h
    obtain ⟨rfl, rfl, rfl, rfl⟩ := h
    rw [show Symbol.next (s.symbols input) = _ from hs]
    exact ⟨hf₁, rfl, rfl⟩
  | case4 b s input x xs s₁ input₁ h₁ hx ih =>
    obtain ⟨hf₁, hs, hu⟩ := available_spells hf h₁
    have hn : newline ∉ x :: xs := by
      have hall := List.takeWhile_append_dropWhile (p := (· != newline)) (l := x :: xs)
      rw [hx, List.append_nil] at hall
      rw [← hall]
      exact newline_not_mem_takeWhile _
    have hchunk : s.symbols input =
        (x :: xs).map .byte ++ symbols ⟨[], s₁.feed⟩ input₁ := by
      rw [hs, symbols, hu]; rfl
    obtain ⟨hf', hr, hrow⟩ := ih hf₁ h
    rw [LineBuffer.append_bytes, ← Reading.map_after] at hr
    rw [hchunk, Symbol.next_append hn]
    exact ⟨hf', hr, hrow⟩
  | case5 b s input x xs s₁ input₁ h₁ y rest hx =>
    obtain ⟨hf₁, hs, hu⟩ := available_spells hf h₁
    simp only [Prod.mk.injEq] at h
    obtain ⟨rfl, rfl, rfl, rfl⟩ := h
    have hy : y = newline := by
      have := List.head?_dropWhile_not (· != newline) (x :: xs)
      rw [hx] at this
      simpa using this
    have hcut : (x :: xs).takeWhile (· != newline) ++ newline :: rest = x :: xs := by
      rw [← hy, ← hx, hy]; exact List.takeWhile_append_dropWhile
    have hline : s.symbols input = ((x :: xs).takeWhile (· != newline)).map .byte ++
        .byte newline :: symbols ⟨rest, s₁.feed⟩ input₁ := by
      rw [hs, symbols, hu, ← hcut, List.map_append, List.append_assoc, hcut]; rfl
    rw [hline, Symbol.next_newline (newline_not_mem_takeWhile _), LineBuffer.append_bytes]
    exact ⟨hf₁, rfl, rfl⟩

/-- A stream reads what its symbols spell. -/
theorem next_symbols (hf : s.feed.IsFinite input) {r : Except IoError Reading}
    {events : List Event} (h : s.next input = (r, events, s', input')) :
    s'.feed.IsFinite input' ∧ Symbol.next (s.symbols input) = (r, s'.symbols input') := by
  rcases hc : s.collect {} input with ⟨e, b, s₁, input₁⟩
  obtain ⟨hf₁, hr, hrow⟩ := collect_symbols {} hf hc
  have hnext : Symbol.next (s.symbols input) = (e.reading b.bytes, s₁.symbols input₁) := by
    rw [hr, hrow]
    rcases Symbol.next (s.symbols input) with ⟨_ | _, _⟩ <;> simp [Except.map]
  rw [hnext]
  cases e <;> simp only [next, hc, Prod.mk.injEq] at h <;> obtain ⟨rfl, -, rfl, rfl⟩ := h <;>
    exact ⟨hf₁, rfl⟩

end Stream

end TinyShell
