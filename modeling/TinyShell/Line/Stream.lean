import TinyShell.Trace.Event
import TinyShell.World

/-!
# Lines from a stream

A `Stream` is what has been fetched and not yet read, and the `Feed` that the next bytes
are fetched from: deliveries known beforehand, or blocks of descriptor 0. `Stream.next`
reads up to a newline; bytes that no newline follows before the end are dropped. The line
is collected in a `LineBuffer`, whose capacity grows by whole chunks.
-/

namespace TinyShell

/-- What one read of a stream gives. An empty chunk is the end of the stream, for now. -/
inductive Delivery where
  | chunk (bytes : Bytes)
  | interrupted
  | failed (cause : IoError)
  deriving DecidableEq, Repr

inductive Feed where
  | scripted (deliveries : List Delivery)
  | descriptor (block : Nat)
  deriving DecidableEq, Repr

/-- A command line without its newline, or the end. -/
inductive Reading where
  | line (bytes : Bytes)
  | endOfInput
  deriving DecidableEq, Repr

def Delivery.size : Delivery → Nat
  | chunk bytes => bytes.length + 1
  | _ => 1

namespace Feed

/-- Deliveries of `capacity` bytes each, the last perhaps of fewer. -/
def blocks (capacity : Nat) (bytes : Bytes) : List Delivery :=
  if 0 < capacity ∧ 0 < bytes.length then
    .chunk (bytes.take capacity) :: blocks capacity (bytes.drop capacity)
  else []
termination_by bytes.length
decreasing_by simp only [List.length_drop]; omega

def size (input : Input) : Feed → Nat
  | scripted deliveries => total Delivery.size deliveries
  | descriptor _ => input.rest.length

def fetch (input : Input) : Feed → Delivery × Feed × Input
  | scripted [] => (.chunk [], scripted [], input)
  | scripted (d :: ds) => (d, scripted ds, input)
  | descriptor block =>
    match input with
    | .bytes rest => (.chunk (rest.take block), descriptor block, .bytes (rest.drop block))
    | .directory => (.failed (.os .isDirectory), descriptor block, .directory)

end Feed

structure LineBuffer where
  bytes : Bytes := []
  capacity : Nat := 1024
  /-- Capacity before and after each growth, oldest first. -/
  growth : List (Nat × Nat) := []
  deriving DecidableEq, Repr

namespace LineBuffer

/-- Capacities are multiples of this. -/
def chunk : Nat := 1024

def makeRoom (b : LineBuffer) (extra : Nat) : LineBuffer :=
  let needed := b.bytes.length + extra
  if b.capacity < needed then
    let target := (needed + chunk - 1) / chunk * chunk
    { b with capacity := target, growth := b.growth ++ [(b.capacity, target)] }
  else b

def append (b : LineBuffer) (bytes : Bytes) : LineBuffer :=
  let b := b.makeRoom bytes.length
  { b with bytes := b.bytes ++ bytes }

def events (b : LineBuffer) : List Event :=
  b.growth.map fun (capacity, target) => .growingLine capacity target

end LineBuffer

structure Stream where
  unread : Bytes := []
  feed : Feed
  deriving DecidableEq, Repr

namespace Stream

/-- Every line read makes it smaller. -/
def size (s : Stream) (input : Input) : Nat := s.unread.length + s.feed.size input

/-- What there is to read, fetched if nothing is at hand. -/
def available (s : Stream) (input : Input) : Delivery × Stream × Input :=
  match s.unread with
  | [] =>
    match s.feed.fetch input with
    | (.chunk bytes, feed, input) => (.chunk bytes, ⟨bytes, feed⟩, input)
    | (d, feed, input) => (d, ⟨[], feed⟩, input)
  | _ :: _ => (.chunk s.unread, s, input)

/-- How the collecting of a line ends. -/
inductive Ending where
  | newline
  | endOfInput
  | failed (cause : IoError)
  deriving DecidableEq, Repr

theorem size_available_le (s : Stream) (input : Input) {d : Delivery} {s' : Stream}
    {input' : Input} (h : s.available input = (d, s', input')) :
    s'.size input' ≤ s.size input := by
  rcases s with ⟨unread, feed⟩
  cases unread with
  | cons x xs => simp only [available, Prod.mk.injEq] at h; obtain ⟨-, rfl, rfl⟩ := h; simp
  | nil =>
    cases feed with
    | scripted ds =>
      cases ds with
      | nil =>
        simp only [available, Feed.fetch, Prod.mk.injEq] at h
        obtain ⟨-, rfl, rfl⟩ := h; simp [size]
      | cons d ds =>
        cases d <;> simp only [available, Feed.fetch, Prod.mk.injEq] at h <;>
          obtain ⟨-, rfl, rfl⟩ := h <;> simp [size, Feed.size, Delivery.size]
    | descriptor block =>
      cases input <;> simp only [available, Feed.fetch, Prod.mk.injEq] at h <;>
        obtain ⟨-, rfl, rfl⟩ := h <;> simp [size, Feed.size, Input.rest] <;> omega

theorem size_lt_of_interrupted (s : Stream) (input : Input) {s' : Stream} {input' : Input}
    (h : s.available input = (.interrupted, s', input')) : s'.size input' < s.size input := by
  rcases s with ⟨unread, feed⟩
  cases unread with
  | cons x xs => simp [available] at h
  | nil =>
    cases feed with
    | scripted ds =>
      cases ds with
      | nil => simp [available, Feed.fetch] at h
      | cons d ds =>
        cases d <;> simp only [available, Feed.fetch, Prod.mk.injEq, reduceCtorEq, false_and] at h
        obtain ⟨-, rfl, rfl⟩ := h
        simp [size, Feed.size, Delivery.size]
    | descriptor block => cases input <;> simp [available, Feed.fetch] at h

/-- What is available as a chunk is what is unread then. -/
theorem unread_of_chunk (s : Stream) (input : Input) {bytes : Bytes} {s' : Stream}
    {input' : Input} (h : s.available input = (.chunk bytes, s', input')) :
    s'.unread = bytes := by
  rcases s with ⟨unread, feed⟩
  cases unread with
  | cons x xs =>
    simp only [available, Prod.mk.injEq, Delivery.chunk.injEq] at h
    obtain ⟨rfl, rfl, -⟩ := h; rfl
  | nil =>
    simp only [available] at h
    split at h
    · simp only [Prod.mk.injEq, Delivery.chunk.injEq] at h
      obtain ⟨rfl, rfl, -⟩ := h; rfl
    · next d _ _ hd _ =>
      simp only [Prod.mk.injEq] at h
      exact absurd h.1 (by intro he; subst he; exact hd _ rfl)

/-- Collects bytes up to the next newline, which is taken too. -/
def collect (b : LineBuffer) (s : Stream) (input : Input) :
    Ending × LineBuffer × Stream × Input :=
  match _ : s.available input with
  | (.interrupted, s', input') => collect b s' input'
  | (.failed cause, s', input') => (.failed cause, b, s', input')
  | (.chunk [], s', input') => (.endOfInput, b, s', input')
  | (.chunk (x :: xs), s', input') =>
    match (x :: xs).dropWhile (· != newline) with
    | [] => collect (b.append (x :: xs)) { s' with unread := [] } input'
    | _ :: rest =>
      (.newline, b.append ((x :: xs).takeWhile (· != newline)), { s' with unread := rest }, input')
termination_by s.size input
decreasing_by
  · exact size_lt_of_interrupted s input ‹_›
  · have h₁ := size_available_le s input ‹_›
    have h₂ := unread_of_chunk s input ‹_›
    simp only [size] at h₁ ⊢
    simp only [h₂, List.length_cons, List.length_nil] at h₁ ⊢
    omega

/-- The next line, with what there is to tell of the reading. -/
def next (s : Stream) (input : Input) :
    Except IoError Reading × List Event × Stream × Input :=
  match s.collect {} input with
  | (.newline, b, s, input) => (.ok (.line b.bytes), b.events, s, input)
  | (.endOfInput, b, s, input) =>
    let dropped := if b.bytes.isEmpty then [] else [Event.droppingLine b.bytes.length]
    (.ok .endOfInput, b.events ++ dropped, s, input)
  | (.failed cause, b, s, input) => (.error cause, b.events, s, input)

theorem size_collect_lt (b : LineBuffer) (s : Stream) (input : Input)
    {b' : LineBuffer} {s' : Stream} {input' : Input}
    (h : s.collect b input = (.newline, b', s', input')) : s'.size input' < s.size input := by
  fun_induction collect b s input with
  | case1 b s input s₁ input₁ h₁ ih =>
    exact Nat.lt_trans (ih h) (size_lt_of_interrupted s input h₁)
  | case2 => simp at h
  | case3 => simp at h
  | case4 b s input s₁ input₁ x xs h₁ hx ih =>
    have h₂ := size_available_le s input h₁
    have := ih h
    simp only [size, List.length_nil] at this h₂ ⊢
    omega
  | case5 b s input x xs s₁ input₁ h₁ y rest hx =>
    have h₂ := size_available_le s input h₁
    have h₃ := unread_of_chunk s input h₁
    have h₄ := (@List.dropWhile_suffix _ (x :: xs) (· != newline)).length_le
    simp only [Prod.mk.injEq, true_and] at h
    obtain ⟨-, rfl, rfl⟩ := h
    simp only [size] at h₂ ⊢
    rw [h₃] at h₂
    rw [hx] at h₄
    simp only [List.length_cons] at h₂ h₄
    omega

theorem size_next_lt (s : Stream) (input : Input) {line : Bytes} {events : List Event}
    {s' : Stream} {input' : Input} (h : s.next input = (.ok (.line line), events, s', input')) :
    s'.size input' < s.size input := by
  unfold next at h
  split at h
  · next h₁ =>
    simp only [Prod.mk.injEq] at h
    obtain ⟨-, -, rfl, rfl⟩ := h
    exact size_collect_lt _ s input h₁
  · simp at h
  · simp at h

end Stream

end TinyShell
