import TinyShell.Bytes
import TinyShell.IoError

/-!
# Buffered writers

A `Writer` takes bytes and holds them until a flush hands them on. Its `Policy` says how
each write and each flush ends, from the count of the calls so far, the bytes taken so far
and the bytes held. A write that does not fail takes all of its bytes; one that does takes
some of them. `Policy.reliable` never fails, `Policy.limited` stops taking after some bytes,
`Policy.stuckDevice` is a line buffer in front of a device that takes nothing.
-/

namespace TinyShell

structure Policy where
  /-- If the write fails: how many of the bytes are taken before, and the failure. -/
  write : (turn taken : Nat) → (held bytes : Bytes) → Option (Nat × IoError)
  flush : (turn : Nat) → (held : Bytes) → Option IoError

namespace Policy

def reliable : Policy where
  write _ _ _ _ := none
  flush _ _ := none

/-- Takes `limit` bytes in all; a write past that takes what still fits. -/
def limited (limit : Nat) (fault : IoError) : Policy where
  write _ taken _ bytes :=
    if bytes.length ≤ limit - taken then none else some (limit - taken, fault)
  flush _ _ := none

/-- As `p`, but no flush succeeds. -/
def unflushable (p : Policy) (fault : IoError) : Policy where
  write := p.write
  flush _ _ := some fault

/-- The most a line buffer holds. -/
def lineBufferSize : Nat := 1024

/-- Whether a line buffer has room for the bytes next to what it holds. Bytes that would
fill it alone go past it. -/
def hasRoom (held bytes : Bytes) : Bool :=
  held.length + bytes.length ≤ lineBufferSize && bytes.length < lineBufferSize

/-- A line buffer before a device that takes no byte. Text without a newline is held, if
there is room, unless the buffer already ends in one; every other write reaches for the
device, and so does a flush of anything held. -/
def stuckDevice : Policy where
  write _ _ held bytes :=
    let fault := IoError.os .noSpace
    if bytes.contains newline then
      some (if !held.isEmpty && hasRoom held bytes then bytes.length else 0, fault)
    else if held.getLast? == some newline then some (0, fault)
    else if hasRoom held bytes then none
    else some (0, fault)
  flush _ held := if held.isEmpty then none else some (.os .noSpace)

end Policy

structure Writer where
  policy : Policy
  turn : Nat := 0
  /-- Every byte taken so far. -/
  written : Bytes := []
  held : Bytes := []

namespace Writer

/-- After a number of calls that took these bytes. -/
def taking (w : Writer) (calls : Nat) (bytes : Bytes) : Writer :=
  { w with turn := w.turn + calls, written := w.written ++ bytes, held := w.held ++ bytes }

@[simp] theorem taking_policy (w : Writer) (calls : Nat) (bytes : Bytes) :
    (w.taking calls bytes).policy = w.policy := rfl

@[simp] theorem taking_written (w : Writer) (calls : Nat) (bytes : Bytes) :
    (w.taking calls bytes).written = w.written ++ bytes := rfl

@[simp] theorem taking_held (w : Writer) (calls : Nat) (bytes : Bytes) :
    (w.taking calls bytes).held = w.held ++ bytes := rfl

@[simp] theorem taking_zero (w : Writer) : w.taking 0 [] = w := by
  simp [taking]

@[simp] theorem taking_taking (w : Writer) (m n : Nat) (a b : Bytes) :
    (w.taking m a).taking n b = w.taking (m + n) (a ++ b) := by
  simp [taking, Nat.add_assoc]

def write (w : Writer) (bytes : Bytes) : Except IoError Unit × Writer :=
  match w.policy.write w.turn w.written.length w.held bytes with
  | none => (.ok (), w.taking 1 bytes)
  | some (count, fault) => (.error fault, w.taking 1 (bytes.take count))

/-- Writes the pieces in order, up to the first that fails. -/
def writeAll (w : Writer) : List Bytes → Except IoError Unit × Writer
  | [] => (.ok (), w)
  | bytes :: rest =>
    match w.write bytes with
    | (.ok (), w) => w.writeAll rest
    | (.error e, w) => (.error e, w)

/-- After a flush. -/
def flushed (w : Writer) : Writer := { w with turn := w.turn + 1, held := [] }

@[simp] theorem flushed_policy (w : Writer) : w.flushed.policy = w.policy := rfl

@[simp] theorem flushed_written (w : Writer) : w.flushed.written = w.written := rfl

@[simp] theorem flushed_held (w : Writer) : w.flushed.held = [] := rfl

/-- The bytes a flush hands on, and how it ends. -/
def flush (w : Writer) : Except IoError Bytes × Writer :=
  match w.policy.flush w.turn w.held with
  | some e => (.error e, { w with turn := w.turn + 1 })
  | none => (.ok w.held, w.flushed)

/-- Hands on what is held without asking the policy. -/
def drain (w : Writer) : Bytes × Writer := (w.held, { w with held := [] })

end Writer

end TinyShell
