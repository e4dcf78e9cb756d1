import TinyShell.Trace.Event

/-!
# Tokens

A line is a row of tokens, the longest runs of bytes that are no delimiters
(`Token.words`). They are collected in a buffer that makes room for `Token.chunk` more
whenever it is full; `Token.split` gives the buffer at the end, with the record of its
growth.
-/

namespace TinyShell.Token

/-- Space, tab, carriage return, newline and bell. -/
def delimiters : Bytes := [0x20, 0x09, 0x0D, 0x0A, 0x07]

def isDelimiter (b : UInt8) : Bool := delimiters.contains b

/-- There is no quoting: every other byte is kept as it is. -/
def words (line : Bytes) : List Bytes := (line.splitOnP isDelimiter).filter (!·.isEmpty)

/-- Room for the first tokens, and the step by which it grows. -/
def chunk : Nat := 64

structure Buffer where
  tokens : List Bytes := []
  capacity : Nat := chunk
  /-- The capacities at which there was no room, oldest first. -/
  growth : List Nat := []
  deriving DecidableEq, Repr

namespace Buffer

def makeRoom (b : Buffer) : Buffer :=
  if b.tokens.length = b.capacity then
    { b with capacity := b.capacity + chunk, growth := b.growth ++ [b.capacity] }
  else b

def push (b : Buffer) (token : Bytes) : Buffer :=
  let b := b.makeRoom
  { b with tokens := b.tokens ++ [token] }

def events (b : Buffer) : List Event := b.growth.map .growingTokens

@[simp] theorem makeRoom_tokens (b : Buffer) : b.makeRoom.tokens = b.tokens := by
  unfold makeRoom; split <;> rfl

@[simp] theorem push_tokens (b : Buffer) (token : Bytes) :
    (b.push token).tokens = b.tokens ++ [token] := by
  simp [push]

theorem foldl_push_tokens (ts : List Bytes) (b : Buffer) :
    (ts.foldl push b).tokens = b.tokens ++ ts := by
  induction ts generalizing b with
  | nil => simp
  | cons t ts ih => simp [ih]

end Buffer

def split (line : Bytes) : Buffer := (words line).foldl Buffer.push {}

theorem split_tokens (line : Bytes) : (split line).tokens = words line := by
  simp [split, Buffer.foldl_push_tokens]

end TinyShell.Token
