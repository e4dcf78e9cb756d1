import TinyShell.Bytes

/-!
# Headers of scripts

The first line of a script, `#!` and the path of its interpreter, perhaps with one
argument. `Header.parse?` reads it as the kernel does, from the first bytes alone.
-/

namespace TinyShell

structure Header where
  interpreter : Bytes
  argument : Option Bytes
  deriving DecidableEq, Repr

namespace Header

/-- How much of a file is looked at. A shorter one counts as filled up with NULs. -/
def window : Nat := 256

def isBlank (b : UInt8) : Bool := b == 0x20 || b == 0x09

def endsWord (b : UInt8) : Bool := isBlank b || b == nul

def trim (line : Bytes) : Bytes :=
  ((line.dropWhile isBlank).reverse.dropWhile isBlank).reverse

def untilNul (bytes : Bytes) : Bytes := bytes.takeWhile (· != nul)

/-- The line after `#!`. If the window holds no newline, it has to hold the end of the
interpreter's path, and its last byte is given up. -/
def line? (content : Bytes) : Option Bytes :=
  let seen := content.take window
  match seen ++ List.replicate (window - seen.length) nul with
  | 0x23 :: 0x21 :: text =>
    if text.contains newline then some (text.takeWhile (· != newline))
    else if (text.dropWhile isBlank).any endsWord then some text.dropLast
    else none
  | _ => none

def parse? (content : Bytes) : Option Header :=
  match (line? content).map trim with
  | none | some [] => none
  | some line =>
    let interpreter := line.takeWhile (!endsWord ·)
    match line.drop interpreter.length with
    | b :: rest =>
      if isBlank b then some ⟨interpreter, some (untilNul (rest.dropWhile isBlank))⟩
      else some ⟨interpreter, none⟩
    | [] => some ⟨interpreter, none⟩

end Header

end TinyShell
