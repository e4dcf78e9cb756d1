import TinyShell.Userland.Sh.Pattern

/-!
# Fields

An expanded word is a list of `Atom`s. `fields` cuts it into the arguments of a command,
`flatten` leaves it in one.
-/

namespace TinyShell.Userland.Sh

/-- A piece of an expanded word. -/
inductive Atom where
  | byte (b : UInt8) (quoted : Bool)
  /-- From an expansion outside quotes: may divide fields. -/
  | loose (b : UInt8)
  /-- An expansion begins. -/
  | start
  /-- A list begins: each blank in the expansion after it is a separator of its own. -/
  | list
  /-- Makes a field even of nothing. -/
  | mark
  /-- Divides fields, of which the first may be empty. -/
  | divide

/-- How far the cutting of a word has come. -/
structure Cutting where
  done : List Pattern := []
  field : Pattern := []
  isMarked : Bool := false
  /-- The last field ended with a blank. -/
  isSpaced : Bool := false
  /-- The last expansion was a list. -/
  isList : Bool := false
  /-- The expansion before this one was a list. -/
  isAfterList : Bool := false
  /-- How many more fields there may be before the last, unless their number is free. -/
  left : Option Nat := none
  /-- Where the last field ends, if only blanks and at most one other separator follow. -/
  cut : Option Nat := none

namespace Cutting

def isFresh (c : Cutting) : Bool := c.field.isEmpty && !c.isMarked

def push (c : Cutting) (b : UInt8) (quoted : Bool) : Cutting :=
  { c with field := c.field ++ [(b, quoted)] }

def endField (c : Cutting) : Cutting :=
  { c with done := c.done ++ [c.field], field := [], isMarked := false }

/-- Takes a byte that may divide fields. A NUL counts as a blank that does. -/
def takeLoose (separators blanks : Bytes) (c : Cutting) (b : UInt8) : Cutting :=
  let divides := b == nul || separators.contains b
  let isBlank := divides && (b == nul || blanks.contains b) && !c.isAfterList
  if c.left = some 0 then
    let cut :=
      if isBlank then some (c.cut.getD c.field.length)
      else if divides && c.isSpaced then c.cut else none
    { c with cut, isSpaced := if isBlank then c.isSpaced else false }.push b false
  else if divides && c.isSpaced then { c with isSpaced := isBlank }
  else if divides then
    if isBlank && c.isFresh then c
    else match c.left with
      | some 1 =>
        { c with left := some 0, cut := some c.field.length, isSpaced := isBlank }.push b false
      | left => { c.endField with left := left.map (· - 1), isSpaced := isBlank }
  else { c with isSpaced := false }.push b false

def take (separators blanks : Bytes) (c : Cutting) : Atom → Cutting
  | .byte b quoted => c.push b quoted
  | .loose b => c.takeLoose separators blanks b
  | .start => { c with isSpaced := false, isAfterList := c.isList, isList := false }
  | .list => { c with isSpaced := false, isAfterList := c.isList, isList := true }
  | .mark => { c with isMarked := true }
  | .divide => c.endField

def finish (c : Cutting) : List Pattern :=
  let field := match c.cut with
    | some n => c.field.take n
    | none => c.field
  if field.isEmpty && !c.isMarked then c.done else c.done ++ [field]

end Cutting

/-- Cuts an expanded word into fields at the bytes of `separators`, of which `blanks` count
together. At most `limit` fields are made, if there is a limit. -/
def fields (separators blanks : Bytes) (limit : Option Nat) (atoms : List Atom) : List Pattern :=
  (atoms.foldl (Cutting.take separators blanks) { left := limit }).finish

/-- An expanded word that is not cut, as a pattern. -/
def whole (atoms : List Atom) : Pattern :=
  atoms.flatMap fun
    | .byte b quoted => [(b, quoted)]
    | .loose b => [(b, false)]
    | .divide => [(0x20, true)]
    | .start | .list | .mark => []

/-- The bytes of an expanded word that is not cut. -/
def flatten (atoms : List Atom) : Bytes := (whole atoms).text

/-- The atoms of a value. -/
def spread (isQuoted : Bool) (value : Bytes) : List Atom :=
  if isQuoted then value.map (.byte · true) else .start :: value.map .loose

end TinyShell.Userland.Sh
