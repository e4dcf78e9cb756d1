import TinyShell.Bytes

/-!
# Permissions in words

A change of permissions is written as clauses such as `u=rwx,go-w`. `Mode.apply` does the
change; the permissions that are held back do not change for clauses that name nobody.
-/

namespace TinyShell.Userland.Mode

/-- The bits of the user, the group and the others. -/
def who? : UInt8 → Option Nat
  | 0x75 => some 0o4700
  | 0x67 => some 0o2070
  | 0x6F => some 0o1007
  | 0x61 => some 0o7777
  | _ => none

/-- The bits of a permission, for everybody. -/
def what? (mode : Nat) : UInt8 → Option Nat
  | 0x72 => some 0o444
  | 0x77 => some 0o222
  | 0x78 => some 0o111
  | 0x58 => some 0o111
  | 0x73 => some 0o6000
  | 0x74 => some 0o1000
  | 0x75 => some (0o111 * (mode / 0o100 % 8))
  | 0x67 => some (0o111 * (mode / 0o10 % 8))
  | 0x6F => some (0o111 * (mode % 8))
  | _ => none

def without (mode bits : Nat) : Nat := mode - (mode &&& bits)

/-- Applies the signs of a clause, each with its permissions. -/
def applySigns (who held : Nat) : (fuel : Nat) → Bytes → Nat → Option Nat
  | 0, _, _ => none
  | _, [], mode => some mode
  | fuel + 1, sign :: rest, mode =>
    let letters := rest.takeWhile fun b => (what? mode b).isSome
    let asked := letters.foldl (fun bits b => bits ||| (what? mode b).getD 0) 0
    let bits := without (asked &&& who) held
    let next := match sign with
      | 0x2B => some (mode ||| bits)
      | 0x2D => some (without mode bits)
      | 0x3D => some (without mode (who &&& 0o777) ||| bits)
      | _ => none
    next.bind (applySigns who held fuel (rest.drop letters.length))

def applyClause (held : Nat) (clause : Bytes) (mode : Nat) : Option Nat :=
  let named := clause.takeWhile fun b => (who? b).isSome
  let who := named.foldl (fun bits b => bits ||| (who? b).getD 0) 0
  let signs := clause.drop named.length
  if signs.isEmpty then none
  else if named.isEmpty then applySigns 0o7777 held (signs.length + 1) signs mode
  else applySigns who 0 (signs.length + 1) signs mode

/-- A mode changed by the clauses of a text. -/
def applyClauses (held : Nat) (text : Bytes) (mode : Nat) : Option Nat :=
  (text.splitOn 0x2C).foldlM (fun mode clause => applyClause held clause mode) mode

def isOctal (b : UInt8) : Bool := 0x30 ≤ b && b ≤ 0x37

/-- An octal number. -/
def octal? (text : Bytes) : Option Nat :=
  if text.isEmpty || !text.all isOctal then none
  else some (text.foldl (fun n d => n * 8 + (d.toNat - 0x30)) 0)

/-- A mode that a text gives as a number, or as a change of another. -/
def apply (held : Nat) (text : Bytes) (mode : Nat) : Option Nat :=
  match octal? text with
  | some n => if n ≤ 0o7777 then some n else none
  | none => applyClauses held text mode

/-- A number of at least four octal digits. -/
def octal (n : Nat) : Bytes :=
  let digits := utf8 (String.ofList (Nat.toDigits 8 n))
  List.replicate (4 - digits.length) 0x30 ++ digits

/-- The permissions of each class in letters. -/
def symbolic (mode : Nat) : Bytes :=
  let letters (bits : Nat) : String :=
    (if bits &&& 4 != 0 then "r" else "") ++ (if bits &&& 2 != 0 then "w" else "") ++
      if bits &&& 1 != 0 then "x" else ""
  utf8 s!"u={letters (mode / 64 % 8)},g={letters (mode / 8 % 8)},o={letters (mode % 8)}"

end TinyShell.Userland.Mode
