import TinyShell.Userland.Printf
import TinyShell.Userland.Sh.Cursor

/-!
# Arithmetic

Integer expressions as they stand between `$((` and `))`, read and evaluated in one pass.
Names stand for the values of variables; an assignment gives one back. What the value of
the expression does not depend on is read, but not evaluated.
-/

namespace TinyShell.Userland.Sh.Arithmetic

/-- The expression, what is ahead of it, and the variables, of which the last given value
counts. -/
structure Reading where
  text : Bytes
  rest : Bytes := text
  given : List (Bytes × Int) := []

/-- A mistake in an expression is given as a text. -/
abbrev Calculation := StateT Reading (Except Bytes)

def fail {α : Type} (text : String) : Calculation α := do
  throw (utf8 ("arithmetic expression: " ++ text ++ ": \"") ++ (← get).text ++ [0x22])

/-- The largest integer. -/
def largest : Int := 9223372036854775807

/-- Keeps the low bits, as a machine word of 64 does. -/
def wrap (n : Int) : Int := n.bmod 18446744073709551616

/-- A text without the space around it. -/
def trim (text : Bytes) : Bytes :=
  let isSpace (b : UInt8) : Bool := b == 0x20 || (0x09 ≤ b && b ≤ 0x0D)
  ((text.dropWhile isSpace).reverse.dropWhile isSpace).reverse

/-- An integer that has room in a machine word. -/
def inRange (n : Int) : Option Int := if n < -largest - 1 ∨ largest < n then none else some n

/-- The integer a text consists of, in the notation of programs. -/
def integer? (text : Bytes) : Option Int :=
  let text := trim text
  match Printf.integer text with
  | (n, true) => if text.head? = some 0x22 ∨ text.head? = some 0x27 then none else inRange n
  | _ => none

/-- The integer a text consists of, in decimal digits. -/
def decimal? (text : Bytes) : Option Int :=
  let (isNegative, digits) := match trim text with
    | 0x2D :: digits => (true, digits)
    | 0x2B :: digits => (false, digits)
    | digits => (false, digits)
  if digits.isEmpty || !digits.all Reader.isDigit then none
  else
    let n : Int := Printf.decimal digits
    inRange (if isNegative then -n else n)

/-- The value of a variable. -/
def lookup (values : Bytes → Option Bytes) (name : Bytes) : Calculation Int := do
  match (← get).given.lookup name, values name with
  | some n, _ => return n
  | none, none | none, some [] => return 0
  | none, some text =>
    match integer? text with
    | some n => return n
    | none => throw (utf8 "Illegal number: " ++ text)

def assign (name : Bytes) (n : Int) : Calculation Int := do
  modify fun r => { r with given := (name, n) :: r.given }
  return n

/-- What is ahead, without blanks. -/
def ahead : Calculation Bytes := do
  modify fun r =>
    { r with rest := r.rest.dropWhile fun b => b == 0x20 || b == 0x09 || b == newline }
  return (← get).rest

def advance (count : Nat) : Calculation Unit := modify fun r =>
  { r with rest := r.rest.drop count }

/-- The binary operators with their ranks. -/
def operators : List (String × Nat) :=
  [("<<", 6), (">>", 6), ("<=", 5), (">=", 5), ("==", 4), ("!=", 4), ("<", 5), (">", 5),
    ("&", 3), ("^", 2), ("|", 1), ("+", 7), ("-", 7), ("*", 8), ("/", 8), ("%", 8)]

/-- The operators that can stand before the sign of an assignment. -/
def assigning : List String := ["<<", ">>", "&", "^", "|", "+", "-", "*", "/", "%"]

/-- All signs, the longer ones first. -/
def signs : List String :=
  assigning.map (· ++ "=") ++ ["&&", "||"] ++ operators.map (·.1) ++ ["="]

/-- The sign ahead, if there is one. -/
def sign : Calculation String := do
  let rest ← ahead
  let found := signs.filter fun text => (utf8 text).isPrefixOf rest
  return found.foldl (fun longest text =>
    if longest.length < text.length then text else longest) ""

def ofBool (b : Bool) : Int := if b then 1 else 0

def bitwise (f : Nat → Nat → Nat) (a b : Int) : Int :=
  wrap (f (a % 18446744073709551616).toNat (b % 18446744073709551616).toNat)

def apply (operator : String) (a b : Int) : Calculation Int :=
  match operator with
  | "+" => return wrap (a + b)
  | "-" => return wrap (a - b)
  | "*" => return wrap (a * b)
  | "/" => if b = 0 then fail "division by zero" else return wrap (a.tdiv b)
  | "%" => if b = 0 then fail "division by zero" else return a.tmod b
  | "<" => return ofBool (a < b)
  | ">" => return ofBool (a > b)
  | "<=" => return ofBool (a ≤ b)
  | ">=" => return ofBool (a ≥ b)
  | "==" => return ofBool (a = b)
  | "!=" => return ofBool (a ≠ b)
  | "&" => return bitwise (· &&& ·) a b
  | "|" => return bitwise (· ||| ·) a b
  | "^" => return bitwise (· ^^^ ·) a b
  | "<<" => return wrap (a * Int.pow 2 (b % 64).toNat)
  | _ => return a / Int.pow 2 (b % 64).toNat

/-- The integer at the beginning of a text, at most the largest, and how long it is. -/
def literal (text : Bytes) : Int × Nat :=
  let value (b : UInt8) : Option Nat := (Escape.hexValue? b).map (·.toNat)
  let read (base : Nat) (skipped : Nat) : Int × Nat :=
    let digits := (text.drop skipped).takeWhile fun b => (value b).any (· < base)
    let n := digits.foldl (fun n b => n * base + (value b).getD 0) 0
    (min n largest, skipped + digits.length)
  match text with
  | 0x30 :: x :: d :: _ =>
    if (x = 0x78 || x = 0x58) && (Escape.hexValue? d).isSome then read 16 2 else read 8 0
  | 0x30 :: _ => read 8 0
  | _ => read 10 0

variable (values : Bytes → Option Bytes)

mutual

def primary (fuel : Nat) (isNeeded : Bool) : Calculation Int :=
  match fuel with
  | 0 => fail "expecting primary"
  | fuel + 1 => do
    let rest ← ahead
    match rest with
    | 0x28 :: _ =>
      advance 1
      let n ← assignment fuel isNeeded
      if (← ahead).head? ≠ some 0x29 then fail "expecting ')'"
      advance 1
      return n
    | 0x2D :: _ => advance 1; return wrap (-(← primary fuel isNeeded))
    | 0x2B :: _ => advance 1; primary fuel isNeeded
    | 0x21 :: _ => advance 1; return ofBool ((← primary fuel isNeeded) = 0)
    | 0x7E :: _ => advance 1; return -(← primary fuel isNeeded) - 1
    | b :: _ =>
      if Reader.isDigit b then
        let (n, length) := literal rest
        advance length
        return n
      let name := Reader.nameAt rest
      if name.isEmpty then fail "expecting primary"
      advance name.length
      if isNeeded then lookup values name else return 0
    | [] => fail "expecting primary"

/-- Operators of at least this rank, applied to what is on their left. -/
def climb (fuel : Nat) (isNeeded : Bool) (rank : Nat) (left : Int) : Calculation Int :=
  match fuel with
  | 0 => return left
  | fuel + 1 => do
    let operator ← sign
    match operators.lookup operator with
    | some r =>
      if r < rank then return left
      advance operator.length
      let right ← climb fuel isNeeded (r + 1) (← primary fuel isNeeded)
      climb fuel isNeeded rank (← if isNeeded then apply operator left right else pure right)
    | none => return left

def conjunction (fuel : Nat) (isNeeded : Bool) : Calculation Int :=
  match fuel with
  | 0 => fail "expecting primary"
  | fuel + 1 => do
    let a ← climb fuel isNeeded 1 (← primary fuel isNeeded)
    if (← sign) = "&&" then
      advance 2
      let b ← conjunction fuel (isNeeded && a ≠ 0)
      return ofBool (a ≠ 0 && b ≠ 0)
    else return a

def disjunction (fuel : Nat) (isNeeded : Bool) : Calculation Int :=
  match fuel with
  | 0 => fail "expecting primary"
  | fuel + 1 => do
    let a ← conjunction fuel isNeeded
    if (← sign) = "||" then
      advance 2
      let b ← disjunction fuel (isNeeded && a = 0)
      return ofBool (a ≠ 0 || b ≠ 0)
    else return a

def choice (fuel : Nat) (isNeeded : Bool) : Calculation Int :=
  match fuel with
  | 0 => fail "expecting primary"
  | fuel + 1 => do
    let condition ← disjunction fuel isNeeded
    if (← ahead).head? = some 0x3F then
      advance 1
      let yes ← assignment fuel (isNeeded && condition ≠ 0)
      if (← ahead).head? ≠ some 0x3A then fail "expecting ':'"
      advance 1
      let no ← choice fuel (isNeeded && condition = 0)
      return if condition ≠ 0 then yes else no
    else return condition

def assignment (fuel : Nat) (isNeeded : Bool) : Calculation Int :=
  match fuel with
  | 0 => fail "expecting primary"
  | fuel + 1 => do
    let before ← get
    let name := Reader.nameAt (← ahead)
    advance name.length
    let operator ← sign
    let plain := (operator.dropEnd 1).toString
    if name.isEmpty || !(operator = "=" || (assigning.map (· ++ "=")).contains operator) then
      set before
      choice fuel isNeeded
    else
      advance operator.length
      let n ← assignment fuel isNeeded
      if !isNeeded then return n
      else if plain.isEmpty then assign name n
      else assign name (← apply plain (← lookup values name) n)

end

/-- The value of an expression and the variables it sets, oldest first. -/
def evaluate (expression : Bytes) : Except Bytes (Int × List (Bytes × Int)) := do
  let whole : Calculation Int := do
    let n ← assignment values (8 * expression.length + 16) true
    if (← ahead).isEmpty then return n else fail "expecting EOF"
  let (n, r) ← whole.run { text := expression }
  return (n, r.given.reverse)

end TinyShell.Userland.Sh.Arithmetic
