import TinyShell.Bytes

/-!
# Backslash escapes

The escapes of `echo` and `printf`. `Escape.read` reads what follows a backslash, in one
`Dialect` or another.
-/

namespace TinyShell.Userland

/-- What a program knows of escapes beyond letters and octal numbers of three digits. -/
structure Dialect where
  /-- A zero may stand before an octal number. -/
  zeroFirst : Bool
  /-- Hexadecimal numbers and the quote are known too. -/
  extended : Bool
  /-- The letter `c` ends the output. -/
  stops : Bool := true
  deriving DecidableEq, Repr

namespace Escape

def backslash : UInt8 := 0x5C

/-- A text, whether the output ends with it, and what is wrong with what comes next. -/
structure Text where
  bytes : Bytes
  stopped : Bool := false
  fault : Option Bytes := none

/-- What the bytes after a backslash mean. -/
inductive Meaning where
  /-- They stand for a text and are so many. -/
  | text (bytes : Bytes) (count : Nat)
  | stop
  | fault (text : Bytes)

def isOctal (b : UInt8) : Bool := 0x30 ≤ b && b ≤ 0x37

def octalValue (digits : Bytes) : UInt8 :=
  digits.foldl (fun n d => n * 8 + (d - 0x30)) 0

/-- The escapes of one letter. -/
def letters : List (UInt8 × UInt8) :=
  [(0x5C, 0x5C), (0x61, 0x07), (0x62, 0x08), (0x65, 0x1B), (0x66, 0x0C), (0x6E, 0x0A),
    (0x72, 0x0D), (0x74, 0x09), (0x76, 0x0B)]

def hexValue? (b : UInt8) : Option UInt8 :=
  if 0x30 ≤ b && b ≤ 0x39 then some (b - 0x30)
  else if 0x61 ≤ b && b ≤ 0x66 then some (b - 0x61 + 10)
  else if 0x41 ≤ b && b ≤ 0x46 then some (b - 0x41 + 10)
  else none

/-- The hexadecimal digits at the beginning of a text, at most so many. -/
def hexDigits (limit : Nat) (text : Bytes) : Bytes :=
  (text.take limit).takeWhile (hexValue? · |>.isSome)

def hexNumber (digits : Bytes) : Nat :=
  (digits.filterMap hexValue?).foldl (fun n d => n * 16 + d.toNat) 0

/-- A number in upper case hexadecimal digits. -/
def hexText (size n : Nat) : Bytes :=
  let digits := utf8 (String.ofList (Nat.toDigits 16 n)).toUpper
  List.replicate (size - digits.length) 0x30 ++ digits

def missing : Meaning := .fault (utf8 "missing hexadecimal number in escape")

def lower (b : UInt8) : UInt8 := if 0x41 ≤ b && b ≤ 0x5A then b + 0x20 else b

/-- A character by its number, which takes `size` digits. One that is not in ASCII is only
named. -/
def readCharacter (letter : UInt8) (size : Nat) (rest : Bytes) : Meaning :=
  let digits := hexDigits size rest
  let n := hexNumber digits
  if digits.length < size then missing
  else if 0xD800 ≤ n && n ≤ 0xDFFF then
    .fault (utf8 "invalid universal character name \\" ++ letter :: digits.map lower)
  else if n < 0x80 then .text [n.toUInt8] (size + 1)
  else if n < 0x10000 then .text (utf8 "\\u" ++ hexText 4 n) (size + 1)
  else .text (utf8 "\\U" ++ hexText 8 n) (size + 1)

/-- What an extended dialect makes of the bytes after a backslash. -/
def readExtended (rest : Bytes) : Option Meaning :=
  match rest with
  | 0x22 :: _ => some (.text [0x22] 1)
  | 0x75 :: rest => some (readCharacter 0x75 4 rest)
  | 0x55 :: rest => some (readCharacter 0x55 8 rest)
  | 0x78 :: rest =>
    let digits := hexDigits 2 rest
    some (if digits.isEmpty then missing
      else .text [(hexNumber digits).toUInt8] (digits.length + 1))
  | _ => none

/-- Reads what follows a backslash. -/
def read (dialect : Dialect) (rest : Bytes) : Meaning :=
  match rest with
  | [] => .text [backslash] 0
  | b :: _ =>
    if b = 0x63 && dialect.stops then .stop
    else match letters.lookup b with
      | some c => .text [c] 1
      | none =>
        if isOctal b then
          let skipped := if dialect.zeroFirst && b == 0x30 then 1 else 0
          let digits := ((rest.drop skipped).take 3).takeWhile isOctal
          .text [octalValue digits] (digits.length + skipped)
        else
          ((if dialect.extended then readExtended rest else none)).getD
            (.text [backslash, b] 1)

/-- Expands the escapes of a text. The fuel is its length. -/
def expandFrom (dialect : Dialect) : (fuel : Nat) → (done : Bytes) → Bytes → Text
  | 0, done, _ => { bytes := done.reverse }
  | _, done, [] => { bytes := done.reverse }
  | fuel + 1, done, b :: rest =>
    if b = backslash then
      match read dialect rest with
      | .stop => { bytes := done.reverse, stopped := true }
      | .fault text => { bytes := done.reverse, stopped := true, fault := some text }
      | .text text count => expandFrom dialect fuel (text.reverse ++ done) (rest.drop count)
    else expandFrom dialect fuel (b :: done) rest

def expand (dialect : Dialect) (text : Bytes) : Text :=
  expandFrom dialect text.length [] text

end Escape

end TinyShell.Userland
