import TinyShell.Userland.Escape

/-!
# Floating numbers in print

Binary numbers of a limited precision: read from a text, rounded to the nearest one, and
written in decimal or hexadecimal digits. A number is exact all the way: halves go to the
even neighbour, both when it is read and when it is written.
-/

namespace TinyShell.Userland.Floating

/-- How precise numbers are, in bits, and how large. -/
structure Format where
  precision : Nat
  /-- Numbers are smaller than two to this power. -/
  limit : Nat

/-- Numbers of 64 bits. -/
def double : Format := ⟨53, 1024⟩

/-- Numbers of 80 bits. -/
def extended : Format := ⟨64, 16384⟩

/-- The least power of two in numbers of a format. -/
def Format.least (f : Format) : Int := 3 - (f.limit : Int) - (f.precision : Int)

inductive Magnitude where
  /-- `mantissa` times two to the power `exponent`. -/
  | finite (mantissa : Nat) (exponent : Int)
  | infinite
  | notANumber
  deriving DecidableEq, Repr

structure Number where
  isNegative : Bool
  magnitude : Magnitude
  deriving DecidableEq, Repr

/-- The quotient rounded to the nearest number, a half to the even one. -/
def divideRound (n d : Nat) : Nat :=
  let q := n / d
  let twice := 2 * (n % d)
  if d < twice || (twice == d && q % 2 == 1) then q + 1 else q

/-- A quotient scaled by a power. -/
def scale (base n d : Nat) (power : Int) : Nat × Nat :=
  if 0 ≤ power then (n * base.pow power.toNat, d) else (n, d * base.pow (-power).toNat)

/-- The nearest number of a format to a quotient, and whether it is out of range. -/
def Format.round (f : Format) (n d : Nat) : Magnitude × Bool :=
  if n = 0 then (.finite 0 0, false)
  else
    let guess : Int := (n.log2 : Int) - d.log2 - f.precision
    let fits (e : Int) : Bool :=
      let (n, d) := scale 2 n d (-e)
      n / d < Nat.pow 2 f.precision
    let e := max f.least (if fits guess then guess else guess + 1)
    let (n', d') := scale 2 n d (-e)
    let mantissa := divideRound n' d'
    let (large, one) := scale 2 mantissa 1 e
    if one * Nat.pow 2 f.limit ≤ large then (.infinite, true)
    else (.finite mantissa e, mantissa < Nat.pow 2 (f.precision - 1) && n' % d' ≠ 0)

/-! ## Reading -/

/-- What was read: a number, how much of the text that is, and whether it is out of range. -/
structure Reading where
  number : Number
  length : Nat
  isOutOfRange : Bool := false

def isDigit (b : UInt8) : Bool := 0x30 ≤ b && b ≤ 0x39

def isSpace (b : UInt8) : Bool := b == 0x20 || (0x09 ≤ b && b ≤ 0x0D)

def toLower (b : UInt8) : UInt8 := if 0x41 ≤ b && b ≤ 0x5A then b + 0x20 else b

/-- An exponent after its letter: its value and length, if there are digits. -/
def readExponent (letter : UInt8) (text : Bytes) : Int × Nat :=
  match text with
  | b :: rest =>
    if toLower b ≠ letter then (0, 0)
    else
      let (isNegative, digits, skipped) := match rest with
        | 0x2D :: digits => (true, digits, 2)
        | 0x2B :: digits => (false, digits, 2)
        | digits => (false, digits, 1)
      let digits := digits.takeWhile isDigit
      let n : Int := digits.foldl (fun n d => n * 10 + (d.toNat - 0x30)) 0
      if digits.isEmpty then (0, 0)
      else (if isNegative then -n else n, skipped + digits.length)
  | [] => (0, 0)

/-- Digits with a point among them or not: the digits, how many follow the point, and how
long that is. -/
def readDigits (isDigit : UInt8 → Bool) (text : Bytes) : Bytes × Nat × Nat :=
  let whole := text.takeWhile isDigit
  match text.drop whole.length with
  | 0x2E :: rest =>
    let part := rest.takeWhile isDigit
    (whole ++ part, part.length, whole.length + 1 + part.length)
  | _ => (whole, 0, whole.length)

/-- Powers of ten beyond this are out of range in every format. -/
def powerMax : Int := 6000

/-- The magnitude at the beginning of a text without a sign. -/
def readMagnitude (f : Format) (text : Bytes) : Magnitude × Nat × Bool :=
  let lower := text.map toLower
  let begins (word : String) : Bool := (utf8 word).isPrefixOf lower
  let (hexadecimal, places, hexLength) :=
    readDigits (Escape.hexValue? · |>.isSome) (text.drop 2)
  if begins "0x" && !hexadecimal.isEmpty then
    let (power, powerLength) := readExponent 0x70 (text.drop (2 + hexLength))
    let power := max (-100000) (min 100000 power) - 4 * places
    let (n, d) := scale 2 (Escape.hexNumber hexadecimal) 1 power
    let (magnitude, isOut) := f.round n d
    (magnitude, 2 + hexLength + powerLength, isOut)
  else if begins "infinity" then (.infinite, 8, false)
  else if begins "inf" then (.infinite, 3, false)
  else if begins "nan" then (.notANumber, 3, false)
  else
    let (digits, places, length) := readDigits isDigit text
    if digits.isEmpty then (.finite 0 0, 0, false)
    else
      let (power, powerLength) := readExponent 0x65 (text.drop length)
      let n := digits.foldl (fun n d => n * 10 + (d.toNat - 0x30)) 0
      let power := power - places
      let (magnitude, isOut) :=
        if n = 0 then (.finite 0 0, false)
        else if powerMax < power then (.infinite, true)
        else if power + digits.length < -powerMax then (.finite 0 0, true)
        else
          let (n, d) := scale 10 n 1 power
          f.round n d
      (magnitude, length + powerLength, isOut)

/-- The number at the beginning of a text. -/
def read (f : Format) (text : Bytes) : Reading :=
  let body := text.dropWhile isSpace
  let (isNegative, unsigned) := match body with
    | 0x2D :: rest => (true, rest)
    | 0x2B :: rest => (false, rest)
    | rest => (false, rest)
  let (magnitude, length, isOutOfRange) := readMagnitude f unsigned
  { number := { isNegative, magnitude }
    length := if length = 0 then 0 else text.length - unsigned.length + length
    isOutOfRange }

/-! ## Writing -/

def decimal (n : Nat) : Bytes := utf8 (toString n)

/-- A number as a quotient. -/
def quotient (mantissa : Nat) (exponent : Int) : Nat × Nat := scale 2 mantissa 1 exponent

/-- Puts a point before the last digits. -/
def withPoint (digits : Bytes) (places : Nat) (isForced : Bool) : Bytes :=
  let whole := digits.length - places
  if places = 0 && !isForced then digits
  else digits.take whole ++ 0x2E :: digits.drop whole

/-- Writes with a number of places. -/
def fixed (n d places : Nat) (isForced : Bool) : Bytes :=
  let digits := decimal (divideRound (n * Nat.pow 10 places) d)
  withPoint (List.replicate (places + 1 - digits.length) 0x30 ++ digits) places isForced

/-- The power of ten of the first digit. -/
def magnitudeOf (n d : Nat) : Int :=
  let guess : Int := (decimal n).length - (decimal d).length
  let (n', d') := scale 10 n d (-guess)
  if d' ≤ n' then guess else guess - 1

/-- The first digits, rounded, and the power of ten of the first of them. -/
def leading (n d places : Nat) : Bytes × Int :=
  if n = 0 then (List.replicate (places + 1) 0x30, 0)
  else
    let power := magnitudeOf n d
    let (n', d') := scale 10 n d (places - power)
    let digits := decimal (divideRound n' d')
    if places + 1 < digits.length then (digits.take (places + 1), power + 1) else (digits, power)

def signOf (n : Int) : Bytes := if n < 0 then [0x2D] else [0x2B]

/-- Writes one digit before the point, and a power of ten. -/
def scientific (n d places : Nat) (isForced : Bool) : Bytes :=
  let (digits, power) := leading n d places
  let exponent := decimal power.natAbs
  withPoint digits places isForced ++ 0x65 :: signOf power ++
    List.replicate (2 - exponent.length) 0x30 ++ exponent

/-- Takes away the zeros at the end of a decimal. -/
def withoutZeros (text : Bytes) : Bytes :=
  if text.contains 0x2E then
    let body := (text.reverse.dropWhile (· == 0x30)).reverse
    if body.getLast? = some 0x2E then body.dropLast else body
  else text

/-- Writes a number of digits, in the shorter of both ways. -/
def general (n d precision : Nat) (isForced : Bool) : Bytes :=
  let digits := max 1 precision
  let (_, power) := leading n d (digits - 1)
  if -4 ≤ power && power < digits then
    let text := fixed n d (digits - 1 - power).toNat isForced
    if isForced then text else withoutZeros text
  else
    let text := scientific n d (digits - 1) isForced
    if isForced then text
    else
      let body := text.takeWhile (· != 0x65)
      withoutZeros body ++ text.drop body.length

/-- Writes hexadecimal digits after the first bits, and a power of two. -/
def hexadecimal (f : Format) (mantissa : Nat) (exponent : Int) (precision : Option Nat)
    (isForced : Bool) : Bytes :=
  let places := (f.precision - 1) / 4
  let power := if mantissa = 0 then 0 else exponent + mantissa.log2 + 1 - f.precision + 4 * places
  let full := if mantissa = 0 then 0 else mantissa * Nat.pow 2 (f.precision - 1 - mantissa.log2)
  let write (n places : Nat) : Bytes :=
    let digits := utf8 (String.ofList (Nat.toDigits 16 n))
    let filled := List.replicate (places + 1 - digits.length) 0x30 ++ digits
    utf8 "0x" ++ withPoint filled places isForced
  let body := match precision with
    | none => withoutZeros (write full places)
    | some k =>
      if places ≤ k then write (full * Nat.pow 16 (k - places)) k
      else write (divideRound full (Nat.pow 16 (places - k))) k
  body ++ 0x70 :: signOf power ++ decimal power.natAbs

/-- Writes the magnitude of a number by a conversion in lower case. -/
def write (f : Format) (conversion : UInt8) (precision : Option Nat) (isForced : Bool) :
    Magnitude → Bytes
  | .infinite => utf8 "inf"
  | .notANumber => utf8 "nan"
  | .finite mantissa exponent =>
    let (n, d) := quotient mantissa exponent
    match conversion with
    | 0x66 => fixed n d (precision.getD 6) isForced
    | 0x65 => scientific n d (precision.getD 6) isForced
    | 0x67 => general n d (precision.getD 6) isForced
    | _ => hexadecimal f mantissa exponent precision isForced

end TinyShell.Userland.Floating
