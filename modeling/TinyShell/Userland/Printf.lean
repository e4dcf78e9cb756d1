import TinyShell.Userland.Floating

/-!
# Formatted printing

`Printf.run` writes a format and takes its arguments from a list, again from the start of
the format while there are arguments left and it takes any.
-/

namespace TinyShell.Userland.Printf

/-- A width or a precision: a number, or the next argument. -/
inductive Size where
  | number (n : Nat)
  | argument

structure Spec where
  flags : Bytes
  width : Size
  precision : Option Size
  conversion : UInt8
  /-- As it is written. -/
  text : Bytes

inductive Part where
  | text (bytes : Bytes)
  | convert (spec : Spec)
  | stop
  | invalid (complaint : Bytes)

/-- In what printing commands differ. -/
structure Rules where
  /-- More escapes and conversions are known, and checked. -/
  extended : Bool
  format : Floating.Format
  /-- How texts are quoted. -/
  quote : Bytes → Bytes
  /-- As `quote`, but only if that is needed. -/
  quoteIfNeeded : Bytes → Bytes

def percent : UInt8 := 0x25

def isDigit (b : UInt8) : Bool := 0x30 ≤ b && b ≤ 0x39

def decimal (digits : Bytes) : Nat := digits.foldl (fun n d => n * 10 + (d.toNat - 0x30)) 0

/-! ## Reading a format -/

def Rules.flags (r : Rules) : Bytes := utf8 (if r.extended then "-+ #0'I" else "-+ #0")

/-- Whether a conversion is known, with its flags. -/
def Rules.knows (r : Rules) (spec : Spec) : Bool :=
  let is (letters : String) : Bool := (utf8 letters).contains spec.conversion
  if !r.extended then is "diouxXcsbaAeEfFgG"
  else if spec.conversion = 0x62 || spec.conversion = 0x71 then spec.text.length = 2
  else
    is "diouxXcsaAeEfFgG" &&
    !(spec.flags.contains 0x27 && is "aAceEosxX") &&
    !(spec.flags.contains 0x49 && is "aAceEosxX") &&
    !(spec.flags.contains 0x23 && is "cdisu") && !(spec.flags.contains 0x30 && is "cs") &&
    !(spec.precision.isSome && is "c")

def readSize (text : Bytes) : Size × Bytes :=
  match text with
  | 0x2A :: rest => (.argument, rest)
  | _ =>
    let digits := text.takeWhile isDigit
    (.number (decimal digits), text.drop digits.length)

/-- Reads a conversion after its `%`, and what follows it. -/
def readSpec (r : Rules) (text : Bytes) : Except Bytes (Spec × Bytes) :=
  let flags := text.takeWhile r.flags.contains
  let (width, rest) := readSize (text.drop flags.length)
  let (precision, rest) := match rest with
    | 0x2E :: rest =>
      let (size, rest) := readSize rest
      (some size, rest)
    | rest => (none, rest)
  let rest := if r.extended then rest.dropWhile (utf8 "lLhjtz").contains else rest
  let written (length : Nat) : Bytes := percent :: text.take (text.length - rest.length + length)
  match rest with
  | [] =>
    .error (if r.extended then written 0 ++ utf8 ": invalid conversion specification"
      else utf8 "missing format character")
  | conversion :: rest =>
    let spec := { flags, width, precision, conversion, text := written 1 : Spec }
    if r.knows spec then .ok (spec, rest)
    else .error (spec.text ++ utf8
      (if r.extended then ": invalid conversion specification" else ": invalid directive"))

/-- Cuts a format into its parts. The fuel is its length. -/
def parts (r : Rules) : (fuel : Nat) → Bytes → List Part
  | 0, _ => []
  | _, [] => []
  | fuel + 1, b :: rest =>
    if b = Escape.backslash then
      match Escape.read ⟨false, r.extended, r.extended⟩ rest with
      | .stop => [.stop]
      | .fault text => [.invalid text]
      | .text text count => .text text :: parts r fuel (rest.drop count)
    else if b = percent then
      match rest with
      | 0x25 :: rest => .text [percent] :: parts r fuel rest
      | _ =>
        match readSpec r rest with
        | .ok (spec, rest) => .convert spec :: parts r fuel rest
        | .error complaint => [.invalid complaint]
    else
      let run := rest.takeWhile fun c => c != Escape.backslash && c != percent
      .text (b :: run) :: parts r fuel (rest.drop run.length)

/-! ## Numbers in arguments -/

/-- An integer as it is written in a program text, and whether that is all of the text. -/
def integer (text : Bytes) : Int × Bool :=
  match text with
  | 0x22 :: c :: _ | 0x27 :: c :: _ => (c.toNat, true)
  | _ =>
    let body := text.dropWhile Floating.isSpace
    let (negative, body) := match body with
      | 0x2D :: body => (true, body)
      | 0x2B :: body => (false, body)
      | body => (false, body)
    let value (b : UInt8) : Option Nat := (Escape.hexValue? b).map (·.toNat)
    let (base, digits) := match body with
      | 0x30 :: x :: d :: digits =>
        if (x = 0x78 || x = 0x58) && (value d).isSome then (16, d :: digits) else (8, body)
      | 0x30 :: _ => (8, body)
      | _ => (10, body)
    let taken := digits.takeWhile fun b => (value b).any (· < base)
    let n : Nat := taken.foldl (fun n b => n * base + (value b).getD 0) 0
    ((if negative then -(n : Int) else n), taken.length == digits.length && !taken.isEmpty)

/-- What is wrong with an argument that should be a number. -/
inductive Misreading where
  | noNumber
  /-- A number stands at its beginning. -/
  | partly
  | outOfRange
  /-- A character, and more after it. -/
  | more (rest : Bytes)

/-- Whether a number stands at the beginning of a text. -/
def beginsNumber (text : Bytes) : Bool :=
  let body := text.dropWhile Floating.isSpace
  match body with
  | 0x2D :: d :: _ | 0x2B :: d :: _ | d :: _ => isDigit d
  | [] => false

/-- The character after a quote at the beginning of a text, if the text has one. -/
def character? (r : Rules) (text : Bytes) : Option (Nat × Option Misreading) :=
  match text with
  | quote :: rest =>
    if quote ≠ 0x22 && quote ≠ 0x27 then none
    else match rest with
      | [] => if r.extended then none else some (0, none)
      | [c] => some (c.toNat, none)
      | c :: more => some (c.toNat, if r.extended then some (.more more) else none)
  | [] => none

/-- The largest and the smallest integer of a conversion. -/
def range (isSigned : Bool) : Int × Int :=
  if isSigned then (-9223372036854775808, 9223372036854775807)
  else (-18446744073709551615, 18446744073709551615)

def readInteger (r : Rules) (isSigned : Bool) (text : Bytes) : Int × Option Misreading :=
  match character? r text with
  | some (n, misread) => (n, misread)
  | none =>
    let (n, isWhole) := integer text
    let (low, high) := range isSigned
    let clamped := if n < low then (if isSigned then low else high) else min n high
    (clamped,
      if text.isEmpty && !r.extended then none
      else if !isWhole then some (if beginsNumber text then .partly else .noNumber)
      else if clamped ≠ n then some .outOfRange else none)

def readFloating (r : Rules) (text : Bytes) : Floating.Number × Option Misreading :=
  match character? r text with
  | some (n, misread) => (⟨false, .finite n 0⟩, misread)
  | none =>
    let reading := Floating.read r.format text
    (reading.number,
      if text.isEmpty && !r.extended then none
      else if reading.length = 0 then some .noNumber
      else if reading.length < text.length then some .partly
      else if reading.isOutOfRange then some .outOfRange else none)

/-- What is said of an argument that is no number, and whether that is a failure. -/
def Rules.complaint (r : Rules) (text : Bytes) : Misreading → Bytes × Bool
  | .noNumber => (r.quote text ++ utf8
      (if r.extended then ": expected a numeric value" else ": expected numeric value"), true)
  | .partly => (r.quote text ++ utf8
      (if r.extended then ": value not completely converted"
       else ": not completely converted"), true)
  | .outOfRange => (r.quote text ++ utf8 ": Numerical result out of range", true)
  | .more rest => (utf8 "warning: " ++ r.quoteIfNeeded rest ++ utf8
      ": character(s) following character constant have been ignored", false)

/-! ## Converting -/

/-- A conversion whose sizes are known. -/
structure Sized where
  flags : Bytes
  width : Nat
  precision : Option Nat
  conversion : UInt8

namespace Sized

def isLeft (s : Sized) : Bool := s.flags.contains 0x2D

def isZeroFilled (s : Sized) : Bool := s.flags.contains 0x30 && !s.isLeft

def isAlternate (s : Sized) : Bool := s.flags.contains 0x23

def pad (s : Sized) (text : Bytes) : Bytes :=
  let room := List.replicate (s.width - text.length) 0x20
  if s.isLeft then text ++ room else room ++ text

/-- Puts a sign before digits, and zeros between them if the width asks for them. -/
def padNumber (s : Sized) (isZeroFilled : Bool) (sign digits : Bytes) : Bytes :=
  if isZeroFilled then
    sign ++ List.replicate (s.width - sign.length - digits.length) 0x30 ++ digits
  else s.pad (sign ++ digits)

def signOf (s : Sized) (isNegative : Bool) : Bytes :=
  if isNegative then [0x2D]
  else if s.flags.contains 0x2B then [0x2B]
  else if s.flags.contains 0x20 then [0x20]
  else []

/-- A letter in upper case stands for upper case in what is written. -/
def isUpper (s : Sized) : Bool := 0x41 ≤ s.conversion && s.conversion ≤ 0x5A

def raise (s : Sized) (text : Bytes) : Bytes :=
  if s.isUpper then text.map fun b => if 0x61 ≤ b && b ≤ 0x7A then b - 0x20 else b else text

def integer (s : Sized) (n : Int) : Bytes :=
  let isSigned := s.conversion = 0x64 || s.conversion = 0x69
  let size := if isSigned then n.natAbs else (n % 18446744073709551616).toNat
  let base := match s.conversion with
    | 0x6F => 8
    | 0x78 | 0x58 => 16
    | _ => 10
  let digits := utf8 (String.ofList (Nat.toDigits base size))
  let digits := if size = 0 && s.precision = some 0 then [] else digits
  let digits := List.replicate (s.precision.getD 1 - digits.length) 0x30 ++ digits
  let (sign, digits) : Bytes × Bytes :=
    if isSigned then (s.signOf (n < 0), digits)
    else if s.isAlternate && base = 8 && digits.head? ≠ some 0x30 then ([], 0x30 :: digits)
    else if s.isAlternate && base = 16 && size ≠ 0 then (utf8 "0x", digits)
    else ([], digits)
  s.raise (s.padNumber (s.isZeroFilled && s.precision.isNone) sign digits)

def floating (s : Sized) (format : Floating.Format) (n : Floating.Number) : Bytes :=
  let lower := if s.isUpper then s.conversion + 0x20 else s.conversion
  let digits := Floating.write format lower s.precision s.isAlternate n.magnitude
  let isFinite := match n.magnitude with
    | .finite _ _ => true
    | _ => false
  let sign := s.signOf n.isNegative
  if isFinite && lower = 0x61 then
    s.raise (s.padNumber s.isZeroFilled (sign ++ digits.take 2) (digits.drop 2))
  else s.raise (s.padNumber (s.isZeroFilled && isFinite) sign digits)

end Sized

/-- What was printed so far. -/
structure Printed where
  /-- Outputs and complaints, the last one first. -/
  said : List (Bool × Bytes) := []
  failed : Bool := false
  stopped : Bool := false
  /-- A part of the format is invalid. -/
  isInvalid : Bool := false

namespace Printed

def put (p : Printed) (text : Bytes) : Printed :=
  if text.isEmpty then p else { p with said := (true, text) :: p.said }

def complain (p : Printed) (text : Bytes) (isFailure : Bool := true) : Printed :=
  { p with said := (false, text) :: p.said, failed := p.failed || isFailure }

def noteMisreading (p : Printed) (r : Rules) (text : Bytes) : Option Misreading → Printed
  | some misread =>
    let (complaint, isFailure) := r.complaint text misread
    p.complain complaint isFailure
  | none => p

def stopInvalid (p : Printed) (text : Bytes) : Printed :=
  { p.complain text with stopped := true, isInvalid := true }

/-- The outputs, and the complaints. -/
def output (p : Printed) : Bytes := ((p.said.reverse.filter (·.1)).map (·.2)).flatten

def complaints (p : Printed) : List Bytes := (p.said.reverse.filter (!·.1)).map (·.2)

end Printed

/-- A size, which may be taken from the arguments. -/
def sizeOf (r : Rules) (p : Printed) (args : List Bytes) : Size → Printed × Int × List Bytes
  | .number n => (p, n, args)
  | .argument =>
    match args with
    | [] => (p, 0, [])
    | text :: args =>
      let (n, misread) := readInteger r true text
      (p.noteMisreading r text misread, n, args)

/-- Does a conversion, and leaves the arguments that follow. -/
def convert (r : Rules) (spec : Spec) (args : List Bytes) (p : Printed) : Printed × List Bytes :=
  let (p, width, args) := sizeOf r p args spec.width
  let (p, precision, args) := match spec.precision with
    | some size =>
      let (p, n, args) := sizeOf r p args size
      (p, if n < 0 then none else some n.toNat, args)
    | none => (p, none, args)
  let s : Sized :=
    { flags := if width < 0 then 0x2D :: spec.flags else spec.flags
      width := width.natAbs, precision, conversion := spec.conversion }
  let text := args.headD []
  let rest := args.drop 1
  let cut (text : Bytes) : Bytes := match s.precision with
    | some n => text.take n
    | none => text
  match spec.conversion with
  | 0x73 => (p.put (s.pad (cut text)), rest)
  | 0x71 => (p.put (if args.isEmpty then [] else r.quoteIfNeeded text), rest)
  | 0x62 =>
    let expanded := Escape.expand { zeroFirst := true, extended := r.extended } text
    let p := p.put (s.pad (cut expanded.bytes))
    match expanded.fault with
    | some fault => (p.stopInvalid fault, rest)
    | none => ({ p with stopped := expanded.stopped }, rest)
  | 0x63 => (p.put (s.pad [text.headD nul]), rest)
  | c =>
    if (utf8 "aAeEfFgG").contains c then
      let (n, misread) := if args.isEmpty then (⟨false, .finite 0 0⟩, none) else readFloating r text
      ((p.noteMisreading r text misread).put (s.floating r.format n), rest)
    else
      let (n, misread) :=
        if args.isEmpty then (0, none) else readInteger r (c = 0x64 || c = 0x69) text
      ((p.noteMisreading r text misread).put (s.integer n), rest)

/-- One pass over the format, and the arguments it leaves. -/
def pass (r : Rules) : List Part → List Bytes → Printed → Printed × List Bytes
  | [], args, p => (p, args)
  | part :: parts, args, p =>
    match part with
    | .text bytes => pass r parts args (p.put bytes)
    | .stop => ({ p with stopped := true }, args)
    | .invalid complaint => (p.stopInvalid complaint, args)
    | .convert spec =>
      let (p, args) := convert r spec args p
      if p.stopped then (p, args) else pass r parts args p

/-- Passes until the arguments are used up, or a pass takes none. The fuel is their
number. -/
def passes (r : Rules) (parts : List Part) : (fuel : Nat) → List Bytes → Printed → Printed
  | 0, _, p => p
  | fuel + 1, args, p =>
    let (p, rest) := pass r parts args p
    if p.stopped then p
    else match rest with
      | [] => p
      | first :: _ =>
        if rest.length < args.length then passes r parts fuel rest p
        else if r.extended then
          p.complain
            (utf8 "warning: ignoring excess arguments, starting with " ++ r.quote first) false
        else p

/-- Prints by a format. -/
def run (r : Rules) (format : Bytes) (args : List Bytes) : Printed :=
  passes r (parts r format.length format) (args.length + 1) args {}

end TinyShell.Userland.Printf
