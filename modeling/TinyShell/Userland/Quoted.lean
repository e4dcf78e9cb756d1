import TinyShell.Userland.Escape

/-!
# Names in messages

How tools show a name: `Quoted.always` between quotes, `Quoted.ifNeeded` only if a shell
would read it otherwise without them.
-/

namespace TinyShell.Userland.Quoted

def isPrintable (b : UInt8) : Bool := 0x20 ≤ b && b < 0x7F

/-- Letters, digits and the signs that mean nothing to a shell. -/
def isPlain (b : UInt8) : Bool :=
  (0x30 ≤ b && b ≤ 0x39) || (0x41 ≤ b && b ≤ 0x5A) || (0x61 ≤ b && b ≤ 0x7A) ||
    (utf8 "%+,-./:@]_").contains b

/-- Means something only where a name begins. -/
def isPlainLater (b : UInt8) : Bool := (utf8 "#~").contains b

/-- Means something only alone. -/
def isBrace (b : UInt8) : Bool := (utf8 "\x7b\x7d").contains b

/-- Whether a shell takes a name as it is written. -/
def isPlainName (name : Bytes) : Bool :=
  match name with
  | [] => false
  | [b] => isPlain b
  | b :: rest =>
    (isPlain b || isBrace b) && rest.all fun b => isPlain b || isPlainLater b || isBrace b

/-- Whether a name stands between double quotes as well as between single ones. -/
def fitsDoubleQuotes (name : Bytes) : Bool :=
  let fits (b : UInt8) : Bool := isPlain b || b == 0x20 || b == 0x27
  match name with
  | [] => true
  | b :: rest => (fits b || isPlainLater b) && rest.all fits

def octal (b : UInt8) : Bytes :=
  [Escape.backslash, 0x30 + b / 64, 0x30 + b / 8 % 8, 0x30 + b % 8]

def escape (b : UInt8) : Bytes :=
  match Escape.letters.find? fun (_, c) => c = b && c != 0x1B with
  | some (letter, _) => [Escape.backslash, letter]
  | none => octal b

/-- A name between quotes, as a shell reads it. -/
def always (name : Bytes) : Bytes :=
  if name.contains 0x27 && fitsDoubleQuotes name then
    0x22 :: name ++ [0x22]
  else
    let (text, _) := name.foldl (fun (text, escaping) b =>
      if b = 0x27 then
        (text ++ utf8 "'\\''", false)
      else if isPrintable b then
        (text ++ (if escaping then utf8 "''" else []) ++ [b], false)
      else
        (text ++ (if escaping then [] else utf8 "'$'") ++ escape b, true))
      (([0x27] : Bytes), false)
    text ++ [0x27]

def ifNeeded (name : Bytes) : Bytes :=
  if isPlainName name then name else always name

/-- A name before a colon: one of its own has to be told apart. -/
def name (name : Bytes) : Bytes :=
  if name.contains 0x3A then always name else ifNeeded name

end TinyShell.Userland.Quoted
