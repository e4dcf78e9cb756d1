import TinyShell.Bytes

/-!
# Reading bytes as text

`decode` reads a byte string as UTF-8: `some c` for a character and `none` for a maximal
beginning of a character that goes no further, or a byte that begins none. `lossy` shows
each `none` as U+FFFD; `decode?` accepts only texts without one.
-/

namespace TinyShell.Utf8

/-- A character begun: the bytes it still lacks (one at least), the range of the next of
them, and the bits so far. -/
structure Begun where
  lacking : Nat
  low : UInt8
  high : UInt8
  bits : Nat
  deriving DecidableEq, Repr

/-- What a byte is when no character is begun. -/
inductive Lead where
  | whole (c : Char)
  | begins (b : Begun)
  | stray
  deriving DecidableEq, Repr

/-- The ranges of the second byte leave out overlong forms, surrogates and what lies past
U+10FFFF. -/
def lead (b : UInt8) : Lead :=
  if b < 0x80 then .whole (Char.ofNat b.toNat)
  else if b < 0xC2 then .stray
  else if b < 0xE0 then .begins ⟨1, 0x80, 0xBF, b.toNat - 0xC0⟩
  else if b = 0xE0 then .begins ⟨2, 0xA0, 0xBF, 0⟩
  else if b = 0xED then .begins ⟨2, 0x80, 0x9F, 0xD⟩
  else if b < 0xF0 then .begins ⟨2, 0x80, 0xBF, b.toNat - 0xE0⟩
  else if b = 0xF0 then .begins ⟨3, 0x90, 0xBF, 0⟩
  else if b < 0xF4 then .begins ⟨3, 0x80, 0xBF, b.toNat - 0xF0⟩
  else if b = 0xF4 then .begins ⟨3, 0x80, 0x8F, 4⟩
  else .stray

/-- One byte with no character begun. -/
def start (b : UInt8) : List (Option Char) × Option Begun :=
  match lead b with
  | .whole c => ([some c], none)
  | .begins p => ([], some p)
  | .stray => ([none], none)

/-- One byte more. A byte that cannot go on with the character begun starts afresh. -/
def step : Option Begun → UInt8 → List (Option Char) × Option Begun
  | none, b => start b
  | some p, b =>
    if p.low ≤ b ∧ b ≤ p.high then
      let bits := p.bits * 64 + (b.toNat - 0x80)
      if p.lacking ≤ 1 then ([some (Char.ofNat bits)], none)
      else ([], some ⟨p.lacking - 1, 0x80, 0xBF, bits⟩)
    else
      let (out, next) := start b
      (none :: out, next)

def decodeFrom : Option Begun → Bytes → List (Option Char)
  | none, [] => []
  | some _, [] => [none]
  | p, b :: bs =>
    let (out, next) := step p b
    out ++ decodeFrom next bs

def decode (bs : Bytes) : List (Option Char) := decodeFrom none bs

/-- The text that shows `bs`, with U+FFFD for what is no character. -/
def lossy (bs : Bytes) : String :=
  String.ofList ((decode bs).map (·.getD '\uFFFD'))

/-- The characters of `bs`, if it is a UTF-8 text. -/
def decode? (bs : Bytes) : Option (List Char) := (decode bs).mapM id

end TinyShell.Utf8
