/-!
# Blank text

The characters with the Unicode property White_Space, and the lines made of them alone.
-/

namespace TinyShell.Text

/-- First and last character of each range with the property White_Space. -/
def whiteSpace : List (Nat × Nat) :=
  [(0x9, 0xD), (0x20, 0x20), (0x85, 0x85), (0xA0, 0xA0), (0x1680, 0x1680), (0x2000, 0x200A),
    (0x2028, 0x2029), (0x202F, 0x202F), (0x205F, 0x205F), (0x3000, 0x3000)]

def isWhiteSpace (c : Char) : Bool :=
  whiteSpace.any fun (first, last) => first ≤ c.toNat && c.toNat ≤ last

def isBlank (s : List Char) : Bool := s.all isWhiteSpace

end TinyShell.Text
