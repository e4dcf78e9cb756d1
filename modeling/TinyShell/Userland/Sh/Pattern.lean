import TinyShell.Files.Basic

/-!
# Patterns

Patterns of texts and of file names: `*`, `?` and sets in brackets, unless quoted.
`Pattern.trim` cuts off what a pattern fits, `Pattern.expand` gives the paths a pattern
stands for.
-/

namespace TinyShell.Userland.Sh

/-- Bytes, each with whether it is quoted. -/
abbrev Pattern := List (UInt8 × Bool)

namespace Pattern

def text (p : Pattern) : Bytes := p.map (·.1)

def isPlain (p : Pattern) : Bool :=
  p.all fun (b, quoted) => quoted || !(b == 0x2A || b == 0x3F || b == 0x5B || b == 0x5C)

/-- What may stand in a set: a range of bytes, or a class. -/
inductive Member where
  | range (first last : UInt8)
  | named (holds : UInt8 → Bool)

def Member.holds : Member → UInt8 → Bool
  | range first last, b => first ≤ b && b ≤ last
  | named holds, b => holds b

def isUpper (b : UInt8) : Bool := 0x41 ≤ b && b ≤ 0x5A

def isLower (b : UInt8) : Bool := 0x61 ≤ b && b ≤ 0x7A

def isDigit (b : UInt8) : Bool := 0x30 ≤ b && b ≤ 0x39

def isAlphanumeric (b : UInt8) : Bool := isUpper b || isLower b || isDigit b

def isGraphic (b : UInt8) : Bool := 0x21 ≤ b && b ≤ 0x7E

/-- The classes of bytes that have names. -/
def classes : List (String × (UInt8 → Bool)) :=
  [("alnum", isAlphanumeric), ("alpha", fun b => isUpper b || isLower b),
    ("blank", fun b => b == 0x20 || b == 0x09), ("cntrl", fun b => b < 0x20 || b == 0x7F),
    ("digit", isDigit), ("graph", isGraphic), ("lower", isLower),
    ("print", fun b => isGraphic b || b == 0x20),
    ("punct", fun b => isGraphic b && !isAlphanumeric b),
    ("space", fun b => b == 0x20 || (0x09 ≤ b && b ≤ 0x0D)), ("upper", isUpper),
    ("xdigit", fun b => isDigit b || (0x41 ≤ b && b ≤ 0x46) || (0x61 ≤ b && b ≤ 0x66))]

/-- A class at the beginning of a pattern, and what follows it. -/
def class? (p : Pattern) : Option (Member × Pattern) :=
  (classes.find? fun (name, _) =>
    let written := utf8 ("[:" ++ name ++ ":]")
    p.take written.length == written.map fun b => (b, false)).map fun (name, holds) =>
      (.named holds, p.drop (name.length + 4))

/-- A set in brackets: whether it is turned around, its members, and what follows it. -/
def set? (p : Pattern) : Option (Bool × List Member × Pattern) :=
  let (isNegated, body) := match p with
    | (0x21, false) :: body | (0x5E, false) :: body => (true, body)
    | body => (false, body)
  let rec go : Nat → List Member → Pattern → Option (List Member × Pattern)
    | 0, _, _ => none
    | _, _, [] => none
    | fuel + 1, members, (b, quoted) :: rest =>
      if b = 0x5D ∧ !quoted ∧ !members.isEmpty then some (members, rest)
      else match class? ((b, quoted) :: rest), rest with
        | some (member, rest), _ => go fuel (member :: members) rest
        | none, (0x2D, false) :: (c, q) :: rest' =>
          if c = 0x5D ∧ !q then go fuel (.range b b :: members) rest
          else go fuel (.range b c :: members) rest'
        | none, _ => go fuel (.range b b :: members) rest
  (go (body.length + 1) [] body).map fun (members, rest) => (isNegated, members, rest)

/-- Whether a text is of this form. The fuel covers both. -/
def matchesWith : (fuel : Nat) → Pattern → Bytes → Bool
  | 0, _, _ => false
  | _, [], text => text.isEmpty
  | fuel + 1, (b, quoted) :: p, text =>
    if b = 0x2A ∧ !quoted then
      matchesWith fuel p text || match text with
        | [] => false
        | _ :: rest => matchesWith fuel ((b, quoted) :: p) rest
    else if b = 0x5C ∧ !quoted ∧ !p.isEmpty then
      match p, text with
      | (d, _) :: p, c :: rest => d = c && matchesWith fuel p rest
      | _, _ => false
    else match text with
      | [] => false
      | c :: rest =>
        if b = 0x3F ∧ !quoted then matchesWith fuel p rest
        else if b = 0x5B ∧ !quoted then
          match set? p with
          | some (isNegated, members, p) =>
            members.any (·.holds c) != isNegated && matchesWith fuel p rest
          | none => b = c && matchesWith fuel p rest
        else b = c && matchesWith fuel p rest

def isMatch (p : Pattern) (text : Bytes) : Bool :=
  matchesWith (p.length + text.length + 1) p text

/-- A text without the part at its beginning, or its end, that the pattern fits. NULs end what
is compared with it, and the search from the beginning. -/
def trim (p : Pattern) (fromEnd isLongest : Bool) (text : Bytes) : Bytes :=
  let cuts :=
    if fromEnd = isLongest then List.range ((text.takeWhile (· != nul)).length + 1)
    else (List.range (text.length + 1)).reverse
  let fits (n : Nat) : Bool :=
    p.isMatch ((if fromEnd then text.drop n else text.take n).takeWhile (· != nul))
  match cuts.find? fits with
  | some n => if fromEnd then text.take n else text.drop n
  | none => text

/-- The names in a directory of this form, in order. Hidden ones have to be asked for. -/
def names (files : Files) (i : Inode) (p : Pattern) : List Bytes :=
  match files.list i with
  | .error _ => []
  | .ok d =>
    let all := Path.dot :: Path.dotDot :: d.entries.map (·.1)
    (all.filter fun name =>
      isMatch p name && (name.head? ≠ some 0x2E || p.text.head? = some 0x2E)).mergeSort lexLe

/-- The parts of a pattern between slashes. -/
def parts (p : Pattern) : List Pattern := p.splitOnP (·.1 == slash)

/-- Paths that go on from `base` by the parts. -/
def expandFrom (files : Files) (cwd : Inode) (base : Bytes) : List Pattern → List Bytes
  | [] => [base]
  | part :: rest =>
    let here (name : Bytes) : Bytes := base ++ name ++ if rest.isEmpty then [] else [slash]
    if part.isPlain then expandFrom files cwd (here part.text) rest
    else
      match files.find cwd (if base.isEmpty then Path.dot else base) with
      | .error _ => []
      | .ok i => (names files i part).flatMap fun name =>
        expandFrom files cwd (here name) rest

/-- The paths of this form that exist, or the pattern itself if there are none. -/
def expand (files : Files) (cwd : Inode) (p : Pattern) : List Bytes :=
  if p.isPlain then [p.text]
  else
    let found := (expandFrom files cwd [] p.parts).filter fun path =>
      (files.findEntry cwd path).toOption.isSome
    if found.isEmpty then [p.text] else found

end Pattern

end TinyShell.Userland.Sh
