import TinyShell.Text.Alphanumeric
import TinyShell.Text.Blank

/-!
# Regular expressions

What is wanted of a regular expression is only whether it can be compiled. `Regex.check`
reads one and finds its flaw, if it has one. No expression holds a closing brace, so a brace
that would open a count or a long name is itself a flaw. There are no tables of Unicode to
look up words, digits or the other case of a letter in.
-/

namespace TinyShell.Text.Regex

inductive Flaw where
  | malformed
  /-- A boundary of words, which are not known. -/
  | words
  deriving DecidableEq, Repr

def Flaw.message : Flaw → String
  | malformed => "error building NFA"
  | words => "unsupported regex feature for DFAs: cannot build DFAs for regexes with " ++
      "Unicode word boundaries; switch to ASCII word boundaries, or heuristically enable " ++
      "Unicode word boundaries or use a different regex engine"

/-- The flags in force. -/
structure Mode where
  foldsCase : Bool := false
  unicode : Bool := true
  /-- Blanks and comments mean nothing. -/
  isSpaced : Bool := false

/-- What has to be known of a part that was read. -/
structure Part where
  /-- How many levels are below it. -/
  depth : Nat := 0
  asksForWords : Bool := false
  /-- Only sets flags, and cannot be repeated. -/
  isSetting : Bool := false

/-- The deepest nesting. -/
def depthMax : Nat := 250

namespace Part

def deeper (p : Part) : Part := { depth := p.depth + 1, asksForWords := p.asksForWords }

/-- Parts side by side: a level of their own, if there are several. -/
def join : List Part → Part
  | [] => {}
  | [p] => p
  | parts => deeper
    { depth := parts.foldl (fun n p => max n p.depth) 0,
      asksForWords := parts.any (·.asksForWords) }

end Part

/-- Where reading has come to, and the names of groups so far. -/
structure Cursor where
  rest : List Char
  groups : List (List Char) := []

abbrev Reader := StateT Cursor Option

namespace Reader

def rest : Reader (List Char) := do return (← get).rest

def drop (count : Nat) : Reader Unit := modify fun c => { c with rest := c.rest.drop count }

def fail {α : Type} : Reader α := failure

/-- The character ahead. -/
def peek : Reader Char := do
  match ← rest with
  | c :: _ => return c
  | [] => fail

/-- A text without the blanks and comments at its beginning. -/
def trimmed : (inComment : Bool) → List Char → List Char
  | _, [] => []
  | true, c :: text => trimmed (c != '\n') text
  | false, c :: text =>
    if isWhiteSpace c then trimmed false text
    else if c = '#' then trimmed true text
    else c :: text

def skip (mode : Mode) : Reader Unit :=
  if mode.isSpaced then modify fun c => { c with rest := trimmed false c.rest } else return

/-- Moves past a character and the blanks after it. -/
def advance (mode : Mode) : Reader Unit := do
  drop 1
  skip mode

/-- The character after the one ahead and blanks. -/
def peekBeyond (mode : Mode) : Reader (Option Char) := do
  let beyond := (← rest).drop 1
  if mode.isSpaced then
    let beyond := beyond.dropWhile isWhiteSpace
    match beyond with
    | '#' :: text => return (text.dropWhile isWhiteSpace).head?
    | _ => return beyond.head?
  else return beyond.head?

/-- What an escape, or a character by itself, stands for. -/
inductive Primitive where
  /-- With whether it was written as the number of a byte. -/
  | literal (c : Char) (isByte : Bool)
  /-- A class of digits, blanks or words, or its complement. -/
  | class (isNegated : Bool)
  | assertion (ofWords : Bool)

def hexValue? (c : Char) : Option Nat :=
  if c.isDigit then some (c.toNat - '0'.toNat)
  else if 'a' ≤ c ∧ c ≤ 'f' then some (c.toNat - 'a'.toNat + 10)
  else if 'A' ≤ c ∧ c ≤ 'F' then some (c.toNat - 'A'.toNat + 10)
  else none

/-- So many hexadecimal digits. -/
def hexDigits (mode : Mode) : (count value : Nat) → Reader Nat
  | 0, value => return value
  | count + 1, value => do
    match hexValue? (← peek) with
    | some digit =>
      advance mode
      hexDigits mode count (value * 16 + digit)
    | none => fail

def hex (mode : Mode) (count : Nat) : Reader Primitive := do
  advance mode
  let value ← hexDigits mode count 0
  if Nat.isValidChar value then return .literal (Char.ofNat value) (count = 2) else fail

/-- Escapes of control characters by a letter. -/
def controls : List (Char × Nat) :=
  [('a', 0x7), ('t', 0x9), ('n', 0xA), ('v', 0xB), ('f', 0xC), ('r', 0xD)]

/-- Signs of ASCII stand for themselves after a backslash, but for two. -/
def isEscapable (c : Char) : Bool :=
  c.toNat < 0x80 && !c.isAlphanum && c != '<' && c != '>'

/-- Reads an escape from its backslash on. -/
def escape (mode : Mode) : Reader Primitive := do
  drop 1
  let c ← peek
  if c = 'x' then hex mode 2
  else if c = 'u' then hex mode 4
  else if c = 'U' then hex mode 8
  else
    drop 1
    if isEscapable c then return .literal c false
    match controls.lookup c with
    | some n => return .literal (Char.ofNat n) false
    | none =>
      if ['d', 's', 'w'].contains c then return .class false
      else if ['D', 'S', 'W'].contains c then return .class true
      else if ['A', 'z'].contains c then return .assertion false
      else if ['b', 'B', '<', '>'].contains c then
        if c = 'b' && (← rest).head? = some '\x7b' then fail else return .assertion true
      else fail

/-- A byte above ASCII is no text. -/
def isText (mode : Mode) (c : Char) (isByte : Bool) : Bool :=
  mode.unicode || !isByte || c.toNat < 0x80

/-- What a primitive is outside of brackets. -/
def part (mode : Mode) : Primitive → Reader Part
  | .literal c isByte =>
    if isText mode c isByte && !(mode.unicode && mode.foldsCase) then return {} else fail
  | .class isNegated => if mode.unicode || isNegated then fail else return {}
  | .assertion ofWords => return { asksForWords := ofWords && mode.unicode }

/-- What is in brackets, or in a part of them. -/
structure Contents where
  depth : Nat := 0
  isEmpty : Bool := false

namespace Contents

def join : List Contents → Contents
  | [] => { isEmpty := true }
  | [c] => c
  | all =>
    { depth := all.foldl (fun n c => max n c.depth) 0 + 1, isEmpty := all.all (·.isEmpty) }

/-- Two operands of an operation on sets. -/
def operate (left : Option Contents) (right : Contents) : Contents :=
  match left with
  | none => right
  | some left =>
    { depth := max left.depth right.depth + 1, isEmpty := left.isEmpty && right.isEmpty }

end Contents

/-- One character that may stand in brackets. -/
def member (mode : Mode) (c : Char) (isByte : Bool) : Bool :=
  mode.unicode || c.toNat < 0x80 && isText mode c isByte

def bracketPrimitive (mode : Mode) : Reader Primitive := do
  let c ← peek
  if c = '\\' then escape mode
  else
    drop 1
    return .literal c false

/-- A character, a class or a range in brackets. -/
def bracketItem (mode : Mode) : Reader Contents := do
  let first ← bracketPrimitive mode
  skip mode
  let beyond ← peekBeyond mode
  if (← peek) != '-' || beyond = some ']' || beyond = some '-' then
    match first with
    | .literal c isByte => if member mode c isByte then return {} else fail
    | .class isNegated => if mode.unicode || isNegated then fail else return {}
    | .assertion _ => fail
  else
    advance mode
    let _ ← peek
    match first, ← bracketPrimitive mode with
    | .literal low b, .literal high b' =>
      if low ≤ high && member mode low b && member mode high b' then return {} else fail
    | _, _ => fail

def classNames : List String :=
  ["alnum", "alpha", "ascii", "blank", "cntrl", "digit", "graph", "lower", "print", "punct",
    "space", "upper", "word", "xdigit"]

/-- A class by its name between colons, with its own brackets: whether it is negated, and
what follows. -/
def namedClass? (text : List Char) : Option (Bool × List Char) :=
  match text with
  | '[' :: ':' :: text =>
    let isNegated := text.head? = some '^'
    let text := if isNegated then text.drop 1 else text
    let name := text.takeWhile (· != ':')
    match text.drop name.length with
    | ':' :: ']' :: text =>
      if classNames.contains (String.ofList name) then some (isNegated, text) else none
    | _ => none
  | _ => none

/-- The dashes that may stand first in brackets. -/
def leadingDashes (mode : Mode) : (fuel : Nat) → Reader (List Contents)
  | 0 => return []
  | fuel + 1 => do
    if (← peek) = '-' then
      advance mode
      return {} :: (← leadingDashes mode fuel)
    else return []

mutual

/-- Brackets from the opening one on. -/
def bracket (fuel : Nat) (mode : Mode) : Reader Contents :=
  match fuel with
  | 0 => fail
  | fuel + 1 => do
    advance mode
    let isNegated := (← peek) == '^'
    if isNegated then advance mode
    let dashes ← leadingDashes mode (← rest).length
    let isClosing := dashes.isEmpty && (← peek) == ']'
    if isClosing then
      advance mode
      let _ ← peek
    let inner ← union fuel mode (if isClosing then [{}] else dashes) none
    if !mode.unicode && isNegated then fail
    if mode.unicode && mode.foldsCase && !inner.isEmpty then fail
    return { depth := inner.depth + 1, isEmpty := inner.isEmpty && !isNegated }

/-- The rest of what is in brackets, and the closing one. -/
def union (fuel : Nat) (mode : Mode) (items : List Contents) (left : Option Contents) :
    Reader Contents :=
  match fuel with
  | 0 => fail
  | fuel + 1 => do
    skip mode
    match ← rest with
    | ']' :: _ =>
      drop 1
      return .operate left (.join items)
    | '[' :: text =>
      match namedClass? ('[' :: text) with
      | some (isNegated, after) =>
        if !mode.unicode && isNegated then fail
        modify fun c => { c with rest := after }
        union fuel mode ({} :: items) left
      | none =>
        let inner ← bracket fuel mode
        union fuel mode (inner :: items) left
    | '&' :: '&' :: _ | '-' :: '-' :: _ | '~' :: '~' :: _ =>
      drop 2
      union fuel mode [] (some (.operate left (.join items)))
    | _ :: _ =>
      let item ← bracketItem mode
      union fuel mode (item :: items) left
    | [] => fail

end

/-- The flags that there are. -/
def flags : List Char := ['i', 'm', 's', 'U', 'u', 'R', 'x', '-']

/-- The mode that flags lead to: those after a dash are taken back. -/
def withFlags (mode : Mode) (text : List Char) : Mode :=
  let on := text.takeWhile (· != '-')
  let off := text.drop on.length
  let apply (flag : Char) (now : Bool) : Bool := (now || on.contains flag) && !off.contains flag
  { foldsCase := apply 'i' mode.foldsCase, unicode := apply 'u' mode.unicode,
    isSpaced := apply 'x' mode.isSpaced }

/-- The name of a group and the sign that closes it. -/
def groupName : Reader Unit := do
  let name := (← rest).takeWhile (· != '>')
  let isLetter (c : Char) : Bool := c == '_' || isAlphabetic c
  let inName (c : Char) : Bool := isLetter c || ['.', '[', ']'].contains c || isAlphanumeric c
  drop name.length
  let _ ← peek
  drop 1
  if !name.head?.any isLetter || !name.all inName || (← get).groups.contains name then fail
  modify fun c => { c with groups := name :: c.groups }

/-- What is between the parenthesis that opens a group and its body: the mode of the body.
`none` stands for flags that are set for what follows the group. -/
def groupStart (mode : Mode) : Reader (Mode × Bool) := do
  match ← rest with
  | '?' :: '=' :: _ | '?' :: '!' :: _ | '?' :: '<' :: '=' :: _ | '?' :: '<' :: '!' :: _ => fail
  | '?' :: 'P' :: '<' :: _ => drop 3; groupName; return (mode, true)
  | '?' :: '<' :: _ => drop 2; groupName; return (mode, true)
  | '?' :: text =>
    let set := text.takeWhile fun c => c != ':' && c != ')'
    drop (set.length + 1)
    let closing ← peek
    drop 1
    if !set.all flags.contains || !set.eraseDups.length = set.length
      || set.getLast? = some '-' then fail
    if closing = ')' && set.isEmpty then fail
    return (withFlags mode set, closing = ':')
  | _ => return (mode, true)

mutual

/-- Alternatives up to the end of their group. -/
def alternatives (fuel : Nat) (mode : Mode) (branch done : List Part) : Reader Part :=
  match fuel with
  | 0 => fail
  | fuel + 1 => do
    skip mode
    match ← rest with
    | [] | ')' :: _ => return .join (.join branch :: done)
    | '|' :: _ => drop 1; alternatives fuel mode [] (.join branch :: done)
    | '(' :: _ => group fuel mode branch done
    | '[' :: _ =>
      let contents ← bracket fuel mode
      alternatives fuel mode ({ depth := contents.depth } :: branch) done
    | '\x7b' :: _ => fail
    | '.' :: _ =>
      if !mode.unicode then fail
      drop 1
      alternatives fuel mode ({} :: branch) done
    | '^' :: _ | '$' :: _ => drop 1; alternatives fuel mode ({} :: branch) done
    | '\\' :: _ => alternatives fuel mode ((← part mode (← escape mode)) :: branch) done
    | c :: text =>
      if ['?', '*', '+'].contains c then
        match branch with
        | [] => fail
        | last :: branch =>
          if last.isSetting then fail
          drop (if text.head? = some '?' then 2 else 1)
          alternatives fuel mode (last.deeper :: branch) done
      else
        drop 1
        alternatives fuel mode ((← part mode (.literal c false)) :: branch) done

/-- A group, and the alternatives that go on after it. -/
def group (fuel : Nat) (mode : Mode) (branch done : List Part) : Reader Part :=
  match fuel with
  | 0 => fail
  | fuel + 1 => do
    advance mode
    let (inner, hasBody) ← groupStart mode
    if hasBody then
      let body ← alternatives fuel inner [] []
      let _ ← peek
      drop 1
      alternatives fuel mode (body.deeper :: branch) done
    else alternatives fuel inner ({ isSetting := true } :: branch) done

end

end Reader

/-- The flaw of an expression, if it has one. -/
def check (text : List Char) : Except Flaw Unit :=
  match (Reader.alternatives (4 * text.length + 4) {} [] []).run { rest := text } with
  | some (part, ⟨[], _⟩) =>
    if depthMax < part.depth then .error .malformed
    else if part.asksForWords then .error .words
    else .ok ()
  | _ => .error .malformed

end TinyShell.Text.Regex
