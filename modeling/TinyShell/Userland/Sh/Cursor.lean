import TinyShell.Userland.Sh.Script

/-!
# A place in a script

`Cursor` is how far the reading of a script has come and `Reader` are the steps from place
to place. The steps here know bytes, names and lines; commands are read in terms of them.
-/

namespace TinyShell.Userland.Sh

/-- Where reading has come to. -/
structure Cursor where
  rest : Bytes
  line : Nat := 1
  /-- Lines taken out of the text, by what is left of it after the place. -/
  gaps : List (Nat × Nat) := []
  /-- Words that stand for texts where a command begins. -/
  aliases : List (Bytes × Bytes) := []
  /-- The aliases whose text is being read, by what is left after it. -/
  expanding : List (Nat × Bytes) := []
  /-- The word after an alias may be one too, if what is left is no more than this. -/
  goesOn : Option Nat := none
  /-- The text stands in a file, and is shown if a script is to show what it reads. -/
  isShown : Bool := false

/-- How much of the text stands between two places. -/
def Cursor.distance (before after : Cursor) : Nat := before.rest.length - after.rest.length

/-- A mistake in a script. -/
structure Mistake where
  line : Nat
  text : Bytes

abbrev Reader := ExceptT Mistake (StateM Cursor)

namespace Reader

def fail {α : Type} (text : Bytes) : Reader α := do
  throw { line := (← get).line, text := utf8 "Syntax error: " ++ text }

def rest : Reader Bytes := do return (← get).rest

def peek : Reader (Option UInt8) := do return (← rest).head?

def lookingAt (text : String) : Reader Bool := do return (utf8 text).isPrefixOf (← rest)

/-- Moves on, counting lines. -/
def advance (count : Nat) : Reader Unit := modify fun c =>
  let rest := c.rest.drop count
  let passed := c.gaps.filter fun (left, _) => rest.length ≤ left && left < c.rest.length
  { c with
    rest
    line := c.line + (c.rest.take count).count newline + total (·.2) passed
    expanding := c.expanding.filter fun (left, _) => left < rest.length }

/-- Passes over a byte that ends no line. -/
def skipByte : Reader Unit := modify fun c => { c with rest := c.rest.drop 1 }

/-- Reads another text in place of what is left, and then goes on where it was. -/
def within {α : Type} (line : Nat) (text : Bytes) (body : Reader α) : Reader α := do
  let after ← get
  set { after with rest := text, line, gaps := [], expanding := [] }
  let a ← body
  set after
  return a

def isBlank (b : UInt8) : Bool := b == 0x20 || b == 0x09

/-- Ends a word, unless quoted. -/
def isMeta (b : UInt8) : Bool := isBlank b || b == newline || (utf8 ";&|<>()").contains b

def startsName (b : UInt8) : Bool :=
  (0x41 ≤ b && b ≤ 0x5A) || (0x61 ≤ b && b ≤ 0x7A) || b == 0x5F

def isDigit (b : UInt8) : Bool := 0x30 ≤ b && b ≤ 0x39

def inName (b : UInt8) : Bool := startsName b || isDigit b

/-- The name at the beginning of a text. -/
def nameAt (text : Bytes) : Bytes :=
  if text.head?.any startsName then text.takeWhile inName else []

def isName (text : Bytes) : Bool := !text.isEmpty && nameAt text == text

/-- Stands for a parameter that has no name. -/
def isSpecial (b : UInt8) : Bool := (utf8 "@*#?-$!").contains b || isDigit b

/-- The word ahead, as it is written. -/
def ahead : Reader Bytes := do return (← rest).takeWhile (!isMeta ·)

/-- Puts the text of an alias in the place of the word ahead, if it stands for one. -/
def expandAlias : Reader Bool := do
  let c ← get
  let word ← ahead
  match c.aliases.lookup word with
  | none => return false
  | some text =>
    if c.expanding.any (·.2 = word) then return false
    let after := c.rest.drop word.length
    set { c with
      rest := text ++ after
      expanding := (after.length, word) :: c.expanding
      goesOn := if text.getLast?.any isBlank then some after.length else none }
    return true

/-- Puts the text of an alias in the place of the word ahead, if an alias before it goes on. -/
def continueAlias : Reader Bool := do
  let c ← get
  if !c.goesOn.any (c.rest.length ≤ ·) then return false
  set { c with goesOn := none }
  expandAlias

/-- Passes over blanks, joined lines and a comment. -/
def skipBlanksWith : (fuel : Nat) → Reader Unit
  | 0 => return
  | fuel + 1 => do
    match ← rest with
    | 0x5C :: 0x0A :: _ => advance 2; skipBlanksWith fuel
    | 0x23 :: text => advance ((text.takeWhile (· != newline)).length + 1)
    | b :: _ => if isBlank b then advance 1; skipBlanksWith fuel
    | [] => return

def skipBlanks : Reader Unit := do skipBlanksWith (← rest).length

def skipLinesWith : (fuel : Nat) → Reader Unit
  | 0 => return
  | fuel + 1 => do
    skipBlanks
    if (← peek) = some newline then advance 1; skipLinesWith fuel

def skipLines : Reader Unit := do skipLinesWith ((← rest).length + 1)

def reserved : List Bytes :=
  ["!", "case", "do", "done", "elif", "else", "esac", "fi", "for", "if", "in", "then",
    "until", "while", "\x7b", "\x7d"].map utf8

def quote (text : Bytes) : Bytes := 0x22 :: text ++ [0x22]

/-- Complains of what comes next. -/
def unexpected {α : Type} (expecting : Option Bytes) : Reader α := do
  let rest ← rest
  let word ← ahead
  if rest.head? = some newline then advance 1
  let found : Bytes :=
    if rest.isEmpty then utf8 "end of file"
    else if rest.head? = some newline then utf8 "newline"
    else if word.isEmpty then
      if ["<", ">"].any fun text => (utf8 text).isPrefixOf rest then utf8 "redirection"
      else quote (rest.take
        (if ["&&", "||", ";;"].any fun text => (utf8 text).isPrefixOf rest then 2 else 1))
    else if reserved.contains word then quote word
    else utf8 "word"
  let suffix := match expecting with
    | some token => utf8 " (expecting " ++ quote token ++ utf8 ")"
    | none => []
  fail (found ++ utf8 " unexpected" ++ suffix)

/-- Passes over a reserved word. -/
def expect (word : String) : Reader Unit := do
  skipLines
  if (← ahead) = utf8 word then advance (utf8 word).length
  else unexpected (some (utf8 word))

/-- Passes over a byte. -/
def close (b : UInt8) : Reader Unit := do
  if (← peek) = some b then advance 1 else unexpected (some [b])

/-- Passes over a closing parenthesis where no word is reserved. -/
def closePlain : Reader Unit := do
  if (← peek).any fun b => !isMeta b then fail (utf8 "word unexpected (expecting \")\")")
  close 0x29

def unterminated {α : Type} : Reader α := fail (utf8 "Unterminated quoted string")

def tooDeep {α : Type} : Reader α := fail (utf8 "too deep")

/-- What follows a `<` or `>`: the descriptor meant if none is named, and the direction. -/
def direction : Reader (Nat × Direction) := do
  match ← rest with
  | 0x3C :: 0x26 :: _ => advance 2; return (0, .copy)
  | 0x3C :: 0x3E :: _ => advance 2; return (0, .readWrite)
  | 0x3C :: _ => advance 1; return (0, .read)
  | 0x3E :: 0x3E :: _ => advance 2; return (1, .append)
  | 0x3E :: 0x26 :: _ => advance 2; return (1, .copy)
  | 0x3E :: 0x7C :: _ => advance 2; return (1, .overwrite)
  | _ => advance 1; return (1, .write)

/-- Takes a document out of the text that follows this line: its body ends before the line
that is equal to `delimiter`, and its lines lose their tabs if `isStripped`. Gives the line
where it begins, too. -/
def document (delimiter : Bytes) (isStripped : Bool) : Reader (Nat × Bytes) := do
  let c ← get
  let line := c.rest.takeWhile (· != newline)
  let text := c.rest.drop (line.length + 1)
  let lines := text.splitOn newline
  let strip (line : Bytes) : Bytes := if isStripped then line.dropWhile (· == 0x09) else line
  let body := lines.takeWhile fun line => strip line != delimiter
  let isClosed := body.length < lines.length
  let after := [newline].intercalate (lines.drop (body.length + 1))
  let count := min (body.length + 1) (lines.length - 1)
  let (here, others) := c.gaps.partition fun (left, _) => left = text.length
  let before := total (·.2) here
  set { c with
    rest := line ++ newline :: after
    gaps := (after.length, before + count) :: others }
  let text := [newline].intercalate (body.map strip)
  return (c.line + 1 + before, if isClosed && !body.isEmpty then text ++ [newline] else text)

end Reader

end TinyShell.Userland.Sh
