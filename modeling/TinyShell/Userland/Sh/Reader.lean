import TinyShell.Userland.Sh.Cursor

/-!
# Reading scripts

A script is read one complete command at a time (`Reader.next`), so what stands before a
mistake is executed. Fuel bounds the depth of the recursion and is taken from the length
of the script.
-/

namespace TinyShell.Userland.Sh

namespace Reader

/-- The commands that no function can take the name of. -/
def special : List Bytes :=
  [".", ":", "break", "continue", "eval", "exec", "exit", "export", "local", "readonly", "return",
    "set", "shift", "times", "trap", "unset"].map utf8

/-- The operators between the name of a parameter and a word in braces. -/
def fallbacks : List (String × Fallback × Bool) :=
  [(":-", .default, true), (":=", .assign, true), (":+", .alternative, true),
    (":?", .complaint, true), ("-", .default, false), ("=", .assign, false),
    ("+", .alternative, false), ("?", .complaint, false)]

/-- The operators between the name of a parameter and a pattern in braces. -/
def trims : List (String × Trim) :=
  [("##", ⟨false, true⟩), ("#", ⟨false, false⟩), ("%%", ⟨true, true⟩), ("%", ⟨true, false⟩)]

/-- A text without the joints of lines it begins with. -/
def skipJoins : Bytes → Bytes
  | 0x5C :: 0x0A :: rest => skipJoins rest
  | rest => rest

/-- The name of a parameter ahead, or nothing. -/
def parameterName : Reader Bytes := do
  let rest ← rest
  let name := match rest with
    | b :: others =>
      if isDigit b then b :: others.takeWhile isDigit
      else if isSpecial b then [b]
      else nameAt rest
    | [] => []
  advance name.length
  return name

/-- The bytes of a text before one of `signs`. -/
def plain (signs : String) (text : Bytes) : Bytes := text.takeWhile (!(utf8 signs).contains ·)

def missingBrace {α : Type} (line : Nat) : Reader α := do
  throw { line, text := utf8 "Syntax error: Missing '\x7d'" }

/-- What is written between quotes of a kind, up to the quote that closes them. -/
def literal (quote : UInt8) : Reader Bytes := do
  let body := ((← rest).drop 1).takeWhile (· != quote)
  advance (body.length + 1)
  if (← peek) ≠ some quote then unterminated
  advance 1
  return body

/-- The rest of a text between double quotes in which no expansions are made. -/
def quotedDelimiter : (fuel : Nat) → (done : Bytes) → Reader Bytes
  | 0, _ => unterminated
  | fuel + 1, done => do
    match ← rest with
    | [] => unterminated
    | 0x22 :: _ => advance 1; return done
    | 0x5C :: 0x0A :: _ => advance 2; quotedDelimiter fuel done
    | 0x5C :: b :: _ =>
      advance 2
      quotedDelimiter fuel (done ++ if (utf8 "$`\"\\").contains b then [b] else [0x5C, b])
    | b :: _ => advance 1; quotedDelimiter fuel (done ++ [b])

/-- The word that ends a document, in which no expansions are made, and whether a part of it
is quoted. -/
def delimiterWith : (fuel : Nat) → (done : Bytes) → (isQuoted : Bool) → Reader (Bytes × Bool)
  | 0, done, isQuoted => return (done, isQuoted)
  | fuel + 1, done, isQuoted => do
    match ← rest with
    | [] => return (done, isQuoted)
    | 0x5C :: 0x0A :: _ => advance 2; delimiterWith fuel done isQuoted
    | [0x5C] => advance 1; delimiterWith fuel (done ++ [0x5C]) true
    | 0x5C :: b :: _ => advance 2; delimiterWith fuel (done ++ [b]) true
    | 0x27 :: _ => delimiterWith fuel (done ++ (← literal 0x27)) true
    | 0x22 :: _ =>
      advance 1
      delimiterWith fuel (done ++ (← quotedDelimiter fuel [])) true
    | b :: _ =>
      if isMeta b then return (done, isQuoted)
      advance 1
      delimiterWith fuel (done ++ [b]) isQuoted

/-- What is ahead up to the backquote that closes it, and how long that is as it is
written: backslashes before some bytes are taken away. -/
def backquotedText (isQuoted : Bool) : (fuel : Nat) → (done : Bytes) → (taken : Nat) → Bytes →
    Option (Bytes × Nat)
  | 0, _, _, _ => none
  | _, _, _, [] => none
  | fuel + 1, done, taken, b :: rest =>
    if b = 0x60 then some (done.reverse, taken)
    else match b, rest with
      | 0x5C, 0x0A :: rest => backquotedText isQuoted fuel done (taken + 2) rest
      | 0x5C, c :: rest =>
        if (utf8 "$`\\").contains c || (isQuoted && c == 0x22) then
          backquotedText isQuoted fuel (c :: done) (taken + 2) rest
        else backquotedText isQuoted fuel (c :: 0x5C :: done) (taken + 2) rest
      | _, _ => backquotedText isQuoted fuel (b :: done) (taken + 1) rest

/-- What stood between double quotes, the last piece first. It makes a field even if it is
empty, unless it is the list of the arguments. -/
def marked (pieces : Word) : Word :=
  match pieces with
  | [.parameter [0x40] _] => pieces
  | _ => pieces ++ [.text [] true]

/-- The line of a command: where its first word ends. -/
def lineOfFirst (line : Nat) (isFirst : Bool) : Reader Nat := do
  if isFirst then return (← get).line else return line

mutual

def word (fuel : Nat) (done : Word) : Reader Word :=
  match fuel with
  | 0 => return done.reverse
  | fuel + 1 => do
    match ← rest with
    | [] => return done.reverse
    | 0x5C :: 0x0A :: _ => advance 2; word fuel done
    | [0x5C] => advance 1; word fuel (.text [0x5C] true :: done)
    | 0x5C :: b :: _ => advance 2; word fuel (.text [b] true :: done)
    | 0x27 :: _ => word fuel (.text (← literal 0x27) true :: done)
    | 0x22 :: _ =>
      advance 1
      word fuel (marked (← quoted fuel false []) ++ done)
    | 0x24 :: _ => advance 1; word fuel ((← dollar fuel false) :: done)
    | 0x60 :: _ => advance 1; word fuel ((← backquoted fuel false) :: done)
    | b :: rest =>
      if isMeta b then return done.reverse
      let text := b :: (plain "\\'\"$`" rest).takeWhile (!isMeta ·)
      advance text.length
      word fuel (.text text false :: done)

/-- The rest of a text between double quotes, or of a document, the last piece first. -/
def quoted (fuel : Nat) (isDocument : Bool) (done : Word) : Reader Word :=
  match fuel with
  | 0 => unterminated
  | fuel + 1 => do
    match ← rest with
    | [] => if isDocument then return done else unterminated
    | 0x5C :: 0x0A :: _ => advance 2; quoted fuel isDocument done
    | 0x5C :: b :: _ =>
      if (utf8 "$`\\").contains b || (b == 0x22 && !isDocument) then
        advance 2
        quoted fuel isDocument (.text [b] true :: done)
      else
        advance 1
        quoted fuel isDocument (.text [0x5C] true :: done)
    | 0x24 :: _ => advance 1; quoted fuel isDocument ((← dollar fuel true) :: done)
    | 0x60 :: _ => advance 1; quoted fuel isDocument ((← backquoted fuel (!isDocument)) :: done)
    | b :: rest =>
      if b == 0x22 && !isDocument then
        advance 1
        return done
      let text := b :: plain "\\\"$`" rest
      advance text.length
      quoted fuel isDocument (.text text true :: done)

/-- What follows a dollar sign. -/
def dollar (fuel : Nat) (isQuoted : Bool) : Reader Piece :=
  match fuel with
  | 0 => return .text [0x24] isQuoted
  | fuel + 1 => do
    match ← rest with
    | 0x28 :: 0x28 :: _ =>
      advance 2
      return .arithmetic (← arithmetic fuel 0 []) isQuoted
    | 0x28 :: _ =>
      advance 1
      let body ← commands fuel .nothing
      close 0x29
      return .output body isQuoted
    | 0x7B :: 0x23 :: b :: rest =>
      if b = 0x7D then
        advance 3
        return .parameter [0x23] isQuoted
      if !inName b && (skipJoins rest).head? ≠ some 0x7D then
        advance 2
        return ← inBraces fuel [0x23] isQuoted
      advance 2
      let name ← parameterName
      if !inName b then modify fun c => { c with rest := skipJoins c.rest }
      if (← peek) = some 0x7D && !name.isEmpty then
        advance 1
        return .length name isQuoted
      if name.isEmpty && (← peek) = some newline then skipByte
      let _ ← braced fuel isQuoted []
      return .unknown
    | 0x7B :: _ =>
      advance 1
      inBraces fuel (← parameterName) isQuoted
    | b :: _ =>
      if isSpecial b then
        advance 1
        return .parameter [b] isQuoted
      let name := nameAt (← rest)
      if name.isEmpty then return .text [0x24] isQuoted
      advance name.length
      return .parameter name isQuoted
    | [] => return .text [0x24] isQuoted

/-- What follows the name of a parameter in braces. -/
def inBraces (fuel : Nat) (name : Bytes) (isQuoted : Bool) : Reader Piece :=
  match fuel with
  | 0 => unterminated
  | fuel + 1 => do
    let rest ← rest
    if !name.isEmpty && rest.head? = some 0x7D then
      advance 1
      return .parameter name isQuoted
    let begins (text : String) : Bool := !name.isEmpty && (utf8 text).isPrefixOf rest
    let fallback := fallbacks.find? fun (text, _) => begins text
    match fallback, trims.find? fun (text, _) => begins text with
    | some (text, how, orEmpty), _ =>
      advance text.length
      return .orElse name how orEmpty (← braced fuel isQuoted []) isQuoted
    | none, some (text, how) =>
      advance text.length
      return .trimmed name how (← braced fuel false []) isQuoted
    | none, none =>
      if rest.head? = some newline then skipByte
      let _ ← braced fuel isQuoted []
      return .unknown

/-- A word up to the closing brace. -/
def braced (fuel : Nat) (isQuoted : Bool) (done : Word) : Reader Word :=
  match fuel with
  | 0 => unterminated
  | fuel + 1 => do
    match ← rest with
    | [] => if isQuoted then unterminated else missingBrace (← get).line
    | 0x7D :: _ => advance 1; return done.reverse
    | 0x5C :: 0x0A :: _ => advance 2; braced fuel isQuoted done
    | 0x5C :: b :: _ =>
      advance 2
      let text := if isQuoted && !(utf8 "$`\"\\\x7d").contains b then [0x5C, b] else [b]
      braced fuel isQuoted (.text text true :: done)
    | 0x27 :: _ =>
      if isQuoted then
        advance 1
        braced fuel isQuoted (.text [0x27] true :: done)
      else braced fuel isQuoted (.text (← literal 0x27) true :: done)
    | 0x22 :: _ =>
      advance 1
      braced fuel isQuoted (marked (← quoted fuel false []) ++ done)
    | 0x24 :: _ => advance 1; braced fuel isQuoted ((← dollar fuel isQuoted) :: done)
    | 0x60 :: _ => advance 1; braced fuel isQuoted ((← backquoted fuel isQuoted) :: done)
    | b :: rest =>
      let text := b :: plain "\\'\"$`\x7d" rest
      advance text.length
      braced fuel isQuoted (.text text isQuoted :: done)

/-- An arithmetic expression up to the closing parentheses. -/
def arithmetic (fuel depth : Nat) (done : Word) : Reader Word :=
  match fuel with
  | 0 => unterminated
  | fuel + 1 => do
    match ← rest with
    | [] => fail (utf8 "Missing '))'")
    | 0x5C :: 0x0A :: _ => advance 2; arithmetic fuel depth done
    | 0x29 :: rest =>
      match depth, rest with
      | 0, 0x29 :: _ => advance 2; return done.reverse
      | 0, [] => fail (utf8 "Missing '))'")
      | _, _ => advance 1; arithmetic fuel (depth - 1) (.text [0x29] true :: done)
    | 0x28 :: _ => advance 1; arithmetic fuel (depth + 1) (.text [0x28] true :: done)
    | 0x24 :: _ => advance 1; arithmetic fuel depth ((← dollar fuel true) :: done)
    | 0x60 :: _ => advance 1; arithmetic fuel depth ((← backquoted fuel true) :: done)
    | b :: rest =>
      let text := b :: plain "\\()$`" rest
      advance text.length
      arithmetic fuel depth (.text text true :: done)

/-- A command between backquotes, read as a script of its own. -/
def backquoted (fuel : Nat) (isQuoted : Bool) : Reader Piece :=
  match fuel with
  | 0 => unterminated
  | fuel + 1 => do
    let rest ← rest
    match backquotedText isQuoted (rest.length + 1) [] 0 rest with
    | none => advance rest.length; fail (utf8 "EOF in backquote substitution")
    | some (body, taken) =>
      let script ← within 1 body do
        let script ← commands fuel .nothing
        if !(← Reader.rest).isEmpty then unexpected none
        return script
      advance (taken + 1)
      return .output script isQuoted

/-- Commands up to what ends their block. -/
def commands (fuel : Nat) (done : Command) : Reader Command :=
  match fuel with
  | 0 => tooDeep
  | fuel + 1 => do
    skipLines
    let rest ← rest
    let ends := (["then", "else", "elif", "fi", "do", "done", "esac", "\x7d"].map utf8).contains
      (← ahead)
    if rest.isEmpty || rest.head? = some 0x29 || (utf8 ";;").isPrefixOf rest || ends then
      return done
    let (command, isDivided) ← separator (← chain fuel)
    let done := match done with
      | .nothing => command
      | done => .sequence done command
    if isDivided || (← peek) = some newline then commands fuel done else return done

/-- What divides two commands, and whether anything does. -/
def separator (command : Command) : Reader (Command × Bool) := do
  skipBlanks
  let line := (← get).line
  match ← rest with
  | 0x3B :: 0x3B :: _ => return (command, false)
  | 0x3B :: _ => advance 1; return (command, true)
  | 0x26 :: _ => advance 1; return (.background line command, true)
  | _ => return (command, false)

/-- Pipelines joined by `&&` and `||`. -/
def chain (fuel : Nat) : Reader Command :=
  match fuel with
  | 0 => tooDeep
  | fuel + 1 => do chainFrom fuel (← pipeline fuel)

def chainFrom (fuel : Nat) (first : Command) : Reader Command :=
  match fuel with
  | 0 => return first
  | fuel + 1 => do
    skipBlanks
    if ← lookingAt "&&" then
      advance 2
      skipLines
      chainFrom fuel (.both first (← pipeline fuel))
    else if ← lookingAt "||" then
      advance 2
      skipLines
      chainFrom fuel (.either first (← pipeline fuel))
    else return first

def pipeline (fuel : Nat) : Reader Command :=
  match fuel with
  | 0 => tooDeep
  | fuel + 1 => do
    skipBlanks
    if (← ahead) = utf8 "!" then
      advance 1
      skipBlanks
      return .negated (← stages fuel [← command fuel])
    else stages fuel [← command fuel]

/-- The rest of a pipeline, whose last stages come first in `done`. -/
def stages (fuel : Nat) (done : List Command) : Reader Command :=
  match fuel with
  | 0 => tooDeep
  | fuel + 1 => do
    skipBlanks
    if (← lookingAt "|") && !(← lookingAt "||") then
      advance 1
      skipLines
      stages fuel ((← command fuel) :: done)
    else match done with
      | [command] => return command
      | done => return .pipe done.reverse

def command (fuel : Nat) : Reader Command :=
  match fuel with
  | 0 => tooDeep
  | fuel + 1 => do
    skipBlanks
    let line := (← get).line
    let first ← ahead
    let wrap (body : Command) : Reader Command := do
      let redirections ← redirections fuel []
      return if redirections.isEmpty then body else .redirected line body redirections
    if (← peek) = some 0x28 then
      advance 1
      let body ← block fuel none
      close 0x29
      return .subshell line body (← redirections fuel [])
    else if first = utf8 "\x7b" then
      advance 1
      match ← block fuel (some "\x7d") with
      | .subshell line body inner =>
        let outer ← redirections fuel []
        return .subshell line body (if outer.isEmpty then inner else outer)
      | body => wrap body
    else if first = utf8 "if" then
      advance 2
      wrap (← branches fuel)
    else if first = utf8 "while" || first = utf8 "until" then
      advance 5
      let condition ← block fuel (some "do")
      let body ← block fuel (some "done")
      wrap (.loop (first = utf8 "while") condition body)
    else if first = utf8 "for" then
      advance 3
      wrap (← iteration fuel line)
    else if first = utf8 "case" then
      advance 4
      skipBlanks
      let subject ← word fuel []
      if subject.isEmpty then caseWordMissing
      expect "in"
      wrap (.select line subject (← caseArms fuel []))
    else if reserved.contains first then unexpected none
    else
      if ← expandAlias then command fuel else simple fuel line [] [] []

/-- Complains that a word should come next. -/
def caseWordMissing : Reader Unit := do
  try unexpected none
  catch mistake => throw { mistake with text := mistake.text ++ utf8 " (expecting word)" }

/-- Commands, at least one, and the word that ends them. -/
def block (fuel : Nat) (closing : Option String) : Reader Command :=
  match fuel with
  | 0 => tooDeep
  | fuel + 1 => do
    match ← commands fuel .nothing with
    | .nothing => unexpected (if (← rest).isEmpty then closing.map utf8 else none)
    | body =>
      if let some text := closing then expect text
      return body

/-- A conditional, after the word that begins it. -/
def branches (fuel : Nat) : Reader Command :=
  match fuel with
  | 0 => tooDeep
  | fuel + 1 => do
    let condition ← block fuel (some "then")
    skipLines
    if (← rest).isEmpty then unexpected (some (utf8 "fi"))
    let yes ← block fuel none
    let next ← ahead
    if next = utf8 "elif" then
      advance 4
      return .choice condition yes (← branches fuel)
    else if next = utf8 "else" then
      advance 4
      return .choice condition yes (← block fuel (some "fi"))
    else
      expect "fi"
      return .choice condition yes .nothing

def iteration (fuel line : Nat) : Reader Command :=
  match fuel with
  | 0 => tooDeep
  | fuel + 1 => do
    skipBlanks
    let name ← ahead
    if (← peek) = some newline then advance 1
    if !isName name then fail (utf8 "Bad for loop variable")
    advance name.length
    skipLines
    if (← ahead) = utf8 "in" then
      advance 2
      let items ← wordsUntilEnd fuel []
      expect "do"
      return .each line name (some items) (← block fuel (some "done"))
    else
      if (← peek) = some 0x3B then advance 1
      expect "do"
      return .each line name none (← block fuel (some "done"))

def wordsUntilEnd (fuel : Nat) (done : List Word) : Reader (List Word) :=
  match fuel with
  | 0 => return done.reverse
  | fuel + 1 => do
    skipBlanks
    match ← peek with
    | some b =>
      if b = 0x3B || b = newline then
        advance 1
        return done.reverse
      else if isMeta b then unexpected none
      else wordsUntilEnd fuel ((← word fuel []) :: done)
    | none => return done.reverse

def caseArms (fuel : Nat) (done : List (List Word × Command)) :
    Reader (List (List Word × Command)) :=
  match fuel with
  | 0 => return done.reverse
  | fuel + 1 => do
    skipLines
    if (← ahead) = utf8 "esac" then
      advance 4
      return done.reverse
    if (← peek) = some 0x28 then advance 1
    let patterns ← casePatterns fuel []
    let body ← commands fuel .nothing
    if ← lookingAt ";;" then advance 2
    else if (← ahead) ≠ utf8 "esac" then unexpected (some (utf8 ";;"))
    caseArms fuel ((patterns, body) :: done)

def casePatterns (fuel : Nat) (done : List Word) : Reader (List Word) :=
  match fuel with
  | 0 => return done.reverse
  | fuel + 1 => do
    skipBlanks
    let pattern ← word fuel []
    if pattern.isEmpty && !(← rest).isEmpty then advance 1
    skipBlanks
    match pattern, ← peek with
    | _ :: _, some 0x7C => advance 1; casePatterns fuel (pattern :: done)
    | [], some 0x29 => unexpected (some [0x29])
    | _, _ =>
      closePlain
      return (pattern :: done).reverse

/-- What follows the descriptor of a redirection, if one is named. -/
def redirection (fuel : Nat) (named : Option Nat) : Reader Redirection :=
  match fuel with
  | 0 => tooDeep
  | fuel + 1 => do
    if ← lookingAt "<<" then
      advance 2
      let isStripped := (← peek) = some 0x2D
      if isStripped then advance 1
      skipBlanks
      if (← peek).all isMeta then unexpected none
      let (delimiter, isLiteral) ← delimiterWith fuel [] false
      let (line, text) ← document delimiter isStripped
      let body ← if isLiteral then pure [.text text true]
        else within line text do return (← documentBody fuel).reverse
      return .document (named.getD 0) body
    let (usual, way) ← direction
    skipBlanks
    let target ← word fuel []
    if target.isEmpty then unexpected none
    return .mk (named.getD usual) way target

/-- What a document consists of, the last piece first. It has no quotes that could be open. -/
def documentBody (fuel : Nat) : Reader Word :=
  match fuel with
  | 0 => tooDeep
  | fuel + 1 => do
    try quoted fuel true []
    catch mistake =>
      if (← rest).isEmpty then missingBrace (mistake.line + 1) else throw mistake

/-- The redirections that come next. -/
def redirections (fuel : Nat) (done : List Redirection) : Reader (List Redirection) :=
  match fuel with
  | 0 => return done.reverse
  | fuel + 1 => do
    skipBlanks
    let digits := (← rest).takeWhile isDigit
    match (← rest).drop digits.length with
    | b :: _ =>
      if (b = 0x3C || b = 0x3E) && digits.length ≤ 1 then
        advance digits.length
        let one ← redirection fuel (digits.head?.map fun d => d.toNat - 0x30)
        redirections fuel (one :: done)
      else return done.reverse
    | [] => return done.reverse

def simple (fuel line : Nat) (assignments : List (Bytes × Word)) (words : List Word)
    (found : List Redirection) : Reader Command :=
  match fuel with
  | 0 => tooDeep
  | fuel + 1 => do
    skipBlanks
    if ← continueAlias then skipBlanks
    let more ← redirections fuel []
    if !more.isEmpty then simple fuel line assignments words (more.reverse ++ found)
    else
      let finished : Reader Command := do
        if assignments.isEmpty && words.isEmpty && found.isEmpty then unexpected none
        else return .simple line assignments.reverse words.reverse found.reverse
      match ← peek with
      | none => finished
      | some 0x28 =>
        match assignments, words, found with
        | [], [name], [] =>
          advance 1
          skipBlanks
          closePlain
          let name := match name with
            | [.text name false] => name
            | _ => []
          if !isName name || special.contains name then fail (utf8 "Bad function name")
          skipLines
          return .define name (← command fuel)
        | _, _, _ => finished
      | some b =>
        if isMeta b then finished
        else
          let name := nameAt (← rest)
          if words.isEmpty && !name.isEmpty && ((← rest).drop name.length).head? = some 0x3D
          then
            advance (name.length + 1)
            let value ← word fuel []
            let line ← lineOfFirst line (assignments.isEmpty && found.isEmpty)
            simple fuel line ((name, value) :: assignments) words found
          else
            let next ← word fuel []
            let isFirst := assignments.isEmpty && words.isEmpty && found.isEmpty
            let line ← lineOfFirst line isFirst
            simple fuel line assignments (next :: words) found

end

/-- Commands up to the end of a line. -/
def lineOf : (fuel : Nat) → Command → Reader Command
  | 0, done => return done
  | fuel + 1, done => do
    skipBlanks
    match ← peek with
    | none => return done
    | some 0x0A => advance 1; return done
    | some _ =>
      let command ← chain (16 * (← rest).length + 64)
      let (command, isDivided) ← separator command
      skipBlanks
      match ← peek with
      | none => return .sequence done command
      | some 0x0A => advance 1; return .sequence done command
      | some _ =>
        if (← lookingAt ";") && isDivided then unexpected none
        else if !isDivided then unexpected none
        else lineOf fuel (.sequence done command)

/-- The next complete command, if there is one. -/
def next : Reader (Option Command) := do
  skipLines
  let length := (← rest).length
  if length = 0 then return none
  return some (← lineOf (length + 1) .nothing)

end Reader

end TinyShell.Userland.Sh
