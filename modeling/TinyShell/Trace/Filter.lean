import TinyShell.Text.Regex
import TinyShell.Trace.Event

/-!
# Filters of trace events

A filter is a list of directives divided by commas, each with a level and perhaps the
beginning of the targets and the field it is for. `Filter.admits` asks the most specific
directive that applies to an event.
-/

namespace TinyShell

/-- The level up to which events pass: zero lets nothing pass. -/
abbrev Threshold := Nat

inductive DirectiveError where
  | malformed
  | level
  /-- The value asked of a field is no regular expression. -/
  | field (flaw : Text.Regex.Flaw)
  deriving DecidableEq, Repr

def DirectiveError.message : DirectiveError → String
  | malformed => "invalid filter directive"
  | level => "error parsing level filter: expected one of \"off\", \"error\", \"warn\", " ++
      "\"info\", \"debug\", \"trace\", or a number 0-5"
  | field flaw => "invalid field filter: " ++ flaw.message

structure Directive where
  target : Option String := none
  span : Option String := none
  /-- The name of a field, with whether a value is asked for. -/
  field : Option (String × Bool) := none
  threshold : Threshold := Level.trace.rank
  deriving DecidableEq, Repr

namespace Directive

/-- What a number or a level says in a directive. -/
def levelNumber? (text : List Char) : Option Nat :=
  let digits := match text with
    | '+' :: digits => digits
    | digits => digits
  if digits.isEmpty || !digits.all Char.isDigit then none
  else
    let n := digits.foldl (fun n c => n * 10 + (c.toNat - '0'.toNat)) 0
    if n ≤ Level.trace.rank then some n else none

def levels : List (String × Threshold) :=
  [("off", 0), ("error", Level.error.rank), ("warn", Level.warn.rank),
    ("info", Level.info.rank), ("debug", Level.debug.rank), ("trace", Level.trace.rank)]

/-- Reads a level: a number, or a name in letters of either case. -/
def threshold? (text : List Char) : Option Threshold :=
  match levelNumber? text with
  | some n => some n
  | none => levels.lookup (String.ofList (text.map Char.toLower))

/-- Characters that a directive may begin with. -/
def mayBegin (c : Char) : Bool :=
  c == '-' || c == ':' || c == '_' || Text.isAlphanumeric c

/-- A place in the text of a directive: the mark by which its parts are found, and the
character that stands there. -/
structure Cell where
  mark : Option Char
  char : Char
  deriving DecidableEq, Repr

def textOf (cells : List Cell) : String := String.ofList (cells.map Cell.char)

/-- Blanks around a directive do not count when its parts are found: the marks are its text
without them. The parts are cut from the whole text, at the same places. -/
def cells (text : List Char) : List Cell :=
  let blank := Text.isWhiteSpace
  let marks := ((text.dropWhile blank).reverse.dropWhile blank).reverse
  List.zipWith Cell.mk (marks.map some ++ List.replicate (text.length - marks.length) none) text

/-- Digits, with a point among them or not, and an exponent or not. -/
def isDecimal (text : List Char) : Bool :=
  let base := text.takeWhile fun c => c != 'e' && c != 'E'
  let exponent := match text.drop base.length with
    | [] => ['0']
    | _ :: '+' :: exponent | _ :: '-' :: exponent | _ :: exponent => exponent
  let digits := base.filter (· != '.')
  !digits.isEmpty && !exponent.isEmpty && (digits ++ exponent).all Char.isDigit &&
    base.count '.' ≤ 1

/-- Whether a value is read as a number, which may be infinite or none at all. -/
def isNumber (text : List Char) : Bool :=
  let unsigned := match text with
    | '+' :: rest | '-' :: rest => rest
    | text => text
  isDecimal unsigned ||
    ["inf", "infinity", "nan"].contains (String.ofList (unsigned.map Char.toLower))

/-- Reads the name of a field, and whether a value follows. A value that is no number is a
regular expression; a second equals sign ends it. -/
def fieldOf (text : List Char) : Except DirectiveError (String × Bool) :=
  let name := text.takeWhile (· != '=')
  match text.drop name.length with
  | [] => .ok (String.ofList name, false)
  | _ :: rest =>
    let value := rest.takeWhile (· != '=')
    match if isNumber value then .ok () else Text.Regex.check value with
    | .ok () => .ok (String.ofList name, true)
    | .error flaw => .error (.field flaw)

def ofLevel (d : Directive) (text : List Char) : Except DirectiveError Directive :=
  if text.isEmpty then .ok d
  else match threshold? text with
    | some threshold => .ok { d with threshold }
    | none => .error .level

/-- After the span: nothing, or a level. -/
def afterSpan (d : Directive) : List Cell → Except DirectiveError Directive
  | [] | ⟨none, _⟩ :: _ => .ok d
  | ⟨some '=', _⟩ :: rest => d.ofLevel (rest.map Cell.char)
  | _ => .error .malformed

/-- The field between braces, the bracket that closes the span, and what follows. -/
def ofField (d : Directive) (text : List Cell) : Except DirectiveError Directive :=
  let inner := text.takeWhile (·.mark != some '\x7d')
  match inner, text.drop inner.length with
  | [], _ | _, [] => .error .malformed
  | _, _ :: rest => do
    let field ← fieldOf (inner.map Cell.char)
    match rest with
    | ⟨some ']', _⟩ :: rest => afterSpan { d with field := some field } rest
    | _ => .error .malformed

/-- The name of a span, perhaps with a field, after the bracket that opens it. -/
def ofSpan (d : Directive) (text : List Cell) : Except DirectiveError Directive :=
  let name := text.takeWhile fun c => c.mark != some ']' && c.mark != some '\x7b'
  match text.drop name.length with
  | ⟨some ']', _⟩ :: rest => { d with span := some (textOf name) }.afterSpan rest
  | _ :: rest =>
    { d with span := if name.isEmpty then none else some (textOf name) }.ofField rest
  | [] => .error .malformed

def parse (text : List Char) : Except DirectiveError Directive :=
  match cells text with
  | ⟨some '[', _⟩ :: rest => ofSpan {} rest
  | ⟨some c, _⟩ :: _ =>
    if !mayBegin c then .error .malformed
    else
      let cells := cells text
      let head := cells.takeWhile fun c => c.mark != some '=' && c.mark != some '['
      let target := some (textOf head)
      match cells.drop head.length with
      | ⟨some '=', _⟩ :: level => { target : Directive }.ofLevel (level.map Cell.char)
      | _ :: rest => { target : Directive }.ofSpan rest
      | [] => match threshold? (head.map Cell.char) with
        | some threshold => .ok { threshold }
        | none => .ok { target }
  | _ => .error .malformed

/-- Whether a directive can decide on events outside spans. -/
def isStatic (d : Directive) : Bool := d.span.isNone && d.field.all (!·.2)

/-- Whether two directives are for the same events. -/
def sameScope (a b : Directive) : Bool := a.target = b.target && a.field = b.field

def targetSize (d : Directive) : Nat := match d.target with
  | some target => target.utf8ByteSize + 1
  | none => 0

def fieldName (d : Directive) : String := (d.field.map (·.1)).getD ""

/-- More specific directives come first: those with the longer target, then those with
a field, then in the order of the names from the last to the first. -/
def precedes (a b : Directive) : Bool :=
  if a.targetSize ≠ b.targetSize then b.targetSize < a.targetSize
  else if a.field.isSome ≠ b.field.isSome then a.field.isSome
  else if a.target ≠ b.target then b.target.getD "" < a.target.getD ""
  else b.fieldName < a.fieldName

/-- Whether a directive is for an event. -/
def appliesTo (d : Directive) (e : Event) : Bool :=
  (match d.target with
    | some target => target.toList.isPrefixOf e.target.toList
    | none => true) &&
  d.field.all fun (name, _) => e.fieldNames.contains name

end Directive

/-- Directives that can decide, the most specific first. -/
structure Filter where
  directives : List Directive := []
  deriving DecidableEq, Repr

namespace Filter

/-- Adds a directive. A later one takes the place of an earlier one for the same events. -/
def insert (f : Filter) (d : Directive) : Filter :=
  let others := f.directives.filter (!d.sameScope ·)
  ⟨others.takeWhile (·.precedes d) ++ d :: others.dropWhile (·.precedes d)⟩

def ofDirectives (directives : List Directive) : Filter :=
  (directives.filter Directive.isStatic).foldl insert {}

/-- The directives of a text, each with how its reading ends. -/
def parts (text : String) : List (String × Except DirectiveError Directive) :=
  ((text.toList.splitOn ',').filter (!·.isEmpty)).map fun part =>
    (String.ofList part, Directive.parse part)

/-- Reads a filter and passes over what is no directive: the filter, and what was left
out. -/
def parseLenient (text : String) : Filter × List (String × DirectiveError) :=
  let read := parts text
  (ofDirectives (read.filterMap fun (_, result) => result.toOption),
   read.filterMap fun (part, result) => match result with
     | .error e => some (part, e)
     | .ok _ => none)

/-- Reads a filter, of which every part has to be a directive. -/
def parse? (text : String) : Option Filter :=
  let (f, leftOut) := parseLenient text
  if leftOut.isEmpty then some f else none

def admits (f : Filter) (e : Event) : Bool :=
  match f.directives.find? (·.appliesTo e) with
  | some d => e.level.rank ≤ d.threshold
  | none => false

end Filter

end TinyShell
