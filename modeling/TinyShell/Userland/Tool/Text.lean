import TinyShell.Userland.Printf
import TinyShell.Userland.Tool.Basic

/-!
# Tools for text

`cat`, `echo`, `printf`, and `sleep`, which only waits.
-/

namespace TinyShell.Userland.Tool

/-! ## Showing files -/

/-- How lines are shown. -/
structure Display where
  numbersAll : Bool
  numbersFilled : Bool
  squeezes : Bool
  showsEnds : Bool
  showsTabs : Bool
  showsControls : Bool

namespace Display

def ofRequest (r : Request) : Display :=
  let any (letters : String) : Bool := letters.toList.any r.has
  { numbersAll := r.has 'n' && !r.has 'b', numbersFilled := r.has 'b', squeezes := r.has 's',
    showsEnds := any "AEe", showsTabs := any "ATt", showsControls := any "Aevt" }

def isPlain (d : Display) : Bool :=
  !(d.numbersAll || d.numbersFilled || d.squeezes || d.showsEnds || d.showsTabs || d.showsControls)

/-- A byte below the first blank, or the last one, by the letter it goes with. -/
def caret (b : UInt8) : Bytes := [0x5E, if b = 0x7F then 0x3F else b + 0x40]

def byte (d : Display) (b : UInt8) : Bytes :=
  if b = 0x09 then if d.showsTabs then caret b else [b]
  else if !d.showsControls then [b]
  else if b < 0x20 || b = 0x7F then caret b
  else if b < 0x80 then [b]
  else
    let low := b - 0x80
    utf8 "M-" ++ if low < 0x20 || low = 0x7F then caret low else [low]

/-- What was shown so far, which goes on from one file to the next. -/
structure State where
  number : Nat := 0
  /-- The empty lines just before. -/
  blanks : Nat := 0
  isLineStart : Bool := true
  /-- A carriage return that may be part of the end of a line. -/
  isHeld : Bool := false
  done : Bytes := []

def State.put (s : State) (text : Bytes) : State := { s with done := text.reverse ++ s.done }

/-- Shows the number of the next line. -/
def State.putNumber (s : State) : State :=
  let digits := utf8 (toString (s.number + 1))
  let room := List.replicate (6 - digits.length) 0x20
  { s with number := s.number + 1 }.put (room ++ digits ++ [0x09])

def step (d : Display) (s : State) (b : UInt8) : State :=
  let s := if s.isHeld then
    { s with isHeld := false }.put (if b = newline then caret 0x0D else d.byte 0x0D) else s
  if b = newline then
    let blanks := if s.isLineStart then s.blanks + 1 else 0
    if d.squeezes && 1 < blanks then { s with blanks }
    else
      let s := if s.isLineStart && d.numbersAll then s.putNumber else s
      { s with blanks, isLineStart := true }.put (if d.showsEnds then [0x24, b] else [b])
  else
    let s := if s.isLineStart && (d.numbersAll || d.numbersFilled) then s.putNumber else s
    let s := { s with isLineStart := false, blanks := 0 }
    if b = 0x0D && d.showsEnds && !d.showsControls then { s with isHeld := true }
    else s.put (d.byte b)

end Display

def catOptions : Known where
  letters := "AbeEnstTuv"
  words := [("show-nonprinting", 'v'), ("number-nonblank", 'b'), ("number", 'n'),
    ("squeeze-blank", 's'), ("show-ends", 'E'), ("show-tabs", 'T'), ("show-all", 'A')]

/-- The content of an operand of `cat`, of which `consumed` bytes of descriptor 0 are gone. -/
def contentOf (process : Process) (files : Files) (consumed : Nat) (name : Bytes) :
    Except Errno Bytes := do
  if name = [0x2D] then
    if process.isInputClosed then throw .badDescriptor
    match process.input with
    | .directory => throw .isDirectory
    | .bytes rest => return rest.drop consumed
  else
    let i ← files.openToRead process.cwd name
    if (files.directory? i).isSome then throw .isDirectory
    return files.content i

def cat : Program := fun process =>
  withRequest catOptions process fun r =>
    let display := Display.ofRequest r
    let operands := if r.operands.isEmpty then [[0x2D]] else r.operands
    let read := fun ((p, state) : Progress × Display.State) (name : Bytes) =>
      match contentOf process p.files p.consumed name with
      | .error e => (p.complain (Quoted.name name ++ utf8 (": " ++ e.text)), state)
      | .ok content =>
        let p := if name = [0x2D] then { p with consumed := process.input.rest.length } else p
        if display.isPlain then (p.put content, state)
        else
          let state := content.foldl display.step { state with done := [] }
          (p.put state.done.reverse, state)
    if process.sink = .closed then
      let reason := "standard output: " ++ Errno.badDescriptor.text
      abandon (Progress.start process) (utf8 reason) process
    else
      let (p, state) := operands.foldl read (Progress.start process, {})
      let p := if state.isHeld then p.put [0x0D] else p
      let p :=
        if process.isInputClosed && operands.contains [0x2D] then
          p.complain (utf8 ("closing standard input: " ++ Errno.badDescriptor.text))
        else p
      p.finish process

/-! ## Printing -/

/-- The letters of an option of `echo`, if it is one. -/
def echoLetters? : Bytes → Option Bytes
  | 0x2D :: letter :: letters =>
    if (letter :: letters).all (utf8 "neE").contains then some (letter :: letters) else none
  | _ => none

def echo : Program := fun process =>
  let args := process.argv.drop 1
  let options := args.takeWhile (echoLetters? · |>.isSome)
  let letters := (options.filterMap echoLetters?).flatten
  let expands := letters.foldl (fun expands b =>
    if b = 0x65 then true else if b = 0x45 then false else expands) false
  let plain := [0x20].intercalate (args.drop options.length)
  let text : Escape.Text :=
    if expands then Escape.expand { zeroFirst := true, extended := true } plain
    else { bytes := plain }
  let output := text.bytes ++ if letters.contains 0x6E || text.stopped then [] else [newline]
  ((Progress.start process).put output).finish process

/-- How the tool `printf` prints. -/
def printing : Printf.Rules where
  extended := true
  format := Floating.extended
  quote := Quoted.always
  quoteIfNeeded := Quoted.ifNeeded

def printf : Program := fun process =>
  let args := match process.argv.drop 1 with
    | [0x2D, 0x2D] :: args => args
    | args => args
  match args with
  | [] => usage (utf8 "missing operand") process
  | format :: args =>
    let printed := Printf.run printing format args
    let p := printed.said.reverse.foldl (fun (p : Progress) (isOutput, text) =>
      if isOutput then p.put text else p.say text) (Progress.start process)
    { p with failed := printed.failed }.finish process

/-! ## Waiting -/

/-- Whether a text is a time to wait: a number with perhaps a unit. -/
def isInterval (text : Bytes) : Bool :=
  let reading := Floating.read Floating.double text
  let unit := text.drop reading.length
  reading.length ≠ 0 && !reading.number.isNegative &&
    (unit.isEmpty || (unit.length = 1 && unit.all (utf8 "smhd").contains))

def sleep : Program := fun process =>
  withRequest {} process fun r =>
    if r.operands.isEmpty then usage (utf8 "missing operand") process
    else
      match r.operands.filter (!isInterval ·) with
      | [] => (Progress.start process).finish process
      | bad =>
        let p := bad.foldl (fun (p : Progress) text =>
          p.complain (utf8 "invalid time interval " ++ Quoted.always text)) (Progress.start process)
        p.referToHelp.finish process

end TinyShell.Userland.Tool
