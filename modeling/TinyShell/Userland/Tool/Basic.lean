import TinyShell.Userland.Quoted
import TinyShell.World

/-!
# Tools

What the everyday programs have in common: a tool reads its options, works through its
operands and goes on after a failure, of which its status and its error output tell.
-/

namespace TinyShell.Userland

/-- How far a tool has come. -/
structure Progress where
  /-- The name it was called by. -/
  tool : Bytes
  files : Files
  consumed : Nat := 0
  /-- What it wrote, the last first. -/
  written : List (Outlet × Bytes) := []
  failed : Bool := false

namespace Progress

def start (process : Process) : Progress :=
  { tool := process.argv.headD [], files := process.files }

def put (p : Progress) (text : Bytes) : Progress :=
  if text.isEmpty then p else { p with written := (.output, text) :: p.written }

def putErrors (p : Progress) (text : Bytes) : Progress :=
  { p with written := (.errors, text) :: p.written }

def say (p : Progress) (text : Bytes) : Progress :=
  p.putErrors (p.tool ++ utf8 ": " ++ text ++ [newline])

def complain (p : Progress) (text : Bytes) : Progress := { p.say text with failed := true }

def refuse (p : Progress) (what : String) (name : Bytes) (e : Errno) : Progress :=
  p.complain (utf8 (what ++ " ") ++ name ++ utf8 (": " ++ e.text))

/-- Tells where to read how the tool is called. -/
def referToHelp (p : Progress) : Progress :=
  p.putErrors (utf8 "Try '" ++ p.tool ++ utf8 " --help' for more information.\n")

/-- The effect of a tool, which fails if what it has written has no place. -/
def finish (p : Progress) (process : Process) : Effect :=
  let p := match process.sink.refusal with
    | some e =>
      if p.written.any fun (outlet, _) => outlet = Outlet.output then
        p.complain (utf8 ("write error: " ++ e.text))
      else p
    | none => p
  { files := p.files, consumed := p.consumed, written := p.written.reverse,
    status := .exited (if p.failed then 1 else 0) }

end Progress

namespace Tool

/-- The options a tool knows: letters, those that take a value, and words for letters. -/
structure Known where
  letters : String := ""
  taking : String := ""
  words : List (String × Char) := []

/-- What was asked of a tool. -/
structure Request where
  /-- The options, each with its value. -/
  options : List (Char × Bytes) := []
  operands : List Bytes := []

namespace Request

def has (r : Request) (letter : Char) : Bool := r.options.any (·.1 = letter)

/-- The value of an option; the last one counts. -/
def value? (r : Request) (letter : Char) : Option Bytes :=
  (r.options.reverse.find? (·.1 = letter)).map (·.2)

def addOption (letter : Char) (value : Bytes) (r : Request) : Request :=
  { r with options := (letter, value) :: r.options }

end Request

/-- The letter of a word, which may be cut short. What is wrong with it is given as a text. -/
def Known.letterOf (k : Known) (word : Bytes) : Except Bytes Char :=
  match k.words.filter fun (known, _) => word.isPrefixOf (utf8 known) with
  | [] => .error (utf8 "unrecognized option '--" ++ word ++ [0x27])
  | [(_, letter)] => .ok letter
  | several =>
    match several.find? fun (known, _) => utf8 known = word with
    | some (_, letter) => .ok letter
    | none =>
      let names := several.flatMap fun (known, _) => utf8 (" '--" ++ known ++ "'")
      .error (utf8 "option '--" ++ word ++ utf8 "' is ambiguous; possibilities:" ++ names)

/-- Reads options and operands in any order, or what is wrong with the first option that is
not known. The fuel is the length of the arguments. -/
def Known.readWith (k : Known) : (fuel : Nat) → List Bytes → Except Bytes Request
  | 0, _ | _, [] => .ok {}
  | fuel + 1, arg :: args => do
    match arg with
    | [0x2D, 0x2D] => return { operands := args }
    | 0x2D :: 0x2D :: word =>
      let name := word.takeWhile (· != 0x3D)
      let letter ← k.letterOf name
      let value := word.drop (name.length + 1)
      if !k.taking.contains letter then
        if name.length < word.length then
          throw (utf8 "option '--" ++ name ++ utf8 "' doesn't allow an argument")
        return (← k.readWith fuel args).addOption letter []
      else if name.length < word.length then
        return (← k.readWith fuel args).addOption letter value
      else match args with
        | value :: args => return (← k.readWith fuel args).addOption letter value
        | [] => throw (utf8 "option '--" ++ name ++ utf8 "' requires an argument")
    | 0x2D :: letter :: letters =>
      let c := Char.ofUInt8 letter
      if k.taking.contains c then
        match letters, args with
        | _ :: _, _ => return (← k.readWith fuel args).addOption c letters
        | [], value :: args => return (← k.readWith fuel args).addOption c value
        | [], [] => throw (utf8 "option requires an argument -- '" ++ [letter, 0x27])
      else if k.letters.contains c then
        let args := if letters.isEmpty then args else (0x2D :: letters) :: args
        return (← k.readWith fuel args).addOption c []
      else throw (utf8 "invalid option -- '" ++ [letter, 0x27])
    | operand =>
      let r ← k.readWith fuel args
      return { r with operands := operand :: r.operands }

def Known.read (k : Known) (args : List Bytes) : Except Bytes Request :=
  k.readWith (total (·.length + 1) args + 1) args

/-- Ends with a complaint about how the tool was called. -/
def usage (text : Bytes) (process : Process) : Effect :=
  let p := (Progress.start process).complain text
  p.referToHelp.finish process

/-- Ends at once with a complaint. -/
def abandon (p : Progress) (text : Bytes) (process : Process) : Effect :=
  (p.complain text).finish process

/-- A tool that reads its options first. -/
def withRequest (k : Known) (process : Process) (body : Request → Effect) : Effect :=
  match k.read (process.argv.drop 1) with
  | .error text => usage text process
  | .ok r => body r

/-- A tool that works through at least one operand. -/
def overOperands (k : Known) (missing : String) (process : Process)
    (step : Request → Progress → Bytes → Progress) : Effect :=
  withRequest k process fun r =>
    if r.operands.isEmpty then usage (utf8 missing) process
    else (r.operands.foldl (step r) (Progress.start process)).finish process

/-- The permissions asked for in making a file. -/
def fileMode : Nat := 0o666

/-- The permissions asked for in making a directory. -/
def directoryMode : Nat := 0o777

/-- Permissions less those that are held back. -/
def unmasked (process : Process) (mode : Nat) : Nat := mode &&& (0o7777 - process.mask)

def succeed (code : Nat) : Program := fun process =>
  { files := process.files, status := .exited code }

end Tool

end TinyShell.Userland
