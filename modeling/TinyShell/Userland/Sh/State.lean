import TinyShell.Userland.Printf
import TinyShell.Userland.Sh.Cursor
import TinyShell.World

/-!
# The state of a script

`Frame` is what a subshell has a copy of, `State` adds what all share: the file tree, the
descriptors of the process and the channels opened so far. A step of a script is a `Script`;
one that stops the script says so by a `Stop`, and what it has changed stays changed.
-/

namespace TinyShell.Userland.Sh

/-- What a descriptor leads to. -/
inductive Handle where
  | input
  | output
  | errors
  | null
  | channel (index : Nat)
  deriving DecidableEq, Repr

/-- A file with a position in it, or bytes in memory that are read from the front. -/
inductive Channel where
  | file (i : Inode) (position : Nat) (append : Bool)
  | memory (bytes : Bytes)

structure Variable where
  /-- A variable without a value is not set, but can have marks. -/
  value : Option Bytes
  isExported : Bool := false
  isReadOnly : Bool := false

/-- What a subshell has a copy of. -/
structure Frame where
  /-- What `$0` stands for. -/
  name : Bytes
  arguments : List Bytes := []
  bindings : List (Bytes × Variable) := []
  functions : List (Bytes × Command) := []
  aliases : List (Bytes × Bytes) := []
  /-- The letters of the options that are on, the last one first. -/
  options : Bytes := []
  /-- The commands to run on signals, and on the end of the script as signal 0. -/
  traps : List (Nat × Bytes) := []
  cwd : Inode
  /-- The way by which the working directory was reached. -/
  place : Option Bytes
  descriptors : List (Nat × Handle)
  /-- What was read from the input and belongs to the script. -/
  buffer : Bytes := []
  status : Nat := 0
  /-- The status of the last command whose output was taken over, in one command. -/
  substituted : Nat := 0
  /-- The status before the trap that is running. -/
  interrupted : Option Nat := none
  mask : Nat := 0
  /-- The line of the command that is executed. -/
  line : Nat := 1
  /-- The line that is read next. -/
  lineAhead : Nat := 1
  /-- The command that complains, if the interpreter runs it itself. -/
  command : Option Bytes := none
  /-- The loops around the command, in its function. -/
  loops : Nat := 0
  /-- For each function around the command, the variables it made its own, as they were. -/
  scopes : List (List (Bytes × Option Variable)) := []
  /-- The argument that `getopts` reads next. -/
  optionIndex : Nat := 1
  /-- How many bytes of the argument before it `getopts` has read, unless that is done. -/
  optionOffset : Option Nat := none
  isSubshell : Bool := false
  lastJob : Option Nat := none

structure State where
  files : Files
  input : Input
  consumed : Nat := 0
  written : Array (Outlet × Bytes) := #[]
  outputFull : Bool
  channels : Array Channel := #[]
  /-- The signals that were ignored from the start. -/
  ignored : List Nat := []
  /-- The signals the script as a whole does not die of. -/
  handled : List Nat := []
  /-- The signals that came and wait for their traps. -/
  pending : List Nat := []
  /-- How the commands in the background ended, by their numbers. -/
  jobs : List (Nat × ExitStatus) := []
  frame : Frame

/-- What stops a script. -/
inductive Stop where
  | exit
  /-- By a program that took the place of the script, or of a subshell. -/
  | replaced (status : ExitStatus)
  /-- A mistake, of which it was told. -/
  | mistake
  | killed (signal : Nat)
  deriving DecidableEq, Repr

/-- What is to come after a command. -/
structure Purpose where
  /-- Its failure is looked at, and does not end the script. -/
  isTried : Bool := false
  /-- Nothing: a program may take the place of the script. -/
  isLast : Bool := false

/-- The same, but with something to come. -/
def Purpose.inside (p : Purpose) : Purpose := { p with isLast := false }

/-- How a command is left. -/
inductive Flow where
  | next
  | leave (loops : Nat)
  | again (loops : Nat)
  | back
  deriving DecidableEq, Repr

abbrev Script := ExceptT Stop (StateM State)

def blanks : Bytes := [0x20, 0x09, newline]

namespace Script

def frame : Script Frame := do return (← get).frame

def modifyFrame (f : Frame → Frame) : Script Unit := modify fun s => { s with frame := f s.frame }

def setStatus (status : Nat) : Script Unit := modifyFrame fun f => { f with status }

def hasOption (letter : Char) : Script Bool := do
  return (← frame).options.contains letter.val.toUInt8

def handle? (descriptor : Nat) : Script (Option Handle) := do
  return (← frame).descriptors.lookup descriptor

def setHandle (descriptor : Nat) (h : Option Handle) : Script Unit := modifyFrame fun f =>
  let others := f.descriptors.filter (·.1 ≠ descriptor)
  { f with descriptors := match h with
    | some h => (descriptor, h) :: others
    | none => others }

/-- Writes into a file at its position, filling a gap with NULs. -/
def splice (content : Bytes) (position : Nat) (bytes : Bytes) : Bytes :=
  content.take position ++ List.replicate (position - content.length) nul ++ bytes
    ++ content.drop (position + bytes.length)

/-- Writes on a descriptor, if it can take anything. -/
def put (descriptor : Nat) (bytes : Bytes) : Script Bool := do
  let s ← get
  match s.frame.descriptors.lookup descriptor with
  | some .output =>
    if s.outputFull && !bytes.isEmpty then return false
    set { s with written := s.written.push (.output, bytes) }
    return true
  | some .errors => set { s with written := s.written.push (.errors, bytes) }; return true
  | some .null => return true
  | some (.channel index) =>
    match s.channels[index]? with
    | some (.memory held) =>
      set { s with channels := s.channels.setIfInBounds index (.memory (held ++ bytes)) }
      return true
    | some (.file i position append) =>
      let content := s.files.content i
      let position := if append then content.length else position
      set { s with
        files := s.files.setContent i (splice content position bytes)
        channels := s.channels.setIfInBounds index (.file i (position + bytes.length) append) }
      return true
    | none => return false
  | some .input | none => return bytes.isEmpty

/-- What can be read on a descriptor. -/
def readable (descriptor : Nat) : Script Input := do
  let s ← get
  match s.frame.descriptors.lookup descriptor with
  | some .input => return s.input
  | some (.channel index) =>
    match s.channels[index]? with
    | some (.memory held) => return .bytes held
    | some (.file i position _) =>
      if (s.files.directory? i).isSome then return .directory
      return .bytes ((s.files.content i).drop position)
    | none => return .bytes []
  | _ => return .bytes []

/-- Takes bytes from a descriptor. -/
def consume (descriptor count : Nat) : Script Unit := modify fun s =>
  match s.frame.descriptors.lookup descriptor with
  | some .input =>
    { s with input := s.input.drop count, consumed := s.consumed + count }
  | some (.channel index) =>
    match s.channels[index]? with
    | some (.memory held) =>
      { s with channels := s.channels.setIfInBounds index (.memory (held.drop count)) }
    | some (.file i position append) =>
      { s with channels := s.channels.setIfInBounds index (.file i (position + count) append) }
    | none => s
  | _ => s

def addChannel (c : Channel) : Script Handle := do
  let s ← get
  set { s with channels := s.channels.push c }
  return .channel s.channels.size

def decimal (n : Nat) : Bytes := utf8 (toString n)

/-- Says something on the error output, with the place in the script. -/
def complain (text : Bytes) : Script Unit := do
  let f ← frame
  let command := match f.command with
    | some command => command ++ utf8 ": "
    | none => []
  let _ ← put 2 (f.name ++ utf8 ": " ++ decimal f.line ++ utf8 ": " ++ command ++ text ++ [newline])

/-- Ends in a mistake, with a complaint. -/
def fail {α : Type} (text : Bytes) : Script α := do
  complain text
  setStatus 2
  throw .mistake

/-! ## Variables -/

def variableOf? (name : Bytes) : Script (Option Variable) := do
  return (← frame).bindings.lookup name

def value? (name : Bytes) : Script (Option Bytes) := do
  return (← variableOf? name).bind (·.value)

/-- Puts a variable in the place of another of its name. -/
def putVariable (name : Bytes) (v : Option Variable) : Script Unit := modifyFrame fun f =>
  let others := f.bindings.filter (·.1 ≠ name)
  { f with bindings := match v with
    | some v => (name, v) :: others
    | none => others }

/-- Refuses to change a variable that is not to be changed. -/
def checkWritable (name : Bytes) : Script Unit := do
  if (← variableOf? name).any (·.isReadOnly) then fail (name ++ utf8 ": is read only")

def setVariable (name value : Bytes) : Script Unit := do
  checkWritable name
  let isExported := (← variableOf? name).any (·.isExported) || (← hasOption 'a')
  putVariable name (some { value := some value, isExported })
  if name = utf8 "OPTIND" then
    let index := if value.all Reader.isDigit then Printf.decimal value else 1
    modifyFrame fun f => { f with optionIndex := max index 1, optionOffset := none }

def unsetVariable (name : Bytes) : Script Unit := do
  checkWritable name
  putVariable name none

/-- Makes a mark at a variable, which need not be set. -/
def markVariable (name : Bytes) (mark : Variable → Variable) : Script Unit := do
  putVariable name (some (mark ((← variableOf? name).getD { value := none })))

/-- The name under which the options are kept. -/
def optionsName : Bytes := [0x2D]

/-- Keeps a variable, or the options, as they are, to give them back at the end of the
function. -/
def keep (name : Bytes) : Script Unit := do
  let f ← frame
  let v : Option Variable :=
    if name = optionsName then some { value := some f.options } else f.bindings.lookup name
  match f.scopes with
  | scope :: scopes =>
    if (scope.lookup name).isNone then
      modifyFrame fun f => { f with scopes := ((name, v) :: scope) :: scopes }
  | [] => return

/-- Gives back what was kept, the oldest last. -/
def giveBack (kept : List (Bytes × Option Variable)) : Script Unit := do
  for (name, v) in kept do
    if name = optionsName then
      modifyFrame fun f => { f with options := (v.bind (·.value)).getD [] }
    else putVariable name v

/-- Sets a variable whose name may be none, and marks it. -/
def declare (name : Bytes) (value : Option Bytes) (mark : Variable → Variable) : Script Unit := do
  let name := name.takeWhile (· != 0x3D)
  if !Reader.isName name then fail (name ++ utf8 ": bad variable name")
  if let some value := value then setVariable name value
  markVariable name mark

/-- The bytes at which values are divided. -/
def separators : Script Bytes := do return (← value? (utf8 "IFS")).getD blanks

/-- A text as the interpreter shows values: between quotes, and its own quotes between others.
The fuel is its length. -/
def shownWith : (fuel : Nat) → Bytes → Bytes
  | 0, _ => [0x27, 0x27]
  | fuel + 1, text =>
    let part := text.takeWhile (· != 0x27)
    let quotes := (text.drop part.length).takeWhile (· == 0x27)
    let rest := text.drop (part.length + quotes.length)
    0x27 :: part ++ [0x27] ++ (if quotes.isEmpty then [] else 0x22 :: quotes ++ [0x22]) ++
      if rest.isEmpty then [] else shownWith fuel rest

def shown (text : Bytes) : Bytes := shownWith (text.length + 1) text

end Script

end TinyShell.Userland.Sh
