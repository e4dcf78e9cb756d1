import TinyShell.Userland.Sh.Arguments
import TinyShell.Userland.Signal

/-!
# Signals in a script

A script may set a trap for a signal: commands to run when it comes, or nothing to ignore
it. Signal 0 stands for the end of the script. `Script.send` gives the script a signal,
`Script.nextTrap` takes the commands that wait.
-/

namespace TinyShell.Userland.Sh.Script

/-- A signal by its number, or its name. -/
def signal? (text : Bytes) : Option Nat :=
  if text.map Signal.toUpper = utf8 "EXIT" then some 0 else Signal.parse? text

def signalName (n : Nat) : Bytes := utf8 (if n = 0 then "EXIT" else Signal.name n)

/-- Sets the trap of a signal, or takes it away. -/
def setTrap (n : Nat) (action : Option Bytes) : Script Unit := modify fun s =>
  let f := s.frame
  let others := f.traps.filter (·.1 ≠ n)
  let f := { f with traps := match action with
    | some action => (n, action) :: others
    | none => others }
  if f.isSubshell || n = 0 then { s with frame := f }
  else
    let handled := s.handled.filter (· ≠ n)
    { s with frame := f, handled := if action.isSome then n :: handled else handled }

def showTraps : Script Nat := do
  let traps := (← frame).traps.mergeSort fun a b => a.1 ≤ b.1
  print (traps.flatMap fun (n, action) =>
    line (utf8 "trap -- " ++ shown action ++ [0x20] ++ signalName n))

def setTraps (action : Option Bytes) : List Bytes → Script Nat
  | [] => return 0
  | name :: names => do
    match signal? name with
    | none =>
      let _ ← put 2 (line (utf8 "trap: " ++ name ++ utf8 ": bad trap"))
      return 1
    | some n =>
      setTrap n action
      setTraps action names

def trap (args : List Bytes) : Script Nat := do
  match ← operands args with
  | [] => showTraps
  | action :: names =>
    if names.isEmpty || (Signal.parse? action).isSome && action.all Signal.isDigit then
      setTraps none (action :: names)
    else setTraps (if action = [0x2D] then none else some action) names

/-- Lets a signal come to the script: what it does not handle may end it at once. -/
def send (n : Nat) : Script Unit := do
  let s ← get
  if Signal.isAbsolute n && !Signal.isHarmless n then throw (.killed n)
  else if s.ignored.contains n then return
  else if s.handled.contains n then
    if !s.pending.contains n then set { s with pending := s.pending ++ [n] }
  else if !Signal.isHarmless n then throw (.killed n)

/-- The commands of the trap that is to be run next, if there is one. -/
def nextTrap : Script (Option Bytes) := do
  let s ← get
  if s.frame.isSubshell then return none
  match s.pending.mergeSort (· ≤ ·) with
  | [] => return none
  | n :: pending =>
    set { s with pending }
    return (s.frame.traps.lookup n).filter (!·.isEmpty)

/-- The number that `$$` gives. -/
def processNumber : Nat := 4242

def usage : String :=
  "Usage: kill [-s sigspec | -signum | -sigspec] [pid | job]... or\nkill -l [exitstatus]"

/-- Lists the names of signals, or one, which may be given as a status. -/
def listSignals : List Bytes → Script Nat
  | [] => print ((0 :: List.range' 1 Signal.last).flatMap fun n =>
      line (utf8 (if n = 0 then "0" else Signal.name n)))
  | text :: _ => do
    let n ← number text
    let n := if 128 < n then n - 128 else n
    if 0 < n && n ≤ Signal.last then print (line (utf8 (Signal.name n)))
    else fail (utf8 "invalid signal number or exit status: " ++ text)

/-- Sends a signal to processes. Only the script itself has a number that is known. -/
def sendAll (n : Nat) : List Bytes → Script Nat
  | [] => return 0
  | target :: targets => do
    if target.head? = some 0x25 then fail (utf8 "No such job: " ++ target)
    let (isGroup, digits) := match target with
      | 0x2D :: digits => (true, digits)
      | digits => (false, digits)
    let process ← number digits
    if process = processNumber && !isGroup then
      send n
      sendAll n targets
    else
      complain (utf8 "No such process\n")
      return (← sendAll n targets) ||| 1

/-- What the options of `kill` ask for: to list, or a signal. -/
def killOptions (found : List (UInt8 × Bytes)) : Script (Bool × Option Nat) := do
  found.foldlM (fun (isList, n) (letter, value) => do
    if letter = 0x6C then return (true, n)
    match Signal.parse? value with
    | some n => return (isList, some n)
    | none => fail (utf8 "invalid signal number or name: " ++ value))
    ((false, none) : Bool × Option Nat)

def kill (args : List Bytes) : Script Nat := do
  if args.isEmpty then fail (utf8 usage)
  let (isList, n, targets) ← match args with
    | (0x2D :: name) :: rest =>
      match Signal.parse? name with
      | some n => pure (false, some n, rest)
      | none => do
        let (found, rest) ← options "l" args "s"
        let (isList, n) ← killOptions found
        pure (isList, n, rest)
    | rest => pure (false, none, rest)
  if isList then
    if n.isSome then fail (utf8 usage)
    listSignals targets
  else if targets.isEmpty then fail (utf8 usage)
  else sendAll (n.getD 15) targets

end TinyShell.Userland.Sh.Script
