import TinyShell.Userland.Mode
import TinyShell.Userland.Quoted
import TinyShell.Userland.Sh.Directory
import TinyShell.Userland.Sh.Launch
import TinyShell.Userland.Sh.Reader
import TinyShell.Userland.Sh.Test
import TinyShell.Userland.Sh.Trap
import TinyShell.Userland.Sh.Variables

/-!
# The commands of the interpreter

`Script.builtin?` gives what a command does that the interpreter runs itself. The commands
that change the course of a script are not among them.
-/

namespace TinyShell.Userland.Sh.Script

/-! ## Printing and testing -/

def echo (args : List Bytes) : Script Nat :=
  let (isBare, args) := match args with
    | [0x2D, 0x6E] :: args => (true, args)
    | args => (false, args)
  let text := Escape.expand { zeroFirst := true, extended := false } ([0x20].intercalate args)
  print (text.bytes ++ if isBare || text.stopped then [] else [newline])

/-- How the command `printf` prints. -/
def printing : Printf.Rules where
  extended := false
  format := Floating.double
  quote := id
  quoteIfNeeded := id

def printf (args : List Bytes) : Script Nat := do
  match ← operands args with
  | [] => fail (utf8 "usage: printf format [arg ...]")
  | format :: args =>
    let printed := Printf.run printing format args
    for text in printed.complaints do complain text
    let status ← print printed.output (if printed.failed then 1 else 0)
    return if printed.isInvalid then 2 else status

def test (isBracket : Bool) (args : List Bytes) : Script Nat := do
  if isBracket && args.getLast? ≠ some (utf8 "]") then fail (utf8 "missing ]")
  let s ← get
  match Test.run s.files s.frame.cwd (if isBracket then args.dropLast else args) with
  | .ok holds => return if holds then 0 else 1
  | .error text => fail text

/-! ## Permissions and limits -/

def umask (args : List Bytes) : Script Nat := do
  let (found, rest) ← options "S" args
  let mask := (← frame).mask
  match rest with
  | [] =>
    print (line (if found.isEmpty then Mode.octal mask else Mode.symbolic (0o777 - mask)))
  | text :: _ =>
    let isNumber := text.head?.any Reader.isDigit
    match if isNumber then Mode.octal? text
      else (Mode.applyClauses mask text (0o777 - mask)).map (0o777 - · % 512) with
    | some mask => modifyFrame fun f => { f with mask := mask % 512 }; return 0
    | none => fail (utf8 (if isNumber then "Illegal number: " else "Illegal mode: ") ++ text)

/-- No limits are known. -/
def ulimit (args : List Bytes) : Script Nat := do
  let (_, rest) ← options "HSatfdscmlpnvwr" args
  if rest.isEmpty then print (line (utf8 "unlimited")) else return 0

def times (_ : List Bytes) : Script Nat :=
  let row := line (utf8 "0m0.000000s 0m0.000000s")
  print (row ++ row)

/-! ## Commands in the background -/

/-- Forgets which commands in the background were ended by signals: it is told once. -/
def settle (holds : Nat → Bool) : Script Unit := modify fun s =>
  { s with jobs := s.jobs.map fun (n, ended) =>
      (n, if holds n then .exited (statusOf ended) else ended) }

/-- Every command in the background has ended by the time it is waited for. -/
def wait (args : List Bytes) : Script Nat := do
  let mut status := 0
  let awaited ← operands args
  if awaited.isEmpty then settle fun _ => true
  for text in awaited do
    if text.head? = some 0x25 then fail (utf8 "No such job: " ++ text)
    let n ← number text
    match (← get).jobs.lookup n with
    | none => status := 127
    | some ended =>
      status := statusOf ended
      report ended
      settle (· = n)
  return status

def jobs (args : List Bytes) : Script Nat := do
  let _ ← options "lp" args
  return 0

def noJob (args : List Bytes) : Script Nat := do
  match ← operands args with
  | [] => fail (utf8 "No current job")
  | text :: _ => fail (utf8 "No such job: " ++ text)

/-! ## Names of commands -/

/-- An alias as it is defined. -/
def aliasText (name text : Bytes) : Bytes := line (name ++ 0x3D :: shown text)

def aliases (args : List Bytes) : Script Nat := do
  if args.isEmpty then
    return ← print ((← frame).aliases.reverse.flatMap fun (name, text) => aliasText name text)
  let mut status := 0
  for argument in args do
    match assignmentOf argument with
    | (name, some text) =>
      modifyFrame fun f => { f with aliases := (name, text) :: f.aliases.filter (·.1 ≠ name) }
    | (name, none) =>
      match (← frame).aliases.lookup name with
      | some text => status := status ||| (← print (aliasText name text))
      | none =>
        let _ ← put 2 (line (utf8 "alias: " ++ name ++ utf8 " not found"))
        status := 1
  return status

def unalias (args : List Bytes) : Script Nat := do
  let (found, names) ← options "a" args
  if !found.isEmpty then
    modifyFrame fun f => { f with aliases := [] }
    return 0
  let mut status := 0
  for name in names do
    if ((← frame).aliases.lookup name).isSome then
      modifyFrame fun f => { f with aliases := f.aliases.filter (·.1 ≠ name) }
    else
      let _ ← put 2 (line (utf8 "unalias: " ++ name ++ utf8 " not found"))
      status := 1
  return status

def hash (args : List Bytes) : Script Nat := do
  let (_, names) ← options "rv" args
  let mut status := 0
  for name in names do
    if !name.contains slash then
      match ← locate (← searchPath) name with
      | .ok _ => pure ()
      | .error e =>
        complain (noProgram name e)
        status := 1
  return status

/-- The commands of the interpreter that change the course of a script. -/
def steering : List Bytes :=
  [".", "break", "command", "continue", "eval", "exec", "exit", "return"].map utf8

def table : List (String × (List Bytes → Script Nat)) :=
  [(":", fun _ => return 0), ("[", test true), ("alias", aliases), ("bg", noJob),
    ("cd", changeDirectory), ("chdir", changeDirectory), ("echo", echo),
    ("export", exportVariables), ("false", fun _ => return 1), ("fg", noJob),
    ("getopts", getopts), ("hash", hash), ("jobs", jobs), ("kill", kill),
    ("local", localize), ("printf", printf), ("pwd", printDirectory), ("read", read),
    ("readonly", protectVariables), ("set", setParameters), ("shift", shift), ("test", test false),
    ("times", times), ("trap", trap), ("true", fun _ => return 0), ("ulimit", ulimit),
    ("umask", umask), ("unalias", unalias), ("unset", unset), ("wait", wait)]

/-- What a command does that the interpreter runs itself. -/
def tabled? (name : Bytes) : Option (List Bytes → Script Nat) :=
  (table.find? fun (known, _) => utf8 known = name).map (·.2)

def isBuiltin (name : Bytes) : Bool :=
  (tabled? name).isSome || name = utf8 "type" || steering.contains name

def isSpecial (name : Bytes) : Bool := Reader.special.contains name

/-- The commands whose arguments may be assignments. -/
def isDeclaring (name : Bytes) : Bool :=
  (["alias", "export", "local", "readonly"].map utf8).contains name

/-- Says what a name stands for as a command, in words or as it would be written. -/
def describe (isWordy : Bool) (search : Option Bytes) (name : Bytes) : Script Nat := do
  let say (words : String) : Script Nat :=
    print (line (if isWordy then name ++ utf8 words else name))
  let f ← frame
  if Reader.reserved.contains name then say " is a shell keyword"
  else match f.aliases.lookup name with
    | some text =>
      if isWordy then print (line (name ++ utf8 " is an alias for " ++ text))
      else print (utf8 "alias " ++ aliasText name text)
    | none =>
      if (f.functions.lookup name).isSome then say " is a shell function"
      else if isBuiltin name then
        say (if isSpecial name then " is a special shell builtin" else " is a shell builtin")
      else match ← programPath? search name with
        | some path =>
          if isWordy then print (line (name ++ utf8 " is " ++ path)) else print (line path)
        | none => if isWordy then print (line (name ++ utf8 ": not found")) 127 else return 127

def type (args : List Bytes) : Script Nat := do
  let mut status := 0
  for name in args do status := status ||| (← describe true (← searchPath) name)
  return status

def builtin? (name : Bytes) : Option (List Bytes → Script Nat) :=
  if name = utf8 "type" then some type else tabled? name

end TinyShell.Userland.Sh.Script
