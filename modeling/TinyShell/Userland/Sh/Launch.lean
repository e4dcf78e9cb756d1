import TinyShell.Launch.Exec
import TinyShell.Userland.Sh.State
import TinyShell.Userland.Signal

/-!
# Programs started by a script

`Script.locate` finds the program of a name, `Script.launch` runs one to its end. A file in
no known format is taken for a script.
-/

namespace TinyShell.Userland.Sh.Script

/-- The search path of a script that finds none in its environment. -/
def defaultPath : Bytes :=
  utf8 "/usr/local/sbin:/usr/local/bin:/usr/sbin:/usr/bin:/sbin:/bin"

/-- The search path, or nothing to search. -/
def searchPath : Script (Option Bytes) := value? (utf8 "PATH")

/-- The paths that a name may stand for. -/
def candidates (search : Option Bytes) (name : Bytes) : List Bytes :=
  match search with
  | some search => (Search.directories search).map fun directory =>
    if directory.isEmpty then name else directory ++ slash :: name
  | none => []

/-- Whether a path leads to a file that can be started, and if not, why. -/
def checkProgram (files : Files) (cwd : Inode) (path : Bytes) : Except Errno Unit := do
  let i ← files.find cwd path
  match files.node? i with
  | some (.file mode _) => if Permission.execute.isGranted mode then return () else throw .access
  | _ => throw .access

/-- The paths to try for a bare name, from the first that leads to a program. -/
def locate (search : Option Bytes) (name : Bytes) : Script (Except Errno (List Bytes)) := do
  let s ← get
  let check := checkProgram s.files s.frame.cwd
  let paths := candidates search name
  match paths.dropWhile fun path => !(check path).isOk with
  | [] =>
    let failures := paths.filterMap fun path => match check path with
      | .error .noEntry | .error .notDirectory | .ok () => none
      | .error e => some e
    return .error (failures.getLastD .noEntry)
  | found => return .ok found

/-- The path of the program of a name, if there is one. -/
def programPath? (search : Option Bytes) (name : Bytes) : Script (Option Bytes) := do
  if name.contains slash then
    let s ← get
    return if (s.files.find s.frame.cwd name).isOk then some name else none
  match ← locate search name with
  | .ok (path :: _) => return some path
  | _ => return none

/-- The world in which a script starts a program. -/
def world : Script World := do
  let s ← get
  let input ← readable 0
  let environment := s.frame.bindings.filterMap fun (name, v) =>
    if v.isExported then v.value.map fun value => (name, value) else none
  return { files := s.files, cwd := s.frame.cwd, environment, input }

def statusOf : ExitStatus → Nat
  | .exited code => code
  | .killed signal => 128 + signal

def isMissing (e : Errno) : Bool := e = .noEntry || e = .notDirectory

/-- Why a program cannot be started. -/
def noProgram (name : Bytes) (e : Errno) : Bytes :=
  name ++ utf8 (": " ++ if isMissing e then "not found" else e.text)

/-- Starts the first of the paths that can be started. -/
def startFirst (programs : Programs) (w : World) (argv : List Bytes) :
    (failure : Errno) → List Bytes → Except Errno Started
  | failure, [] => .error failure
  | failure, path :: paths =>
    let result := match Exec.start programs w path argv with
      | .error .execFormat =>
        let interpreter := utf8 "/bin/sh"
        Exec.start programs w interpreter (interpreter :: path :: argv.drop 1)
      | result => result
    match result with
    | .ok started => .ok started
    | .error e => startFirst programs w argv (if isMissing e then failure else e) paths

/-- Runs the program of a path to its end, and gives the status if it cannot be started. -/
def launch (programs : Programs) (paths : List Bytes) (argv : List Bytes) :
    Script (Except Nat ExitStatus) := do
  let w ← world
  match startFirst programs w argv .noEntry paths with
  | .error e =>
    complain (noProgram (argv.headD []) e)
    return .error (if isMissing e || e = .linkLoop || e = .nameTooLong then 127 else 126)
  | .ok started =>
    let s ← get
    let ignored := (s.frame.traps.filter (·.2.isEmpty)).map (·.1)
    let sink : Sink := match s.frame.descriptors.lookup 1 with
      | none | some .input => .closed
      | some .output => if s.outputFull then .full else .taken
      | some _ => .taken
    let isInputClosed := (s.frame.descriptors.lookup 0).isNone
    let effect := started.program
      { w.process started.argv with
        sink
        isInputClosed
        mask := s.frame.mask
        ignored := s.ignored ++ ignored }
    modify fun s => { s with files := effect.files }
    consume 0 effect.consumed
    for (outlet, bytes) in effect.written do
      let _ ← put (match outlet with
        | .output => 1
        | .errors => 2) bytes
    return .ok effect.status

/-- Says what ended a program, if it was a signal. -/
def report (status : ExitStatus) : Script Unit := do
  if let .killed n := status then
    if let some text := Signal.obituary n then
      let _ ← put 2 (utf8 text ++ [newline])

end TinyShell.Userland.Sh.Script
