import TinyShell.CommandLine.Options
import TinyShell.Session
import TinyShell.Trace.Filter

/-!
# The command line

`CommandLine.run` is the whole program: it reads its options, sets up the log, runs a
session on descriptor 0 and gives the exit code. At a terminal lines come from the editor,
unless the options ask for a plain stream.
-/

namespace TinyShell

/-- What the program is started with. -/
structure CommandLine where
  arguments : List Bytes
  /-- The filter used unless the options give one. -/
  defaultFilter : Option String := none
  /-- Descriptor 0 is a terminal on which these characters are typed. -/
  typed : Option (List Char) := none
  world : World

/-- How the program ends. -/
structure Report where
  code : Nat
  world : World
  /-- The editor was in use, and drew on descriptor 1. -/
  edited : Bool := false

namespace CommandLine

def success : Nat := 0

def failure : Nat := 1

/-- The most that is read at a time. -/
def block : Nat := 8192

/-- The filter of the log, and what there is to say of the text it was read from. A default
that is no filter counts as none. -/
def filter (options : Options) (default : Option String) : Filter × List String :=
  match options.log with
  | some text =>
    let (f, leftOut) := Filter.parseLenient text
    (f, leftOut.map fun (part, e) => "ignoring `" ++ part ++ "`: " ++ e.message ++ "\n")
  | none => ((default.bind Filter.parse?).getD {}, [])

def log (f : Filter) (e : Event) : Bytes := if f.admits e then utf8 (e.line ++ "\n") else []

/-- Where lines come from: the editor at a terminal, else descriptor 0. -/
def source (options : Options) (typed : Option (List Char)) : Source :=
  match options.plain, typed with
  | false, some text => .editor { keyboard := .terminal (Keyboard.typed text) }
  | _, _ => .stream { feed := .descriptor block }

def outputPolicy (w : World) : Policy := if w.outputFull then .stuckDevice else .reliable

def refuse (w : World) : Refusal → Report
  | .help => { code := success, world := w.putOutput (utf8 (Options.helpText)) }
  | .error e => { code := failure, world := w.putErrors (utf8 e.report) }

/-- The end of a session: its shutdown is recorded, its error is reported. -/
def close (result : Except ShellError Shutdown) (sh : Shell) : Nat × World :=
  let sh := match result with
    | .ok shutdown => sh.emit (.finished shutdown)
    | .error e =>
      { sh with world := sh.world.putErrors (utf8 (shellName ++ ": " ++ e.message ++ "\n")) }
  (match result with
    | .ok _ => success
    | .error _ => failure,
   sh.settle.world)

def run (programs : Programs) (c : CommandLine) : Report :=
  match Options.parse c.arguments with
  | .error refusal => refuse c.world refusal
  | .ok options =>
    let (f, notes) := filter options c.defaultFilter
    let world := notes.foldl (fun w note => w.putErrors (utf8 note)) c.world
    let source := source options c.typed
    let sh : Shell := { world, out := { policy := outputPolicy world }, log := log f }
    let (result, _, sh) := sh.run programs options.prompt source
    let (code, world) := close result sh
    { code, world, edited := !source.isPrompted }

end CommandLine

end TinyShell
