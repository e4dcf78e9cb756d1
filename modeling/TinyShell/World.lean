import TinyShell.Files.Change
import TinyShell.Outcome

/-!
# The world of a shell

`World` is what a shell shares with the programs it starts: the file tree, the working
directory, the environment and the descriptors 0, 1 and 2; and whether it learns how they
end. What programs do is a parameter: `Programs` gives, for the content of an executable
file, the `Program` it holds, and a program turns the `Process` it is given into an
`Effect`. It may change the file tree and write, but of descriptor 0 it can only take bytes
away, and the working directory of the shell is out of its reach.
-/

namespace TinyShell

/-- What is left to read on descriptor 0. -/
inductive Input where
  | bytes (rest : Bytes)
  | directory
  deriving DecidableEq, Repr

namespace Input

def rest : Input → Bytes
  | bytes rest => rest
  | directory => []

def drop (count : Nat) : Input → Input
  | bytes rest => bytes (rest.drop count)
  | directory => directory

@[simp] theorem drop_zero (input : Input) : input.drop 0 = input := by
  cases input <;> rfl

end Input

/-- Names with their values, each name once. -/
abbrev Environment := List (Bytes × Bytes)

namespace Environment

/-- The form in which a program is handed its environment. -/
def strings (e : Environment) : List Bytes := e.map fun (name, value) => name ++ 0x3D :: value

/-- The value of `PATH`, if it is set. -/
def searchPath (e : Environment) : Option Bytes := e.lookup (utf8 "PATH")

end Environment

structure World where
  files : Files
  cwd : Inode
  environment : Environment
  input : Input := .bytes []
  output : Bytes := []
  errors : Bytes := []
  /-- Descriptor 1 takes no bytes. -/
  outputFull : Bool := false
  /-- Why waiting for a program fails, if it does. -/
  waitFailure : Option Errno := none
  deriving DecidableEq, Repr

/-- What becomes of bytes that are written on descriptor 1. -/
inductive Sink where
  | taken
  | full
  | closed
  deriving DecidableEq, Repr

/-- Why writing fails, if it does. -/
def Sink.refusal : Sink → Option Errno
  | taken => none
  | full => some .noSpace
  | closed => some .badDescriptor

/-- What a program is started with. -/
structure Process where
  argv : List Bytes
  files : Files
  cwd : Inode
  environment : Environment
  input : Input
  sink : Sink
  /-- Descriptor 0 is closed. -/
  isInputClosed : Bool := false
  /-- The permissions that new files are not given. -/
  mask : Nat := 0
  /-- The signals that have no effect on it. -/
  ignored : List Nat := []

/-- Where a program writes. -/
inductive Outlet where
  | output
  | errors
  deriving DecidableEq, Repr

structure Effect where
  files : Files
  /-- How many bytes of descriptor 0 it took. -/
  consumed : Nat := 0
  /-- What it wrote, in order. -/
  written : List (Outlet × Bytes) := []
  status : ExitStatus

abbrev Program := Process → Effect

abbrev Programs := (image : Bytes) → Option Program

namespace World

/-- The search path used when `PATH` is not set. -/
def defaultSearchPath : Bytes := utf8 "/bin:/usr/bin"

def effectiveSearchPath (w : World) : Bytes :=
  w.environment.searchPath.getD defaultSearchPath

def putOutput (w : World) (bytes : Bytes) : World :=
  if w.outputFull then w else { w with output := w.output ++ bytes }

def putErrors (w : World) (bytes : Bytes) : World := { w with errors := w.errors ++ bytes }

/-- The path of the working directory, unless it was removed. -/
def workingDirectory (w : World) : Option Bytes := w.files.pathOf w.cwd

def process (w : World) (argv : List Bytes) : Process where
  argv := argv
  files := w.files
  cwd := w.cwd
  environment := w.environment
  input := w.input
  sink := if w.outputFull then .full else .taken

def write (w : World) : Outlet × Bytes → World
  | (.output, bytes) => w.putOutput bytes
  | (.errors, bytes) => w.putErrors bytes

/-- The world after a program has ended. -/
def apply (w : World) (e : Effect) : World :=
  e.written.foldl write { w with files := e.files, input := w.input.drop e.consumed }

end World

end TinyShell
