import TinyShell.Launch.Header
import TinyShell.Launch.Search
import TinyShell.World

/-!
# Starting a program

`Exec.start` is what the kernel makes of a path and arguments: the program in the file, or
that of the interpreter a script names. `Exec.spawn` starts a path with a `/` directly and
looks for any other in the directories of `PATH`.
-/

namespace TinyShell

/-- A program that was accepted: the file it was started from, and its arguments. -/
structure Started where
  file : Inode
  program : Program
  argv : List Bytes

namespace Exec

/-- One argument is shorter than this, and so is one variable of the environment. -/
def argumentMax : Nat := 131072

/-- All of them together, with the bytes that end them and the pointers to them, are
smaller than this. -/
def argumentsMax : Nat := 2097152

/-- The most scripts that may stand for each other's interpreter. -/
def depthMax : Nat := 6

/-- Whether there is room for arguments and environment, given as strings. -/
def fits (strings : List Bytes) : Bool :=
  strings.all (·.length < argumentMax) && total (·.length + 9) strings < argumentsMax

/-- The content of a file that may be executed. -/
def openImage (files : Files) (cwd : Inode) (path : Bytes) : Except Errno (Inode × Bytes) := do
  let i ← files.find cwd path
  match files.node? i with
  | some (.file mode content) =>
    if Permission.execute.isGranted mode then return (i, content) else throw .access
  | _ => throw .access

/-- The image of an interpreter. No name at all leads to the working directory, which is no
program. -/
def openInterpreter (files : Files) (cwd : Inode) (path : Bytes) : Except Errno Bytes :=
  if path.isEmpty then .error .access else (openImage files cwd path).map (·.2)

variable (programs : Programs)

/-- The program an image stands for. A script is read by its interpreter, which is given
the path of the script in place of its first argument. -/
def interpret (files : Files) (cwd : Inode) : (depth : Nat) → (image path : Bytes) →
    List Bytes → Except Errno (Program × List Bytes)
  | 0, _, _, _ => .error .linkLoop
  | depth + 1, image, path, argv =>
    match Header.parse? image with
    | some ⟨interpreter, argument⟩ => do
      let image ← openInterpreter files cwd interpreter
      interpret files cwd depth image interpreter
        (interpreter :: argument.toList ++ path :: argv.drop 1)
    | none =>
      match programs image with
      | some program => .ok (program, argv)
      | none => .error .execFormat

def start (w : World) (path : Bytes) (argv : List Bytes) : Except Errno Started := do
  let (file, image) ← openImage w.files w.cwd path
  if !fits (argv ++ w.environment.strings) then throw .argumentsTooLong
  let (program, argv) ← interpret programs w.files w.cwd depthMax image path argv
  return { file, program, argv }

/-- Starts the first of the paths that can be started. A path that leads nowhere, or to no
program, is passed over, and the latter is the failure to report. -/
def startFirst (w : World) (argv : List Bytes) : (failure : Errno) → List Bytes →
    Except Errno Started
  | failure, [] => .error failure
  | failure, path :: paths =>
    match start programs w path argv with
    | .error .access => startFirst w argv .access paths
    | .error .noEntry => startFirst w argv (if failure = .access then .access else .noEntry) paths
    | .error .notDirectory =>
      startFirst w argv (if failure = .access then .access else .notDirectory) paths
    | result => result

/-- The longest directory of a search path that is used as it is. -/
def directoryMax : Nat := 4095

/-- The directories in which a bare name is looked for. One that is too long counts as
empty, or not at all if it is the last. -/
def searched (search : Bytes) : List Bytes :=
  let all := Search.directories search
  let isLong (directory : Bytes) : Bool := directoryMax < directory.length
  let all := if all.getLast?.any isLong then all.dropLast else all
  all.map fun directory => if isLong directory then [] else directory

/-- The paths tried for a bare name, where an empty directory leaves the bare name. -/
def attempts (search name : Bytes) : List Bytes :=
  (searched search).map fun directory =>
    if directory.isEmpty then name else directory ++ slash :: name

def spawn (w : World) (path : Bytes) (argv : List Bytes) : Except IoError Started :=
  if (path :: argv).any (·.contains nul) then .error .nulInArgument
  else
    let result :=
      if path.contains slash then start programs w path argv
      else startFirst programs w argv .noEntry (attempts w.effectiveSearchPath path)
    result.mapError .os

end Exec

end TinyShell
