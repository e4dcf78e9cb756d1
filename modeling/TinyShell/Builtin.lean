import TinyShell.Outcome
import TinyShell.Trace.Event
import TinyShell.World
import TinyShell.Writer

/-!
# Built-in commands

The seven commands the shell runs itself. They write to the writer they are given; only
`mkdir` changes the file tree and only `cd` the working directory. What they can complain
of is a `Complaint`, told as a chain of texts, outermost first.
-/

namespace TinyShell

inductive Builtin where
  | echo
  | pwd
  | ls
  | mkdir
  | cd
  | help
  | exit
  deriving DecidableEq, Repr

inductive Complaint where
  | missingArgument (command : String)
  | write (cause : IoError)
  | workingDirectory (cause : IoError)
  | listing (cause : IoError)
  | makeDirectory (path : Bytes) (cause : IoError)
  | changeDirectory (target : Bytes) (cause : IoError)
  deriving DecidableEq, Repr

namespace Complaint

def chain : Complaint → List String
  | missingArgument command => ["expected argument to \"" ++ command ++ "\""]
  | write cause => [cause.message]
  | workingDirectory cause => ["pwd", cause.message]
  | listing cause => ["ls: couldn't open the directory", cause.message]
  | makeDirectory path cause => ["mkdir: " ++ Utf8.lossy path, cause.message]
  | changeDirectory target cause => ["cd: " ++ Utf8.lossy target, cause.message]

def message (c : Complaint) : String := ": ".intercalate c.chain

end Complaint

namespace Builtin

/-- In the order in which `help` lists them. -/
def all : List Builtin := [echo, pwd, ls, mkdir, cd, help, exit]

def name : Builtin → String
  | echo => "echo"
  | pwd => "pwd"
  | ls => "ls"
  | mkdir => "mkdir"
  | cd => "cd"
  | help => "help"
  | exit => "exit"

/-- The built-in command of exactly this name. -/
def find? (name : Bytes) : Option Builtin := all.find? fun b => utf8 b.name = name

/-- The mode of the directories that `mkdir` makes. -/
def directoryMode : Nat := 0o755

/-- What a built-in command leaves behind. -/
structure Result where
  outcome : Except Complaint Continuation
  events : List Event := []
  world : World
  out : Writer

/-- Writes the pieces, and goes on with the session. -/
def print (w : World) (out : Writer) (pieces : List Bytes) : Result :=
  let (written, out) := out.writeAll pieces
  { outcome := (written.map fun _ => .continue).mapError .write, world := w, out }

def complain (w : World) (out : Writer) (c : Complaint) : Result :=
  { outcome := .error c, world := w, out }

def lineOf (text : String) : Bytes := utf8 (text ++ "\n")

/-- The arguments, a space between each two. -/
def joined (args : List Bytes) : Bytes := [0x20].intercalate args

def makeDirectory (w : World) (path : Bytes) : Except IoError World :=
  if path.contains nul then .error .nulInPath
  else match w.files.makeDirectory w.cwd path directoryMode with
    | .ok files => .ok { w with files }
    | .error e => .error (.os e)

def changeDirectory (w : World) (target : Bytes) : Except IoError World :=
  if target.contains nul then .error .nulInPath
  else match w.files.enter w.cwd target with
    | .ok i => .ok { w with cwd := i }
    | .error e => .error (.os e)

/-- Applies a command that needs an argument. -/
def withArgument (b : Builtin) (argv : List Bytes) (w : World) (out : Writer)
    (run : Bytes → Result) : Result :=
  match argv with
  | _ :: argument :: _ => run argument
  | _ => complain w out (.missingArgument b.name)

/-- The entries of a directory, with the two that every directory has. -/
def listing (d : Directory) : List Bytes :=
  [lineOf ".", lineOf ".."] ++
    d.entries.flatMap fun (name, _) => [utf8 (Utf8.lossy name), [newline]]

def helpText : List Bytes :=
  [lineOf (shellName ++ ", a minimal command interpreter"),
    lineOf "Type program names and arguments, and hit enter.",
    lineOf "The following are built in:"] ++
  all.flatMap (fun b => [utf8 "  ", utf8 b.name, [newline]]) ++
  [lineOf "Use the man command for information on other programs."]

def execute (b : Builtin) (argv : List Bytes) (w : World) (out : Writer) : Result :=
  match b with
  | echo => print w out [joined (argv.drop 1), [newline]]
  | pwd =>
    match w.workingDirectory with
    | some path =>
      print w out [utf8 "Current working dir: ", utf8 (Utf8.lossy path), [newline]]
    | none => complain w out (.workingDirectory (.os .noEntry))
  | ls =>
    match w.files.list w.cwd with
    | .ok d => print w out (listing d)
    | .error e => complain w out (.listing (.os e))
  | mkdir => b.withArgument argv w out fun path =>
    match makeDirectory w path with
    | .ok world =>
      { outcome := .ok .continue, events := [.createdDirectory path], world, out }
    | .error e => complain w out (.makeDirectory path e)
  | cd => b.withArgument argv w out fun target =>
    match changeDirectory w target with
    | .ok world =>
      { outcome := .ok .continue, events := [.changedDirectory target], world, out }
    | .error e => complain w out (.changeDirectory target e)
  | help => print w out helpText
  | exit => { outcome := .ok .terminate, world := w, out }

/-- No built-in command reads descriptor 0. -/
theorem input_execute (b : Builtin) (argv : List Bytes) (w : World) (out : Writer) :
    (b.execute argv w out).world.input = w.input := by
  cases b
  case mkdir =>
    simp only [execute, withArgument]
    split
    · simp only [makeDirectory]
      repeat' split
      all_goals simp_all [complain]
      all_goals grind
    · rfl
  case cd =>
    simp only [execute, withArgument]
    split
    · simp only [changeDirectory]
      repeat' split
      all_goals simp_all [complain]
      all_goals grind
    · rfl
  all_goals simp only [execute, print, complain]
  all_goals split <;> rfl

end Builtin

end TinyShell
