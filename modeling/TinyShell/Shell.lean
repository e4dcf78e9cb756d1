import TinyShell.Builtin
import TinyShell.Launch.Command
import TinyShell.Line.Source
import TinyShell.Token

/-!
# The shell

A `Shell` is a world, the two writers through which the shell speaks, and the record of
what happened. `Shell.execute` runs one row of tokens: failures of a command are reported
on the error stream, and only a failure of the shell's own streams is an error.
`Shell.run` reads lines and executes them until `exit`, the end of input or such an error.
-/

namespace TinyShell

/-- The prompt shown unless another is chosen. -/
def defaultPrompt : String := "> "

/-- A program that was started and has ended. -/
structure Child where
  file : Inode
  argv : List Bytes
  cwd : Inode
  status : ExitStatus
  /-- What the shell had yet to hand on to descriptor 1 when it started. -/
  heldOutput : Bytes
  /-- What the shell had yet to hand on to descriptor 2 when it started. -/
  heldErrors : Bytes
  deriving DecidableEq, Repr

structure Shell where
  world : World
  out : Writer := { policy := .reliable }
  err : Writer := { policy := .reliable }
  /-- Oldest first. -/
  trace : List Event := []
  /-- Oldest first. -/
  children : List Child := []
  /-- What an event adds to descriptor 2. -/
  log : Event → Bytes := fun _ => []

namespace Shell

def emit (sh : Shell) (e : Event) : Shell :=
  { sh with trace := sh.trace ++ [e], world := sh.world.putErrors (sh.log e) }

def emitAll (sh : Shell) (events : List Event) : Shell := events.foldl emit sh

def flushOut (sh : Shell) : Except IoError Unit × Shell :=
  match sh.out.flush with
  | (.ok bytes, out) => (.ok (), { sh with out, world := sh.world.putOutput bytes })
  | (.error e, out) => (.error e, { sh with out })

def flushErr (sh : Shell) : Except IoError Unit × Shell :=
  match sh.err.flush with
  | (.ok bytes, err) => (.ok (), { sh with err, world := sh.world.putErrors bytes })
  | (.error e, err) => (.error e, { sh with err })

/-- Hands on what both writers still hold. -/
def settle (sh : Shell) : Shell :=
  let (output, out) := sh.out.drain
  let (errors, err) := sh.err.drain
  { sh with out, err, world := (sh.world.putOutput output).putErrors errors }

/-- The line that reports a failure, in the pieces in which it is written. -/
def diagnosticPieces (text : String) : List Bytes :=
  [utf8 shellName, utf8 ": ", utf8 text, [newline]]

/-- Writes a diagnostic and flushes it. -/
def report (sh : Shell) (text : String) : Except IoError Unit × Shell :=
  match sh.err.writeAll (diagnosticPieces text) with
  | (.ok (), err) => { sh with err }.flushErr
  | (.error e, err) => (.error e, { sh with err })

/-- Reports the failure of a command, after which the session goes on. -/
def carryOn (sh : Shell) (text : String) : Except ShellError Continuation × Shell :=
  match sh.report text with
  | (.ok (), sh) => (.ok .continue, sh)
  | (.error e, sh) => (.error (.io e), sh)

def runBuiltin (sh : Shell) (b : Builtin) (argv : List Bytes) :
    Except ShellError Continuation × Shell :=
  let result := b.execute argv sh.world sh.out
  let sh := { sh with world := result.world, out := result.out }.emitAll result.events
  match result.outcome with
  | .ok continuation => (.ok continuation, sh)
  | .error complaint => sh.carryOn complaint.message

variable (programs : Programs)

/-- Runs a program that was started to its end. -/
def host (sh : Shell) (command : Command) (started : Started) : ExitStatus × Shell :=
  let sh := sh.emit (.spawned command.program)
  let effect := started.program (sh.world.process started.argv)
  let child : Child := {
    file := started.file, argv := command.argv, cwd := sh.world.cwd, status := effect.status,
    heldOutput := sh.out.held, heldErrors := sh.err.held }
  (effect.status,
    { sh with world := sh.world.apply effect, children := sh.children ++ [child] })

/-- Finds a program on `search`, starts it and waits for its end. -/
def launch (sh : Shell) (search : Bytes) (argv : List Bytes) :
    Except LaunchError ExitStatus × Shell :=
  match Command.resolve sh.world search argv with
  | .error e => (.error e, sh)
  | .ok command =>
    match command.spawn programs sh.world with
    | .error e => (.error e, sh)
    | .ok started =>
      let (status, sh) := sh.host command started
      match command.wait sh.world status with
      | .error e => (.error e, sh)
      | .ok status => (.ok status, sh.emit (.ended status))

/-- There is no such program, or it cannot be started, or it ran and nobody learns how it
ended, or somebody does. -/
@[elab_as_elim]
theorem launch_cases {motive : Except LaunchError ExitStatus × Shell → Prop} (sh : Shell)
    (search : Bytes) (argv : List Bytes)
    (missing : ∀ e, Command.resolve sh.world search argv = .error e → motive (.error e, sh))
    (refused : ∀ command e, Command.resolve sh.world search argv = .ok command →
      command.spawn programs sh.world = .error e → motive (.error e, sh))
    (lost : ∀ command started e, Command.resolve sh.world search argv = .ok command →
      command.spawn programs sh.world = .ok started →
      command.wait (sh.host command started).2.world (sh.host command started).1 = .error e →
      motive (.error e, (sh.host command started).2))
    (ended : ∀ command started status, Command.resolve sh.world search argv = .ok command →
      command.spawn programs sh.world = .ok started →
      command.wait (sh.host command started).2.world (sh.host command started).1 = .ok status →
      motive (.ok status, (sh.host command started).2.emit (.ended status))) :
    motive (sh.launch programs search argv) := by
  unfold launch
  cases hresolve : Command.resolve sh.world search argv with
  | error e => exact missing e hresolve
  | ok command =>
    cases hspawn : command.spawn programs sh.world with
    | error e => simpa only [hspawn] using refused command e hresolve hspawn
    | ok started =>
      simp only [hspawn]
      split
      · next e hwait => exact lost command started e hresolve hspawn hwait
      · next status hwait => exact ended command started status hresolve hspawn hwait

/-- What is held goes out first: a program writes to the descriptors itself. How it ends
is no concern of the session. -/
def runProgram (sh : Shell) (argv : List Bytes) : Except ShellError Continuation × Shell :=
  match sh.flushOut with
  | (.error e, sh) => (.error (.io e), sh)
  | (.ok (), sh) =>
    let sh := sh.emit (.launching (Command.nameOf argv))
    match sh.launch programs sh.world.effectiveSearchPath argv with
    | (.ok _, sh) => (.ok .continue, sh)
    | (.error e, sh) => sh.carryOn e.message

def execute (sh : Shell) (argv : List Bytes) : Except ShellError Continuation × Shell :=
  match argv with
  | [] => (.ok .continue, sh)
  | name :: _ =>
    match Builtin.find? name with
    | some b => (sh.emit (.runningBuiltin name)).runBuiltin b argv
    | none => sh.runProgram programs argv

/-- Executes a line, cut into tokens. -/
def executeLine (sh : Shell) (line : Bytes) : Except ShellError Continuation × Shell :=
  let tokens := Token.split line
  (sh.emitAll tokens.events).execute programs tokens.tokens

/-- Shows the prompt. -/
def ask (sh : Shell) (prompt : String) : Except IoError Unit × Shell :=
  match sh.out.write (utf8 prompt) with
  | (.ok (), out) => { sh with out }.flushOut
  | (.error e, out) => (.error e, { sh with out })

/-- Takes the next line from the source. -/
def take (sh : Shell) (source : Source) : Except ShellError Reading × Source × Shell :=
  let (reading, events, source, input) := source.next sh.world.input
  (reading, source, { sh with world := { sh.world with input } }.emitAll events)

/-- Nothing is taken from the source unless the prompt is out. -/
def readLine (sh : Shell) (prompt : String) (source : Source) :
    Except ShellError Reading × Source × Shell :=
  if source.isPrompted then
    match sh.ask prompt with
    | (.ok (), sh) => sh.take source
    | (.error e, sh) => (.error (.io e), source, sh)
  else sh.take source

end Shell

end TinyShell
