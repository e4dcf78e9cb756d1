import TinyShell.Outcome
import TinyShell.Text.Utf8

/-!
# Trace events

What a session records as it goes. `level`, `target`, `message` and `fields` are how an
event is shown; names typed or looked up are shown by `Utf8.lossy`.
-/

namespace TinyShell

/-- The name the shell gives itself. -/
def shellName : String := "minish"

inductive Level where
  | error
  | warn
  | info
  | debug
  | trace
  deriving DecidableEq, Repr

namespace Level

/-- The more there is to say, the higher. -/
def rank : Level → Nat
  | error => 1
  | warn => 2
  | info => 3
  | debug => 4
  | trace => 5

def name : Level → String
  | error => "ERROR"
  | warn => "WARN"
  | info => "INFO"
  | debug => "DEBUG"
  | trace => "TRACE"

end Level

inductive Event where
  | growingTokens (capacity : Nat)
  | growingLine (capacity target : Nat)
  | droppingLine (length : Nat)
  | runningBuiltin (name : Bytes)
  | createdDirectory (path : Bytes)
  | changedDirectory (target : Bytes)
  | launching (name : Bytes)
  | spawned (program : Bytes)
  | ended (status : ExitStatus)
  | endOfInput
  | exitRequested
  | finished (shutdown : Shutdown)
  deriving DecidableEq, Repr

namespace Event

def level : Event → Level
  | growingTokens _ | growingLine _ _ | droppingLine _ => .trace
  | _ => .debug

/-- The part of the shell that speaks, below `shellName`. -/
def part : Event → Option String
  | growingTokens _ => "lexer"
  | growingLine _ _ | droppingLine _ => "reader"
  | createdDirectory _ | changedDirectory _ => "builtin"
  | spawned _ | ended _ => "external"
  | runningBuiltin _ | launching _ | endOfInput | exitRequested => "interpreter"
  | finished _ => none

def target (e : Event) : String :=
  match e.part with
  | some part => shellName ++ "::" ++ part
  | none => shellName

def message : Event → String
  | growingTokens _ => "growing token buffer"
  | growingLine _ _ => "growing line buffer"
  | droppingLine _ => "dropping unterminated line"
  | runningBuiltin _ => "running builtin"
  | createdDirectory _ => "created directory"
  | changedDirectory _ => "changed directory"
  | launching _ => "launching external command"
  | spawned _ => "spawned child"
  | ended (.exited _) => "child exited"
  | ended (.killed _) => "child killed"
  | endOfInput => "end of input"
  | exitRequested => "exit requested"
  | finished _ => "shell finished"

def fields : Event → List (String × String)
  | growingTokens capacity => [("capacity", toString capacity)]
  | growingLine capacity target => [("from", toString capacity), ("to", toString target)]
  | droppingLine length => [("len", toString length)]
  | runningBuiltin name | launching name => [("name", Utf8.lossy name)]
  | createdDirectory path => [("path", Utf8.lossy path)]
  | changedDirectory target => [("target", Utf8.lossy target)]
  | spawned program => [("program", Utf8.lossy program)]
  | ended (.exited code) => [("code", toString code)]
  | ended (.killed signal) => [("signal", s!"Some({signal})")]
  | endOfInput | exitRequested => []
  | finished .exit => [("shutdown", "Exit")]
  | finished .endOfInput => [("shutdown", "EndOfInput")]

/-- The names a filter can ask for: those of the fields shown, the message, and the number
of the process, which is not shown. -/
def fieldNames (e : Event) : List String :=
  "message" :: (match e with
    | spawned _ | ended _ => ["pid"]
    | _ => []) ++ e.fields.map (·.1)

/-- The event on one line, without its time. -/
def line (e : Event) : String :=
  e.fields.foldl (fun text (name, value) => text ++ " " ++ name ++ "=" ++ value)
    (e.level.name ++ " " ++ e.target ++ ": " ++ e.message)

end Event

end TinyShell
