import TinyShell.Shell

/-!
# Options

The arguments of the command line: `--prompt`, `--log` and `--plain`. `Options.parse`
reads them all or says why not; an `OptionError` is shown with a hint, the help on its own.
-/

namespace TinyShell

structure Options where
  prompt : String := defaultPrompt
  log : Option String := none
  plain : Bool := false
  deriving DecidableEq, Repr

inductive OptionError where
  | notText (argument : Bytes)
  | unknown (argument : String)
  | noValue (option : String)
  | repeated (option value : String)
  | afterHelp
  deriving DecidableEq, Repr

/-- Why the shell does not start. -/
inductive Refusal where
  | help
  | error (e : OptionError)
  deriving DecidableEq, Repr

def OptionError.message : OptionError → String
  | notText argument => "Invalid utf8: " ++ Utf8.lossy argument
  | unknown argument => "Unrecognized argument: " ++ argument ++ "\n"
  | noValue option => "No value provided for option '" ++ option ++ "'.\n"
  | repeated option value =>
    "Error parsing option '" ++ option ++ "' with value '" ++ value ++
      "': duplicate values provided\n"
  | afterHelp => "Trailing arguments are not allowed after `help`."

/-- What is said of an error, with a hint where the fault is in the words. -/
def OptionError.report : OptionError → String
  | notText argument => (notText argument).message ++ "\n"
  | e => e.message ++ "\nRun " ++ shellName ++ " --help for more information.\n"

namespace Options

def helpText : String :=
  "Usage: " ++ shellName ++ " [--prompt <prompt>] [--log <log>] [--plain]\n\n" ++
  "A minimal interactive command interpreter.\n\n" ++
  "Options:\n" ++
  "  --prompt          prompt shown before each command line.\n" ++
  "  --log             tracing filter directive, e.g. `debug` or `minish=trace`;\n" ++
  "                    falls back to RUST_LOG.\n" ++
  "  --plain           read standard input as a plain stream even on a terminal.\n" ++
  "  --help, help      display usage information\n\n"

/-- What has been read of the arguments. -/
structure Partial where
  prompt : Option String := none
  log : Option String := none
  plain : Bool := false
  help : Bool := false

def asksForHelp (argument : String) : Bool := argument == "--help" || argument == "help"

/-- After `--` there is nothing but operands, and none is known. -/
def afterDashes (p : Partial) : List String → Except OptionError Partial
  | [] => .ok p
  | argument :: _ => .error (.unknown argument)

def read (p : Partial) : List String → Except OptionError Partial
  | [] => .ok p
  | argument :: rest =>
    if asksForHelp argument then read { p with help := true } rest
    else if argument = "--" then afterDashes p rest
    else if p.help ∧ argument.toList.head? = some '-' then .error .afterHelp
    else if argument = "--plain" then read { p with plain := true } rest
    else if argument = "--prompt" then
      match rest, p.prompt with
      | [], _ => .error (.noValue argument)
      | value :: _, some _ => .error (.repeated argument value)
      | value :: rest, none => read { p with prompt := some value } rest
    else if argument = "--log" then
      match rest, p.log with
      | [], _ => .error (.noValue argument)
      | value :: _, some _ => .error (.repeated argument value)
      | value :: rest, none => read { p with log := some value } rest
    else .error (.unknown argument)

/-- The arguments as texts, or the first that is none. -/
def texts : List Bytes → Except OptionError (List String)
  | [] => .ok []
  | argument :: rest =>
    match Utf8.decode? argument with
    | some text => do return String.ofList text :: (← texts rest)
    | none => .error (.notText argument)

def parse (arguments : List Bytes) : Except Refusal Options :=
  match texts arguments >>= read {} with
  | .error e => .error (.error e)
  | .ok p =>
    if p.help then .error .help
    else .ok { prompt := p.prompt.getD defaultPrompt, log := p.log, plain := p.plain }

end Options

end TinyShell
