import TinyShell.Userland.Sh.Run

/-!
# Calling the interpreter

`program` is the interpreter of scripts as a program: it reads its arguments, takes its
variables from the environment and runs a script given as an argument, in a file, or on
descriptor 0.
-/

namespace TinyShell.Userland.Sh

/-- The most steps a script can take. -/
def fuel : Nat := 10000000

/-- Descriptor 0 is read in blocks of this size. -/
def blockSize : Nat := 8192

namespace Script

/-! ## Beginning -/

/-- Whether a path that is given for the working directory leads there. -/
def isPlace (files : Files) (cwd : Inode) (path : Bytes) : Bool :=
  Path.isAbsolute path && (files.find cwd path).toOption = some cwd

/-- Takes over the environment and sets the variables that every script has. -/
def prepare (environment : Environment) : Script Unit := do
  for (name, value) in environment do
    if Reader.isName name then putVariable name (some { value := some value, isExported := true })
  let preset (name value : Bytes) : Script Unit := do
    putVariable name (some { (← variableOf? name).getD { value := none } with value := some value })
  preset (utf8 "IFS") blanks
  preset (utf8 "OPTIND") (utf8 "1")
  preset (utf8 "PPID") (decimal (processNumber - 1))
  preset (utf8 "PS1") (utf8 "$ ")
  preset (utf8 "PS2") (utf8 "> ")
  preset (utf8 "PS4") (utf8 "+ ")
  if (← value? (utf8 "PATH")).isNone then preset (utf8 "PATH") defaultPath
  let s ← get
  let place ← match ← value? (utf8 "PWD") with
    | some path =>
      if isPlace s.files s.frame.cwd path then pure (some path) else physical
    | none => physical
  modifyFrame fun f => { f with place }
  putVariable (utf8 "PWD") (some { value := some (place.getD []), isExported := true })

/-- Reads the options, of which `-c` says that a script comes as an argument. -/
def callOptions : (fuel : Nat) → (hasText : Bool) → List Bytes → Script (Bool × List Bytes)
  | 0, hasText, args => return (hasText, args)
  | fuel + 1, hasText, args => do
    match args with
    | [0x2D] :: rest | [0x2D, 0x2D] :: rest => return (hasText, rest)
    | [0x2B] :: rest => callOptions fuel hasText rest
    | (sign :: letter :: letters) :: rest =>
      if sign ≠ 0x2D && sign ≠ 0x2B then return (hasText, args)
      let more := if letters.isEmpty then rest else (sign :: letters) :: rest
      if letter = 0x63 then callOptions fuel true more
      else if letter = 0x6C then callOptions fuel hasText more
      else if letter = 0x6F then
        match rest with
        | [] => let _ ← showOptions (sign = 0x2B)
        | name :: _ => setNamed name (sign = 0x2D)
        callOptions fuel hasText
          (if letters.isEmpty then rest.drop 1 else (sign :: letters) :: rest.drop 1)
      else
        setOption letter (sign = 0x2D)
        callOptions fuel hasText more
    | args => return (hasText, args)

/-- Names the script and gives it its arguments. -/
def address (name : Bytes) (arguments : List Bytes) : Script Unit :=
  modifyFrame fun f => { f with name, arguments }

/-! ## Scripts on descriptor 0 -/

/-- How far a text reaches in which NULs do not count. -/
def reachOf : (count : Nat) → Bytes → Nat
  | 0, _ | _, [] => 0
  | count + 1, b :: rest => 1 + if b = nul then reachOf (count + 1) rest else reachOf count rest

/-- The next command on descriptor 0, with the place after it. Whole blocks are taken, and what
is left of them is kept. -/
def nextOnInput (line : Nat) : Script (Except Mistake (Option Command) × Cursor) := do
  let f ← frame
  let incoming := (← readable 0).rest
  let text := f.buffer ++ incoming
  let before : Cursor :=
    { rest := text.filter (· != nul), line, aliases := f.aliases, isShown := true }
  let (found, after) := Reader.next.run before
  showText before after
  modifyFrame fun f => { f with lineAhead := after.line }
  let reach := if after.rest.isEmpty then text.length else reachOf (before.distance after) text
  let blocks := (reach - f.buffer.length + blockSize - 1) / blockSize
  consume 0 (min (blocks * blockSize) incoming.length)
  modifyFrame fun f =>
    { f with buffer := (f.buffer ++ incoming.take (blocks * blockSize)).drop reach }
  return (found, after)

variable (programs : Programs)

/-- Runs the commands on descriptor 0, each before the next is read. `last` is the status so
far. -/
def evaluateInput : (fuel line last : Nat) → Script Unit
  | 0, _, _ => throw .exit
  | fuel + 1, line, last => do
    match ← nextOnInput line with
    | (.error mistake, _) =>
      modifyFrame fun f => { f with line := mistake.line }
      fail mistake.text
    | (.ok none, _) => setStatus last
    | (.ok (some command), after) =>
      if (← execute programs fuel {} command) = .next then
        evaluateInput fuel after.line (← frame).status

/-! ## The program -/

/-- Runs the script that the arguments name. -/
def runArguments (args : List Bytes) : Script Unit := do
  let (hasText, rest) ← callOptions (total (·.length + 1) args + 1) false args
  if hasText && rest.isEmpty then fail (utf8 "-c requires an argument")
  if rest.isEmpty then setOption 0x73 true
  let fromInput ← hasOption 's'
  let start : Script Unit := modifyFrame fun f => { f with line := 1 }
  match hasText, rest with
  | true, text :: rest =>
    if let name :: arguments := rest then address name arguments
    start
    let flow ← evaluate programs fuel {} { rest := text } 0
    if fromInput && flow = .next then evaluateInput programs fuel 1 (← frame).status
  | _, rest =>
    match fromInput, rest with
    | false, file :: arguments =>
      let text ← scriptText file
      address file arguments
      start
      let _ ← evaluate programs fuel {} { rest := text, isShown := true } 0
    | _, arguments =>
      modifyFrame fun f => { f with arguments }
      start
      evaluateInput programs fuel 1 0

end Script

/-- The interpreter of scripts as a program, which starts others. -/
def program (programs : Programs) : Program := fun process =>
  let descriptors : List (Nat × Handle) := [(2, .errors)]
  let descriptors := if process.sink = .closed then descriptors else (1, .output) :: descriptors
  let descriptors := if process.isInputClosed then descriptors else (0, .input) :: descriptors
  let frame : Frame :=
    { name := utf8 "sh", cwd := process.cwd, place := none, mask := process.mask,
      line := 0, descriptors }
  let state : State :=
    { files := process.files, input := process.input, outputFull := process.sink = .full,
      ignored := process.ignored, frame }
  let body : Script Unit := do
    Script.prepare process.environment
    Script.address (process.argv.headD []) []
    tryCatch (Script.runArguments programs (process.argv.drop 1)) fun
      | .exit | .mistake => return
      | stop => throw stop
    Script.conclude programs fuel
  let (result, state) := body.run state
  let status := match result with
    | .error (.replaced status) => status
    | .error (.killed signal) => .killed signal
    | _ => .exited (state.frame.status % 256)
  { files := state.files, consumed := state.consumed, written := state.written.toList, status }

end TinyShell.Userland.Sh
