import TinyShell.Userland.Sh.Commands
import TinyShell.Userland.Sh.Redirect

/-!
# Running scripts

`Script.execute` runs a command and `Script.evaluate` a script, command by command. What
programs do that it starts is a parameter. Fuel bounds the number of steps.

Some commands are only tried: their failure is looked at and does not end a script that
ends on failures.
-/

namespace TinyShell.Userland.Sh.Script

/-! ## Parameters -/

/-- The first byte that joins arguments, unless they are joined by none. -/
def joint : Script Bytes := do
  match ← value? (utf8 "IFS") with
  | some separators => return separators.take 1
  | none => return [0x20]

/-- The value of a parameter, unless it is not set. -/
def lookup (name : Bytes) : Script (Option Bytes) := do
  let f ← frame
  match name with
  | [0x30] => return some f.name
  | [0x23] => return some (decimal f.arguments.length)
  | [0x3F] => return some (decimal f.status)
  | [0x24] => return some (decimal processNumber)
  | [0x21] => return f.lastJob.map decimal
  | [0x2D] => return some (← optionLetters)
  | [0x40] | [0x2A] => return some ((← joint).intercalate f.arguments)
  | b :: _ =>
    if Reader.isDigit b then return f.arguments[Printf.decimal name - 1]?
    else value? name
  | [] => return none

/-- The value of a parameter, which has to be set if the script asks for that. -/
def lookupSet (name : Bytes) : Script Bytes := do
  match ← lookup name with
  | some value => return value
  | none =>
    if ← hasOption 'u' then fail (name ++ utf8 ": parameter not set")
    return []

/-- Arguments outside quotes: each may be divided further, and empty ones vanish. -/
def looseArguments (arguments : List Bytes) : List Atom :=
  spread false ([nul].intercalate arguments)

/-- Arguments in quotes, each a field. -/
def quotedArguments (arguments : List Bytes) : List Atom :=
  if arguments.isEmpty then []
  else .list :: [Atom.divide].intercalate
    (arguments.map fun argument => .mark :: spread true argument)

/-- Whether a parameter stands for the arguments one by one. -/
def isList (name : Bytes) (isQuoted : Bool) : Bool :=
  name = [0x40] || (name = [0x2A] && !isQuoted)

def list (arguments : List Bytes) (isQuoted : Bool) : List Atom :=
  if isQuoted then quotedArguments arguments else looseArguments arguments

def parameter (inFields : Bool) (name : Bytes) (isQuoted : Bool) : Script (List Atom) := do
  if inFields && isList name isQuoted then return list (← frame).arguments isQuoted
  else return spread isQuoted (← lookupSet name)

/-- The arguments, trimmed as one text in which NULs stand between them. -/
def trimmedArguments (isQuoted : Bool) (trim : Bytes → Bytes) : Script (List Atom) := do
  match (← frame).arguments with
  | [] => return []
  | arguments => return list ((trim ([nul].intercalate arguments)).splitOn nul) isQuoted

/-! ## Home directories -/

/-- The directory of a user, or of the user who runs the script. -/
def home? (user : Bytes) : Script (Option Bytes) := do
  if user.isEmpty then value? (utf8 "HOME")
  else return if user = utf8 "root" then some (utf8 "/root") else none

/-- The pieces of a text that may begin with a home directory. `isWhole` says that the word
ends with it. -/
def tilde (text : Bytes) (isWhole : Bool) : Script Word := do
  match text with
  | 0x7E :: rest =>
    let user := rest.takeWhile (· != slash)
    let path := rest.drop user.length
    if path.isEmpty && !isWhole then return [.text text false]
    match ← home? user with
    | some home => return [.text home true, .text path false]
    | none => return [.text text false]
  | text => return [.text text false]

/-- A word whose home directory is named. -/
def withHome (word : Word) : Script Word := do
  match word with
  | .text text false :: rest => return (← tilde text rest.isEmpty) ++ rest
  | word => return word

/-- A value in which home directories are named after colons too. -/
def withHomes : (isStart : Bool) → Word → Script Word
  | _, [] => return []
  | isStart, .text text false :: rest => do
    let parts := text.splitOn 0x3A
    let mut done : Word := []
    for (part, n) in parts.zipIdx do
      let isWhole := n + 1 < parts.length || rest.isEmpty
      let pieces ← if n = 0 && !isStart then pure [Piece.text part false] else tilde part isWhole
      done := done ++ (if n = 0 then [] else [Piece.text [0x3A] false]) ++ pieces
    let next := text.getLast? = some 0x3A
    return done ++ (← withHomes next rest)
  | _, piece :: rest => return piece :: (← withHomes false rest)

/-- A word in an expansion outside quotes: its text may divide fields. -/
def openly (word : Word) : Word := word.map fun
  | .text text false => .open text
  | piece => piece

/-- A word that gives a name a value: what stands before the value, and the value. -/
def assignmentIn (word : Word) : Option (Bytes × Word) :=
  match word with
  | .text text false :: rest =>
    let name := Reader.nameAt text
    if name.isEmpty || (text.drop name.length).head? ≠ some 0x3D then none
    else
      let value := text.drop (name.length + 1)
      some (name ++ [0x3D], if value.isEmpty then rest else .text value false :: rest)
  | _ => none

/-! ## Subshells and traps -/

/-- Turns the frame into that of a subshell. Only what is ignored stays so. -/
def enterSubshell : Script Unit := modifyFrame fun f =>
  { f with isSubshell := true, traps := f.traps.filter (·.2.isEmpty) }

/-- Runs a part of a script to its end in a subshell: its changes to the frame are lost. -/
def apart (body : Script Flow) (conclude : Script Unit) : Script ExitStatus := do
  let frame ← frame
  enterSubshell
  let run : Script ExitStatus := do
    tryCatch (do let _ ← body) fun
      | .exit | .mistake => return
      | stop => throw stop
    conclude
    return .exited (← get).frame.status
  let status ← tryCatch run fun
    | .replaced status => return status
    | stop => throw stop
  modifyFrame fun _ => frame
  return status

/-- Takes over the status of a program or a subshell. -/
def adopt (status : ExitStatus) : Script Unit := do
  setStatus (statusOf status)
  report status

/-- Whether commands wait for a signal or the end of the script. -/
def hasTraps : Script Bool := do return (← frame).traps.any fun (_, action) => !action.isEmpty

/-- Does `body` with `after` following in any case. -/
def finally' {α : Type} (body : Script α) (after : Script Unit) : Script α := do
  let a ← tryCatch body fun stop => do
    after
    throw stop
  after
  return a

/-- Does what the interpreter does itself for a command. A mistake ends the script only in
a special command. -/
def within (command : Bytes) (isSpecial : Bool) (body : Script Flow) : Script Flow := do
  let before ← frame
  modifyFrame fun f => { f with command := some command }
  let restore : Script Unit :=
    modifyFrame fun f => { f with command := before.command, lineAhead := before.lineAhead }
  tryCatch (finally' body restore) fun stop => do
    if stop = .mistake && !isSpecial then
      modifyFrame fun f =>
        { f with descriptors := before.descriptors, arguments := before.arguments,
                 loops := before.loops }
      return .next
    throw stop

/-- Runs a command of the interpreter from the table. -/
def plainly (body : Script Nat) : Script Flow := do
  setStatus (← body)
  return .next

/-- Runs a program that is found on a path, in place of the script if nothing follows. -/
def external (programs : Programs) (isLast : Bool) (search : Option Bytes) (argv : List Bytes) :
    Script Unit := do
  let name := argv.headD []
  let paths ← if name.contains slash then pure (Except.ok [name]) else locate search name
  match paths with
  | .error e =>
    complain (noProgram name e)
    setStatus 127
  | .ok paths =>
    match ← launch programs paths argv with
    | .error status => setStatus status
    | .ok status =>
      if isLast && !(← hasTraps) then throw (.replaced status)
      adopt status

/-- Runs a program that takes the place of the script. -/
def replace (programs : Programs) (argv : List Bytes) : Script Flow := do
  let name := argv.headD []
  let search ← searchPath
  let paths := if name.contains slash then [name] else candidates search name
  match ← launch programs paths argv with
  | .error status => setStatus status; throw .exit
  | .ok status => throw (.replaced status)

/-- A number of loops to leave: not more than there are. -/
def loopCount (args : List Bytes) : Script Nat := do
  match args with
  | [] => return min 1 (← frame).loops
  | text :: _ =>
    let n ← number text
    if n = 0 then fail (utf8 "Illegal number: " ++ text)
    return min n (← frame).loops

def leaveLoops (flow : Nat → Flow) (args : List Bytes) : Script Flow := do
  let n ← loopCount args
  setStatus 0
  return if n = 0 then .next else flow n

def exit (args : List Bytes) : Script Flow := do
  match args with
  | [] =>
    if let some status := (← frame).interrupted then setStatus status
  | text :: _ => setStatus (← number text)
  throw .exit

def «return» (args : List Bytes) : Script Flow := do
  if let text :: _ := args then setStatus (← number text)
  return .back

/-- Ends a script that ends on failures, if a command failed and was not only tried. -/
def checkFailure (p : Purpose) : Script Unit := do
  if !p.isTried && (← frame).status ≠ 0 && (← hasOption 'e') then throw .exit

/-- Runs the body of a loop, with one more loop around. -/
def inLoop (body : Script Flow) : Script Flow := do
  modifyFrame fun f => { f with loops := f.loops + 1 }
  finally' body (modifyFrame fun f => { f with loops := f.loops - 1 })

/-- What a loop makes of how a part of it was left: whether it goes on, and else how it is
left itself. -/
def afterPart : Flow → Option Flow
  | .next | .again 0 | .again 1 => none
  | .leave 0 | .leave 1 => some .next
  | .leave n => some (.leave (n - 1))
  | .again n => some (.again (n - 1))
  | .back => some .back

/-- What `command` is asked: the path to search and what is to be run, or a description. -/
inductive Commanded where
  | run (search : Option Bytes) (argv : List Bytes)
  | describe

/-- Reads the arguments of `command`. -/
def commanded : List Bytes → (search : Option Bytes) → Commanded
  | [0x2D, 0x2D] :: argv, search => if argv.isEmpty then .describe else .run search argv
  | [0x2D, 0x70] :: argv, _ => commanded argv (some defaultPath)
  | argv, search =>
    match argv with
    | [] | (0x2D :: _ :: _) :: _ => .describe
    | argv => .run search argv

/-- What `command` does with options that ask for a description. -/
def describeCommand (args : List Bytes) : Script Nat := do
  let (found, names) ← options "pvV" args
  match names with
  | [] => return 0
  | name :: _ =>
    let search ← if found.any (·.1 = 0x70) then pure (some defaultPath) else searchPath
    describe (found.any (·.1 = 0x56)) search name

/-- The file that `.` reads. -/
def sourceFile (name : Bytes) : Script Bytes := do
  if name.contains slash then return name
  let s ← get
  let paths := candidates (← searchPath) name
  let isFile (path : Bytes) : Bool :=
    match (s.files.find s.frame.cwd path).toOption.bind s.files.node? with
    | some (.file _ _) => true
    | _ => false
  match paths.find? isFile with
  | some path => return path
  | none => fail (name ++ utf8 ": not found")

/-- The content of a script file. -/
def scriptText (path : Bytes) : Script Bytes := do
  let s ← get
  match s.files.openToRead s.frame.cwd path with
  | .ok i => return (s.files.content i).filter (· != nul)
  | .error e => fail (cannotOpen path e)

/-- The most functions that may be called one within another. -/
def callMax : Nat := 1000

/-- Shows what was read of a file, if the script asks for that. -/
def showText (before after : Cursor) : Script Unit := do
  if before.isShown && (← hasOption 'v') then
    let _ ← put 2 (before.rest.take (before.distance after))

variable (programs : Programs)

mutual

/-- What a word expands to. Outside fields, the arguments of the script are one text. -/
def atoms (fuel : Nat) (inFields : Bool) (word : Word) : Script (List Atom) :=
  match fuel with
  | 0 => return []
  | fuel + 1 => do
    match word with
    | [] => return []
    | piece :: rest =>
      let first ← pieceAtoms fuel inFields piece
      return first ++ (← atoms fuel inFields rest)

def pieceAtoms (fuel : Nat) (inFields : Bool) (piece : Piece) : Script (List Atom) :=
  match fuel with
  | 0 => return []
  | fuel + 1 => do
    match piece with
    | .text bytes isQuoted =>
      return (if isQuoted then [.mark] else []) ++ bytes.map (.byte · isQuoted)
    | .open bytes => return spread false bytes
    | .parameter name isQuoted => parameter inFields name isQuoted
    | .orElse name how orEmpty word isQuoted =>
      let value ← lookup name
      let isMissing := value.isNone || (orEmpty && value = some [])
      let word ← if isQuoted then pure word else openly <$> withHome word
      match how, isMissing with
      | .alternative, false | .default, true => atoms fuel inFields word
      | .alternative, true => return []
      | .assign, true =>
        let value := flatten (← atoms fuel false word)
        if !Reader.isName name then fail (name ++ utf8 ": bad variable name")
        setVariable name value
        return spread isQuoted value
      | .complaint, true =>
        let said := flatten (← atoms fuel false word)
        fail (name ++ utf8 ": " ++ if !said.isEmpty || !word.isEmpty then said
          else if orEmpty then utf8 "parameter not set or null" else utf8 "parameter not set")
      | _, false => parameter inFields name isQuoted
    | .trimmed name how pattern isQuoted =>
      let value ← lookupSet name
      if (← lookup name).isNone then return []
      let pattern := whole (← atoms fuel false pattern)
      let trim := pattern.trim how.fromEnd how.isLongest
      if inFields && isList name isQuoted then trimmedArguments isQuoted trim
      else return spread isQuoted (trim value)
    | .length name isQuoted =>
      return spread isQuoted (decimal (← lookupSet name).length)
    | .arithmetic expression isQuoted =>
      let text := flatten (← atoms fuel false expression)
      let f ← frame
      let value (name : Bytes) : Option Bytes := (f.bindings.lookup name).bind (·.value)
      match Arithmetic.evaluate value text with
      | .error complaint => fail complaint
      | .ok (n, updates) =>
        for (name, n) in updates do setVariable name (utf8 (toString n))
        return spread isQuoted (utf8 (toString n))
    | .output body isQuoted =>
      let h ← addChannel (.memory [])
      let status ← apart (do
        setHandle 1 (some h)
        execute fuel { isLast := true } body) (conclude fuel)
      report status
      modifyFrame fun f => { f with substituted := statusOf status }
      let bytes := match h, (← get).channels with
        | .channel index, channels => match channels[index]? with
          | some (.memory bytes) => bytes
          | _ => []
        | _, _ => []
      let bytes := bytes.filter (· != nul)
      return spread isQuoted (bytes.reverse.dropWhile (· == newline)).reverse
    | .unknown => fail (utf8 "Bad substitution")

/-- The fields of a word. -/
def expandWord (fuel : Nat) (word : Word) : Script (List Bytes) :=
  match fuel with
  | 0 => return []
  | fuel + 1 => do
    let found := fields (← separators) blanks none (← atoms fuel true (← withHome word))
    if ← hasOption 'f' then return found.map Pattern.text
    let s ← get
    return found.flatMap (Pattern.expand s.files s.frame.cwd)

/-- The value that a word gives. -/
def expandValue (fuel : Nat) (word : Word) : Script Bytes :=
  match fuel with
  | 0 => return []
  | fuel + 1 => do return flatten (← atoms fuel false (← withHomes true word))

/-- The fields of several words. The first field of all says whether words may be
assignments. -/
def expand (fuel : Nat) (done : List Bytes) (words : List Word) : Script (List Bytes) :=
  match fuel with
  | 0 => return done
  | fuel + 1 => do
    match words with
    | [] => return done
    | word :: rest =>
      let command := (done.dropWhile (· = utf8 "command")).headD []
      match if isDeclaring command then assignmentIn word else none with
      | some (start, value) =>
        let value ← expandValue fuel value
        expand fuel (done ++ [start ++ value]) rest
      | none =>
        let first ← expandWord fuel word
        expand fuel (done ++ first) rest

/-- Does redirections in order, up to the first that fails. -/
def redirectAll (fuel : Nat) (redirections : List Redirection) : Script Bool :=
  match fuel with
  | 0 => return false
  | fuel + 1 => do
    match redirections with
    | [] => return true
    | .document descriptor body :: rest =>
      provide descriptor (flatten (← atoms fuel false body))
      redirectAll fuel rest
    | .mk descriptor way word :: rest =>
      let target := flatten (← atoms fuel false (← withHome word))
      match ← redirect descriptor way target with
      | .ok () => redirectAll fuel rest
      | .error text =>
        complain text
        setStatus 2
        return false

/-- Gives variables values: for one command only if `isPassing`. -/
def assignAll (fuel : Nat) (isPassing : Bool) (assignments : List (Bytes × Word))
    (done : List (Bytes × Bytes)) : Script (List (Bytes × Bytes)) :=
  match fuel with
  | 0 => return done
  | fuel + 1 => do
    match assignments with
    | [] => return done
    | (name, word) :: rest =>
      let value ← expandValue fuel word
      setVariable name value
      if isPassing then markVariable name fun v => { v with isExported := true }
      assignAll fuel isPassing rest (done ++ [(name, value)])

/-- Shows a command before it is run, where the error output led at first. -/
def showCommand (fuel : Nat) (before : Frame) (assigned : List (Bytes × Bytes))
    (argv : List Bytes) : Script Unit :=
  match fuel with
  | 0 => return
  | fuel + 1 => do
    if !(← hasOption 'x') then return
    let f ← frame
    let sign := (← value? (utf8 "PS4")).getD []
    let word := match (Reader.quoted (sign.length * 16 + 64) true []).run { rest := sign } with
      | (.ok word, _) => word.reverse
      | _ => []
    modifyFrame fun f =>
      { f with descriptors := before.descriptors, options := f.options.filter (· ≠ 0x78) }
    let shown := flatten (← atoms fuel false word)
    let words := assigned.map (fun (name, value) => name ++ 0x3D :: value) ++ argv
    let _ ← put 2 (line (shown ++ [0x20].intercalate words))
    modifyFrame fun g => { g with descriptors := f.descriptors, options := f.options }

/-- Runs a function. -/
def call (fuel : Nat) (p : Purpose) (body : Command) (arguments : List Bytes) : Script Flow :=
  match fuel with
  | 0 => throw .exit
  | fuel + 1 => do
    let before ← frame
    if callMax ≤ before.scopes.length then
      fail (utf8 s!"Maximum function recursion depth ({callMax}) reached")
    modifyFrame fun f => { f with scopes := [] :: f.scopes, loops := 0 }
    setArguments arguments
    let restore : Script Unit := do
      let kept := (← frame).scopes.headD []
      giveBack kept
      modifyFrame fun f =>
        { f with scopes := before.scopes, loops := before.loops, arguments := before.arguments,
                 optionIndex := before.optionIndex, optionOffset := before.optionOffset }
    let flow ← finally' (execute fuel p.inside body) restore
    return if flow = .back then .next else flow

/-- Runs a command that changes the course of the script. -/
def steer (fuel : Nat) (p : Purpose) (name : Bytes) (args : List Bytes) : Script Flow :=
  match fuel with
  | 0 => throw .exit
  | fuel + 1 => do
    if name = utf8 "eval" then
      let text := [0x20].intercalate args
      let aliases := (← frame).aliases
      evaluate fuel p.inside { rest := text, aliases } 0
    else if name = utf8 "." then
      match ← operands args with
      | [] => return .next
      | file :: _ =>
        let path ← sourceFile file
        let text ← scriptText path
        let aliases := (← frame).aliases
        modifyFrame fun f => { f with command := some path }
        let flow ← evaluate fuel {} { rest := text, aliases, isShown := true } 0
        return if flow = .back then .next else flow
    else if name = utf8 "exec" then
      match ← operands args with
      | [] => setStatus 0; return .next
      | argv => replace programs argv
    else if name = utf8 "exit" then exit args
    else if name = utf8 "return" then «return» args
    else if name = utf8 "break" then leaveLoops .leave args
    else if name = utf8 "continue" then leaveLoops .again args
    else plainly (describeCommand args)

/-- Runs a command by its arguments. -/
def invoke (fuel : Nat) (p : Purpose) (isSpecial allowsFunctions : Bool) (search : Option Bytes)
    (argv : List Bytes) : Script Flow :=
  match fuel with
  | 0 => throw .exit
  | fuel + 1 => do
    let name := argv.headD []
    let args := argv.drop 1
    let functions := (← frame).functions
    match if allowsFunctions then functions.lookup name else none, builtin? name with
    | some body, _ => call fuel p body args
    | none, some body => within name isSpecial (plainly (body args))
    | none, none =>
      match if name = utf8 "command" then commanded args search else .describe with
      | .run search argv => invoke fuel p false false search argv
      | .describe =>
        if steering.contains name then within name isSpecial (steer fuel p name args)
        else
          external programs p.isLast search argv
          return .next

def simple (fuel : Nat) (p : Purpose) (assignments : List (Bytes × Word)) (words : List Word)
    (redirections : List Redirection) : Script Flow :=
  match fuel with
  | 0 => throw .exit
  | fuel + 1 => do
    modifyFrame fun f => { f with substituted := 0 }
    let argv ← expand fuel [] words
    let before ← frame
    let name := argv.headD []
    let special := !argv.isEmpty && isSpecial name
    let isKept := argv = [utf8 "exec"]
    let isPassing := !argv.isEmpty && !special
    let restore : Script Unit := do
      if !isKept then modifyFrame fun f => { f with descriptors := before.descriptors }
      if isPassing then
        giveBack (assignments.map fun (name, _) => (name, before.bindings.lookup name))
    finally' (do
      if !(← redirectAll fuel redirections) then
        if special then throw .mistake
        return .next
      let assigned ← assignAll fuel isPassing assignments []
      if !assigned.isEmpty || !argv.isEmpty then showCommand fuel before assigned argv
      if argv.isEmpty then
        setStatus (← frame).substituted
        return .next
      invoke fuel p special true (← searchPath) argv) restore

/-- Runs a command, and then the traps of the signals that came meanwhile. -/
def execute (fuel : Nat) (p : Purpose) (c : Command) : Script Flow :=
  match fuel with
  | 0 => throw .exit
  | fuel + 1 => do
    if ← hasOption 'n' then return .next
    let flow ← executeOne fuel p c
    let trapped ← runTraps fuel
    match c with
    | .simple _ _ _ _ | .subshell _ _ _ | .pipe _ => checkFailure p
    | _ => pure ()
    return if trapped = .next then flow else trapped

def executeOne (fuel : Nat) (p : Purpose) (c : Command) : Script Flow :=
  match fuel with
  | 0 => throw .exit
  | fuel + 1 => do
    match c with
    | .nothing => return .next
    | .simple line assignments words redirections =>
      modifyFrame fun f => { f with line }
      simple fuel p assignments words redirections
    | .sequence first second =>
      match ← execute fuel p.inside first with
      | .next => execute fuel p second
      | flow => return flow
    | .both first second =>
      match ← execute fuel { isTried := true } first with
      | .next =>
        if (← frame).status = 0 then execute fuel p second else return .next
      | flow => return flow
    | .either first second =>
      match ← execute fuel { isTried := true } first with
      | .next =>
        if (← frame).status = 0 then return .next else execute fuel p second
      | flow => return flow
    | .negated body =>
      let flow ← execute fuel { isTried := true } body
      if flow = .next then setStatus (if (← frame).status = 0 then 1 else 0)
      return flow
    | .pipe stages =>
      adopt (← pipe fuel p stages none)
      return .next
    | .background line body =>
      modifyFrame fun f => { f with line }
      let status ← apart (do
        setHandle 0 (some .null)
        execute fuel { p with isLast := true } body) (conclude fuel)
      let n := processNumber + 1 + (← get).jobs.length
      modify fun s => { s with jobs := (n, status) :: s.jobs }
      modifyFrame fun f => { f with lastJob := some n, status := 0 }
      return .next
    | .subshell line body redirections =>
      modifyFrame fun f => { f with line }
      adopt (← apart (do
        if !(← redirectAll fuel redirections) then throw .exit
        execute fuel { p with isLast := true } body) (conclude fuel))
      return .next
    | .redirected line body redirections =>
      modifyFrame fun f => { f with line }
      let before := (← frame).descriptors
      finally' (do
        if ← redirectAll fuel redirections then execute fuel p.inside body else return .next)
        (modifyFrame fun f => { f with descriptors := before })
    | .choice condition yes no =>
      match ← execute fuel { isTried := true } condition with
      | .next =>
        if (← frame).status = 0 then execute fuel p yes
        else
          if let .nothing := no then setStatus 0
          execute fuel p no
      | flow => return flow
    | .loop onSuccess condition body =>
      inLoop (repeatLoop fuel p.inside onSuccess condition body 0)
    | .each line name words body =>
      modifyFrame fun f => { f with line }
      let values ← match words with
        | some words => expand fuel [] words
        | none => pure (← frame).arguments
      inLoop (eachValue fuel p.inside name values body 0)
    | .select line word arms =>
      modifyFrame fun f => { f with line }
      let subject := flatten (← atoms fuel false (← withHome word))
      chooseArm fuel p subject arms
    | .define name body =>
      modifyFrame fun f =>
        { f with functions := (name, body) :: f.functions.filter (·.1 ≠ name), status := 0 }
      return .next

/-- Runs the stages of a pipeline, of which the first reads what `source` leads to. -/
def pipe (fuel : Nat) (p : Purpose) (stages : List Command) (source : Option Handle) :
    Script ExitStatus :=
  match fuel with
  | 0 => throw .exit
  | fuel + 1 => do
    match stages with
    | [] => return .exited (← frame).status
    | stage :: rest =>
      let sink ← if rest.isEmpty then pure none else some <$> addChannel (.memory [])
      let status ← apart (do
        if source.isSome then setHandle 0 source
        if sink.isSome then setHandle 1 sink
        execute fuel { p with isLast := true } stage) (conclude fuel)
      if rest.isEmpty then return status
      report status
      pipe fuel p rest sink

/-- Goes through a loop. `last` is the status of the body so far. -/
def repeatLoop (fuel : Nat) (p : Purpose) (onSuccess : Bool) (condition body : Command)
    (last : Nat) : Script Flow :=
  match fuel with
  | 0 => throw .exit
  | fuel + 1 => do
    let tested ← execute fuel { isTried := true } condition
    match tested, afterPart tested with
    | .next, _ =>
      if ((← frame).status = 0) = onSuccess then
        let flow ← execute fuel p body
        let status := (← frame).status
        match afterPart flow with
        | none => repeatLoop fuel p onSuccess condition body status
        | some flow => return flow
      else
        setStatus last
        return .next
    | .back, _ => return .back
    | _, some flow => setStatus last; return flow
    | _, none => repeatLoop fuel p onSuccess condition body last

def eachValue (fuel : Nat) (p : Purpose) (name : Bytes) (values : List Bytes) (body : Command)
    (last : Nat) : Script Flow :=
  match fuel with
  | 0 => throw .exit
  | fuel + 1 => do
    match values with
    | [] => setStatus last; return .next
    | value :: rest =>
      setVariable name value
      let flow ← execute fuel p body
      match afterPart flow with
      | none =>
        let status := (← frame).status
        eachValue fuel p name rest body status
      | some flow => return flow

def chooseArm (fuel : Nat) (p : Purpose) (subject : Bytes)
    (arms : List (List Word × Command)) : Script Flow :=
  match fuel with
  | 0 => throw .exit
  | fuel + 1 => do
    match arms with
    | [] => setStatus 0; return .next
    | (patterns, body) :: rest =>
      if ← fitsAny fuel subject patterns then
        if let .nothing := body then setStatus 0
        execute fuel p body
      else chooseArm fuel p subject rest

def fitsAny (fuel : Nat) (subject : Bytes) (patterns : List Word) : Script Bool :=
  match fuel with
  | 0 => return false
  | fuel + 1 => do
    match patterns with
    | [] => return false
    | word :: rest =>
      let pattern := whole (← atoms fuel false (← withHome word))
      if pattern.isMatch subject then return true else fitsAny fuel subject rest

/-- Reads commands and executes each before the next is read. `last` is the status so far. -/
def evaluate (fuel : Nat) (p : Purpose) (cursor : Cursor) (last : Nat) : Script Flow :=
  match fuel with
  | 0 => throw .exit
  | fuel + 1 => do
    let (found, after) := Reader.next.run cursor
    showText cursor after
    modifyFrame fun f => { f with lineAhead := after.line }
    match found with
    | .error mistake =>
      modifyFrame fun f => { f with line := mistake.line }
      fail mistake.text
    | .ok none => setStatus last; return .next
    | .ok (some command) =>
      match ← execute fuel p command with
      | .next =>
        let cursor := { after with aliases := (← frame).aliases }
        evaluate fuel p cursor (← frame).status
      | flow => return flow

/-- Runs the traps of the signals that came. -/
def runTraps (fuel : Nat) : Script Flow :=
  match fuel with
  | 0 => return .next
  | fuel + 1 => do
    if (← get).pending.isEmpty then return .next
    match ← nextTrap with
    | none => return .next
    | some action =>
      let before ← frame
      let status := before.interrupted.getD before.status
      modifyFrame fun f => { f with interrupted := some status }
      let restore : Script Unit := modifyFrame fun f => { f with interrupted := before.interrupted }
      let flow ← finally' (evaluate fuel {} { rest := action, aliases := before.aliases } 0) restore
      if flow ≠ .back then setStatus status
      match flow with
      | .next => runTraps fuel
      | flow => return flow

/-- Runs the trap for the end of a script or a subshell. -/
def conclude (fuel : Nat) : Script Unit :=
  match fuel with
  | 0 => return
  | fuel + 1 => do
    let f ← frame
    match f.traps.lookup 0 with
    | none => return
    | some action =>
      modifyFrame fun f =>
        { f with traps := f.traps.filter (·.1 ≠ 0), interrupted := some f.status, loops := 0 }
      tryCatch (do
        let _ ← evaluate fuel {} { rest := action, aliases := f.aliases } 0
        setStatus f.status) fun
        | .killed n => throw (.killed n)
        | _ => return

end

end TinyShell.Userland.Sh.Script
