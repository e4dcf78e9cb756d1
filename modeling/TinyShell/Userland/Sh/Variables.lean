import TinyShell.Userland.Sh.Arguments
import TinyShell.Userland.Sh.Fields

/-!
# The commands for variables, arguments and options

What `set`, `export`, `local`, `read`, `getopts` and their like do.
-/

namespace TinyShell.Userland.Sh.Script

/-! ## Options of the interpreter -/

/-- The names of the options with their letters, if they have one. -/
def optionNames : List (String × Option Char) :=
  [("errexit", some 'e'), ("noglob", some 'f'), ("ignoreeof", some 'I'),
    ("interactive", some 'i'), ("monitor", some 'm'), ("noexec", some 'n'), ("stdin", some 's'),
    ("xtrace", some 'x'), ("verbose", some 'v'), ("vi", some 'V'), ("emacs", some 'E'),
    ("noclobber", some 'C'), ("allexport", some 'a'), ("notify", some 'b'),
    ("nounset", some 'u'), ("privileged", some 'p'), ("nolog", none), ("debug", none)]

/-- What `$-` stands for. -/
def optionLetters : Script Bytes := do
  let on := (← frame).options
  return (optionNames.reverse.filterMap fun (_, letter) =>
    (letter.map (·.val.toUInt8)).filter on.contains)

def setOption (letter : UInt8) (isOn : Bool) : Script Unit := do
  if !optionNames.any fun (_, known) => known.map (·.val.toUInt8) = some letter then
    fail (utf8 "Illegal option -" ++ [letter])
  if letter = 0x6D && isOn then
    complain (utf8 "can't access tty; job control turned off")
    return
  modifyFrame fun f =>
    let others := f.options.filter (· ≠ letter)
    { f with options := if isOn then letter :: others else others }

/-- Sets an option by its name. -/
def setNamed (name : Bytes) (isOn : Bool) : Script Unit := do
  match optionNames.find? fun (known, _) => utf8 known = name with
  | some (_, some letter) => setOption letter.val.toUInt8 isOn
  | some (_, none) => pure ()
  | none => fail (utf8 "Illegal option -o " ++ name)

/-- Shows all options, in words or as commands that set them. -/
def showOptions (asCommands : Bool) : Script Nat := do
  let on := (← frame).options
  let isOn (letter : Option Char) : Bool := letter.any fun c => on.contains c.val.toUInt8
  if asCommands then
    print (optionNames.flatMap fun (name, letter) =>
      line (utf8 ((if isOn letter then "set -o " else "set +o ") ++ name)))
  else
    print (line (utf8 "Current option settings") ++ optionNames.flatMap fun (name, letter) =>
      let room := "".pushn ' ' (16 - name.length)
      line (utf8 (name ++ room ++ if isOn letter then "on" else "off")))

/-- How a list of options ends. -/
inductive Ending where
  | open
  /-- With `-`. -/
  | dash
  /-- With `--`. -/
  | dashes
  deriving DecidableEq

/-- Reads options of the interpreter, and leaves what follows them. -/
def setOptionsWith : (fuel : Nat) → List Bytes → Script (List Bytes × Ending)
  | 0, args => return (args, .open)
  | fuel + 1, args => do
    match args with
    | [0x2D] :: rest => return (rest, .dash)
    | [0x2D, 0x2D] :: rest => return (rest, .dashes)
    | [0x2B] :: rest => setOptionsWith fuel rest
    | (sign :: letter :: letters) :: rest =>
      if sign ≠ 0x2D && sign ≠ 0x2B then return (args, .open)
      let isOn := sign = 0x2D
      let more := if letters.isEmpty then [] else [sign :: letters]
      if letter = 0x6F then
        match rest with
        | [] => let _ ← showOptions !isOn
        | name :: _ => setNamed name isOn
        setOptionsWith fuel (more ++ rest.drop 1)
      else
        setOption letter isOn
        setOptionsWith fuel (more ++ rest)
    | args => return (args, .open)

def setOptions (args : List Bytes) : Script (List Bytes × Ending) :=
  setOptionsWith (total (·.length + 1) args + 1) args

/-! ## Variables -/

/-- Shows the variables that `holds`, each after some words. -/
def showVariables (before : String) (holds : Variable → Bool) : Script Nat := do
  let found := ((← frame).bindings.filter fun (_, v) => holds v).mergeSort fun a b => lexLe a.1 b.1
  print (found.flatMap fun (name, v) =>
    line (utf8 before ++ name ++ match v.value with
      | some value => 0x3D :: shown value
      | none => []))

def setArguments (arguments : List Bytes) : Script Unit := modifyFrame fun f =>
  { f with arguments, optionIndex := 1, optionOffset := none }

def setParameters (args : List Bytes) : Script Nat := do
  if args.isEmpty then return ← showVariables "" (·.value.isSome)
  let (rest, ending) ← setOptions args
  if ending = .dash then
    modifyFrame fun f => { f with options := f.options.filter fun b => b ≠ 0x78 && b ≠ 0x76 }
  if !rest.isEmpty || ending = .dashes then setArguments rest
  return 0

/-- Marks variables, which may be given values, or shows those that have the mark. -/
def mark (command : String) (has : Variable → Bool) (give : Variable → Variable)
    (args : List Bytes) : Script Nat := do
  let (found, rest) ← options "p" args
  if !found.isEmpty || rest.isEmpty then showVariables (command ++ " ") has
  else
    for argument in rest do
      let (name, value) := assignmentOf argument
      declare name value give
    return 0

def exportVariables : List Bytes → Script Nat :=
  mark "export" (·.isExported) fun v => { v with isExported := true }

def protectVariables : List Bytes → Script Nat :=
  mark "readonly" (·.isReadOnly) fun v => { v with isReadOnly := true }

/-- Makes variables the function's own: they are given back when it ends. -/
def localize (args : List Bytes) : Script Nat := do
  if (← frame).scopes.isEmpty then fail (utf8 "not in a function")
  for argument in ← operands args do
    let (name, value) := assignmentOf argument
    if name = optionsName then keep name
    else
      if Reader.isName name then keep name
      declare name value id
  return 0

def unset (args : List Bytes) : Script Nat := do
  let (found, rest) ← options "vf" args
  for name in rest do
    if (found.getLast?.map (·.1)) = some 0x66 then
      modifyFrame fun f => { f with functions := f.functions.filter (·.1 ≠ name) }
    else
      let name := name.takeWhile (· != 0x3D)
      if !Reader.isName name then fail (name ++ utf8 ": bad variable name")
      unsetVariable name
  return 0

def shift (args : List Bytes) : Script Nat := do
  let count ← match args with
    | [] => pure 1
    | text :: _ => number text
  let arguments := (← frame).arguments
  if arguments.length < count then fail (utf8 "can't shift that many")
  setArguments (arguments.drop count)
  return 0

/-! ## Reading -/

/-- Reads a line from a text: its atoms and how many bytes it takes, with the byte that ends
it if there is one. A backslash takes the meaning from the next byte, unless `isRaw`. -/
def lineOf (isRaw : Bool) : (fuel taken : Nat) → Bytes → List Atom → List Atom × Nat × Bool
  | 0, taken, _, done => (done.reverse, taken, false)
  | _, taken, [], done => (done.reverse, taken, false)
  | fuel + 1, taken, b :: rest, done =>
    if b = newline then (done.reverse, taken + 1, true)
    else if b = nul then lineOf isRaw fuel (taken + 1) rest done
    else if b = 0x5C && !isRaw then
      match rest with
      | [] => (done.reverse, taken + 1, false)
      | c :: rest =>
        lineOf isRaw fuel (taken + 2) rest
          (if c = newline then .start :: done else .start :: .byte c true :: done)
    else lineOf isRaw fuel (taken + 1) rest (.loose b :: done)

/-- Reads a line into variables. -/
def read (args : List Bytes) : Script Nat := do
  let (found, names) ← options "r" args "p"
  if names.isEmpty then fail (utf8 "arg count")
  let rest := (← readable 0).rest
  let (atoms, taken, isEnded) :=
    lineOf (found.any (·.1 = 0x72)) (rest.length + 1) 0 rest []
  consume 0 taken
  let parts := fields (← separators) blanks (some names.length) atoms
  for (name, n) in names.zipIdx do
    declare name (some (Pattern.text (parts.getD n []))) id
  return if isEnded then 0 else 1

/-! ## Options of scripts -/

/-- What comes of reading the next option of a script. -/
structure NextOption where
  /-- What the variable is set to. -/
  letter : UInt8 := 0x3F
  argument : Option Bytes := some []
  /-- The argument to read next, and how far the one before it is read. -/
  index : Nat
  offset : Option Nat := none
  isEnd : Bool := false
  said : Bytes := []

/-- What `known` says of a letter: whether it is an option, and whether it takes a value. -/
def optionIn : (known : Bytes) → UInt8 → Option Bool
  | [], _ => none
  | b :: 0x3A :: known, letter => if b = letter then some true else optionIn known letter
  | b :: known, letter => if b = letter then some false else optionIn known letter

/-- Reads the option whose letter comes first in `text`, which stands in the argument before
`index`. -/
def readOption (known : Bytes) (args : List Bytes) (index offset : Nat) (letter : UInt8)
    (rest : Bytes) : NextOption :=
  let isSilent := known.head? = some 0x3A
  let next : Option Nat := if rest.isEmpty then none else some (offset + 1)
  let refuse (sign : UInt8) (text : String) : NextOption :=
    if isSilent then { letter := sign, argument := some [letter], index }
    else { argument := none, index, said := utf8 text ++ [letter] }
  match optionIn known letter, rest, args[index - 1]? with
  | none, _, _ =>
    let found := refuse 0x3F "Illegal option -"
    { found with
      offset := next
      said := if found.said.isEmpty then [] else found.said ++ [newline] }
  | some false, _, _ => { letter, index, offset := next }
  | some true, _ :: _, _ => { letter, argument := some rest, index }
  | some true, [], some value => { letter, argument := some value, index := index + 1 }
  | some true, [], none =>
    let found := refuse 0x3A "No arg for -"
    { found with
      said := if found.said.isEmpty then [] else found.said ++ utf8 " option\n" }

/-- The next option among the arguments. -/
def nextOption (known : Bytes) (args : List Bytes) (index : Nat) (offset : Option Nat) :
    NextOption :=
  let current := (offset.bind fun n => args[index - 2]?.map (·.drop n)).getD []
  match current, offset with
  | letter :: rest, some n => readOption known args index n letter rest
  | _, _ =>
    match args[index - 1]? with
    | some [0x2D, 0x2D] => { index := index + 1, isEnd := true, argument := none }
    | some (0x2D :: letter :: rest) => readOption known args (index + 1) 1 letter rest
    | _ => { index, isEnd := true, argument := none }

/-- Reads the next option of the script into a variable. -/
def getopts (args : List Bytes) : Script Nat := do
  match args with
  | known :: name :: rest =>
    let f ← frame
    let args := if rest.isEmpty then f.arguments else rest
    let isOver := args.length + 1 < f.optionIndex
    let found := nextOption known args (if isOver then 1 else f.optionIndex)
      (if isOver then none else f.optionOffset)
    let _ ← put 2 found.said
    if !found.isEnd then
      match found.argument with
      | some argument => setVariable (utf8 "OPTARG") argument
      | none => unsetVariable (utf8 "OPTARG")
    setVariable (utf8 "OPTIND") (decimal found.index)
    declare name (some [found.letter]) id
    modifyFrame fun f => { f with optionIndex := found.index, optionOffset := found.offset }
    return if found.isEnd then 1 else 0
  | _ => fail (utf8 "Usage: getopts optstring var [arg...]")

end TinyShell.Userland.Sh.Script
