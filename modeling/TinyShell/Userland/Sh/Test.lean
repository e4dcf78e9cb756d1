import TinyShell.Files.Basic
import TinyShell.Userland.Sh.Arithmetic

/-!
# Conditions

The conditions of `test`: on texts, numbers and files.
-/

namespace TinyShell.Userland.Sh.Test

/-- Reads what is left of the arguments. A mistake is given as a text. -/
abbrev Judgement := StateT (List Bytes) (Except Bytes)

def unaries : List String :=
  ["-b", "-c", "-d", "-e", "-f", "-g", "-G", "-h", "-k", "-L", "-n", "-O", "-p", "-r", "-s",
    "-S", "-t", "-u", "-w", "-x", "-z"]

def binaries : List String :=
  ["=", "!=", "<", ">", "-eq", "-ne", "-lt", "-le", "-gt", "-ge", "-nt", "-ot", "-ef"]

def isUnary (text : Bytes) : Bool := (unaries.map utf8).contains text

def isBinary (text : Bytes) : Bool := (binaries.map utf8).contains text

def number (text : Bytes) : Except Bytes Int :=
  match Arithmetic.decimal? text with
  | some n => .ok n
  | none => .error (utf8 "Illegal number: " ++ text)

def fail {α : Type} (operator : Option Bytes) (text : String) : Judgement α :=
  throw (match operator with
    | none | some [] => utf8 text
    | some operator => operator ++ utf8 ": " ++ utf8 text)

variable (files : Files) (cwd : Inode)

def holdsOfFile (letter : UInt8) (path : Bytes) : Bool :=
  let found := (files.find cwd path).toOption
  let node := found.bind files.node?
  let permits (p : Permission) : Bool := found.any (files.permits · p)
  let hasBit (bit : Nat) : Bool := (found.bind files.mode?).any (· &&& bit != 0)
  match letter, node with
  | 0x63, some .null | 0x64, some (.directory _) | 0x66, some (.file _ _)
  | 0x73, some (.directory _) => true
  | 0x73, some (.file _ content) => !content.isEmpty
  | 0x65, node | 0x47, node | 0x4F, node => node.isSome
  | 0x72, _ => permits .read
  | 0x77, _ => permits .write
  | 0x78, some .null => false
  | 0x78, _ => permits .execute
  | 0x67, _ => hasBit 0o2000
  | 0x6B, _ => hasBit 0o1000
  | 0x75, _ => hasBit 0o4000
  | 0x68, _ | 0x4C, _ =>
    match (files.findEntry cwd path).toOption.bind files.node? with
    | some (.link _) => true
    | _ => false
  | _, _ => false

def unary (operator operand : Bytes) : Except Bytes Bool :=
  match operator with
  | [_, 0x6E] => .ok !operand.isEmpty
  | [_, 0x7A] => .ok operand.isEmpty
  | [_, 0x74] => return (← number operand) < 0
  | [_, letter] => .ok (holdsOfFile files cwd letter operand)
  | _ => .ok false

def binary (a operator b : Bytes) : Except Bytes Bool :=
  let compare (holds : Int → Int → Bool) : Except Bytes Bool := do
    let a ← number a
    let b ← number b
    return holds a b
  if operator = utf8 "=" then .ok (a = b)
  else if operator = utf8 "!=" then .ok (a ≠ b)
  else if operator = utf8 "<" then .ok (lexLe a b && a ≠ b)
  else if operator = utf8 ">" then .ok !(lexLe a b)
  else if operator = utf8 "-eq" then compare fun a b => a = b
  else if operator = utf8 "-ne" then compare fun a b => a ≠ b
  else if operator = utf8 "-lt" then compare fun a b => a < b
  else if operator = utf8 "-le" then compare fun a b => a ≤ b
  else if operator = utf8 "-gt" then compare fun a b => a > b
  else if operator = utf8 "-ge" then compare fun a b => a ≥ b
  else if operator = utf8 "-ef" then
    match files.find cwd a, files.find cwd b with
    | .ok i, .ok j => .ok (i = j)
    | _, _ => .ok false
  else .ok false

/-- Whether what is ahead is an operator before its operand, and not a text. -/
def isOperator : List Bytes → Bool
  | operator :: operand :: rest =>
    isUnary operator && match rest with
      | other :: _ => !(isBinary operand && other ≠ utf8 ")")
      | [] => true
  | _ => false

mutual

def alternatives : (fuel : Nat) → Judgement Bool
  | 0 => return false
  | fuel + 1 => do
    let a ← conjunction fuel
    match ← get with
    | operator :: rest =>
      if operator = utf8 "-o" then
        set rest
        let b ← alternatives fuel
        return a || b
      else return a
    | [] => return a

def conjunction : (fuel : Nat) → Judgement Bool
  | 0 => return false
  | fuel + 1 => do
    let a ← negation fuel
    match ← get with
    | operator :: rest =>
      if operator = utf8 "-a" then
        set rest
        let b ← conjunction fuel
        return a && b
      else return a
    | [] => return a

def negation : (fuel : Nat) → Judgement Bool
  | 0 => return false
  | fuel + 1 => do
    match ← get with
    | [0x21] :: rest =>
      set rest
      return !(← negation fuel)
    | _ => condition fuel

def condition : (fuel : Nat) → Judgement Bool
  | 0 => return false
  | fuel + 1 => do
    let args ← get
    match args with
    | [] => return false
    | [0x28] :: inner :: rest =>
      if inner = utf8 ")" then
        set rest
        return false
      set (inner :: rest)
      let holds ← alternatives fuel
      match ← get with
      | [0x29] :: rest => set rest; return holds
      | _ => fail none "closing paren expected"
    | a :: rest =>
      if isOperator args then
        set (rest.drop 1)
        unary files cwd a (rest.headD [])
      else match rest with
        | operator :: b =>
          if isBinary operator then
            match b with
            | [] => fail (some operator) "argument expected"
            | b :: rest => set rest; binary files cwd a operator b
          else
            set rest
            return !a.isEmpty
        | [] => set rest; return !a.isEmpty

end

/-- Evaluates arguments of which nothing should be left. -/
def whole (args : List Bytes) : Except Bytes Bool := do
  let (holds, rest) ← (alternatives files cwd (4 * args.length + 4)).run args
  if rest.isEmpty then return holds
  (fail args[args.length - rest.length - 1]? "unexpected operator").run' []

/-- Evaluates the arguments of `test`. Three or four of them are first read by their number;
`isTurned` says that a negation stands before them. -/
def runWith : (fuel : Nat) → (isTurned : Bool) → List Bytes → Except Bytes Bool
  | 0, _, _ => .ok false
  | fuel + 1, isTurned, args => do
    let holds ← match args with
      | [] => return isTurned
      | [a, operator, b] =>
        if isBinary operator then binary files cwd a operator b
        else bracketed fuel args
      | [_, _, _, _] => bracketed fuel args
      | args => whole files cwd args
    return holds != isTurned
where
  bracketed (fuel : Nat) (args : List Bytes) : Except Bytes Bool :=
    if args.head? = some (utf8 "(") && args.getLast? = some (utf8 ")") then
      whole files cwd ((args.drop 1).dropLast)
    else if args.head? = some (utf8 "!") then runWith fuel true (args.drop 1)
    else whole files cwd args

def run (args : List Bytes) : Except Bytes Bool := runWith files cwd (args.length + 1) false args

end TinyShell.Userland.Sh.Test
