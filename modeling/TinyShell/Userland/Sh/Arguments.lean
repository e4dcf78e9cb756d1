import TinyShell.Userland.Sh.Arithmetic
import TinyShell.Userland.Sh.State

/-!
# Arguments of commands

How the commands the interpreter runs itself read their arguments, and how they print.
-/

namespace TinyShell.Userland.Sh.Script

/-- The largest number a command takes. -/
def numberMax : Nat := 2147483647

/-- A number that is not negative. -/
def number (text : Bytes) : Script Nat := do
  match Arithmetic.decimal? text with
  | some (.ofNat n) => if n ≤ numberMax then return n
  | _ => pure ()
  fail (utf8 "Illegal number: " ++ text)

/-- Reads options, each a letter, with its argument if `taking` has the letter. What follows
the options is left. -/
def optionsWith (known taking : String) : (fuel : Nat) → List Bytes →
    Script (List (UInt8 × Bytes) × List Bytes)
  | 0, args => return ([], args)
  | fuel + 1, args => do
    match args with
    | [0x2D, 0x2D] :: rest => return ([], rest)
    | (0x2D :: letter :: letters) :: rest =>
      if (utf8 taking).contains letter then
        match letters, rest with
        | [], [] => fail (utf8 "No arg for -" ++ [letter] ++ utf8 " option")
        | [], value :: rest =>
          let (found, rest) ← optionsWith known taking fuel rest
          return ((letter, value) :: found, rest)
        | value, rest =>
          let (found, rest) ← optionsWith known taking fuel rest
          return ((letter, value) :: found, rest)
      else if !(utf8 known).contains letter then fail (utf8 "Illegal option -" ++ [letter])
      else
        let (found, rest) ← optionsWith known taking fuel
          (if letters.isEmpty then rest else (0x2D :: letters) :: rest)
        return ((letter, []) :: found, rest)
    | rest => return ([], rest)

/-- Reads the options of a command. -/
def options (known : String) (args : List Bytes) (taking : String := "") :
    Script (List (UInt8 × Bytes) × List Bytes) :=
  optionsWith known taking (total (·.length + 1) args + 1) args

/-- Reads the options of a command that has none. -/
def operands (args : List Bytes) : Script (List Bytes) := do return (← options "" args).2

/-- Prints the output of a command, and gives its status. -/
def print (text : Bytes) (status : Nat := 0) : Script Nat := do
  if ← put 1 text then return status
  let command := (← frame).command.getD []
  complain (command ++ utf8 ": I/O error")
  return status ||| 1

def line (text : Bytes) : Bytes := text ++ [newline]

/-- An argument that gives a name a value, or only names it. -/
def assignmentOf (argument : Bytes) : Bytes × Option Bytes :=
  let name := argument.takeWhile (· != 0x3D)
  (name, if name.length < argument.length then some (argument.drop (name.length + 1)) else none)

end TinyShell.Userland.Sh.Script
