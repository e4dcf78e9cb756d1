import TinyShell.Userland.Sh.Arguments

/-!
# The working directory of a script

A script knows its working directory by the way it was reached, so that `..` leads back.
-/

namespace TinyShell.Userland.Sh.Script

/-- Takes names on a path one by one: `..` takes one back. -/
def normalize (names : List Bytes) : List Bytes :=
  (names.foldl (fun done name =>
    if name = Path.dot then done
    else if name = Path.dotDot then done.drop 1
    else name :: done) []).reverse

/-- The way to a directory from where the script is, if that is known. -/
def wayTo (place : Option Bytes) (target : Bytes) : Option Bytes :=
  let isDouble : Bool := match target with
    | 0x2F :: 0x2F :: b :: _ => b != slash
    | [0x2F, 0x2F] => true
    | _ => false
  if Path.isAbsolute target then
    some ((if isDouble then [slash] else []) ++ Path.absolute (normalize (Path.names target)))
  else place.map fun here => Path.absolute (normalize (Path.names here ++ Path.names target))

/-- The path of the working directory in the tree. Says so if there is none. -/
def physical : Script (Option Bytes) := do
  let s ← get
  match s.files.pathOf s.frame.cwd with
  | some path => return some path
  | none =>
    complain (utf8 ("getcwd() failed: " ++ Errno.noEntry.text))
    return none

/-- Goes to a directory, if it can be entered. -/
def enter (isLogical : Bool) (target : Bytes) : Script Bool := do
  let s ← get
  let way := if isLogical then wayTo s.frame.place target else none
  match s.files.enter s.frame.cwd (way.getD target) with
  | .error _ => return false
  | .ok cwd =>
    let mark (v : Variable) : Variable := { v with isExported := true }
    declare (utf8 "OLDPWD") (some (s.frame.place.getD [])) mark
    modifyFrame fun f => { f with cwd }
    let place ← match way with
      | some way => pure (some way)
      | none => physical
    modifyFrame fun f => { f with place }
    declare (utf8 "PWD") (some (place.getD [])) mark
    return true

/-- Whether a directory is looked for from the places in `CDPATH`. -/
def isSought (target : Bytes) : Bool :=
  !Path.isAbsolute target && match Path.names target with
    | first :: _ => first != Path.dot && first != Path.dotDot
    | [] => true

/-- The first place in `CDPATH` from which a directory can be reached, and whether that is
to be said. -/
def sought (target : Bytes) : Script (Option (Bytes × Bool)) := do
  let s ← get
  match ← value? (utf8 "CDPATH") with
  | none => return none
  | some [] => return none
  | some places =>
    let paths := (places.splitOn 0x3A).map fun place =>
      if place.isEmpty then (target, false) else (place ++ slash :: target, true)
    return paths.find? fun (path, _) =>
      ((s.files.find s.frame.cwd path).toOption.bind s.files.directory?).isSome

def changeDirectory (args : List Bytes) : Script Nat := do
  let (found, rest) ← options "LP" args
  let isLogical := (found.getLast?.map (·.1)) ≠ some 0x50
  let isBack := rest.head? = some [0x2D]
  let target ← match rest with
    | [] => pure ((← value? (utf8 "HOME")).getD [])
    | [0x2D] :: _ => pure ((← value? (utf8 "OLDPWD")).getD [])
    | target :: _ => pure target
  let (path, isSaid) ← if isSought target then
      let target := if target.isEmpty then Path.dot else target
      pure ((← sought target).getD (target, false))
    else pure (target, false)
  if !(← enter isLogical path) then fail (utf8 "can't cd to " ++ target)
  if isBack || isSaid then print (line ((← frame).place.getD [])) else return 0

def printDirectory (args : List Bytes) : Script Nat := do
  let (found, _) ← options "LP" args
  let s ← get
  let isPhysical := (found.getLast?.map (·.1)) = some 0x50
  let path := if isPhysical then s.files.pathOf s.frame.cwd else s.frame.place
  print (line (path.getD []))

end TinyShell.Userland.Sh.Script
