import TinyShell.Userland.Sh.State
import TinyShell.Userland.Sh.Script
import TinyShell.Userland.Tool.Basic

/-!
# Redirections

`Script.redirect` makes a descriptor lead to a file, or where another leads.
-/

namespace TinyShell.Userland.Sh.Script

/-- Why a file cannot be read. -/
def noFile (e : Errno) : String :=
  match e with
  | .noEntry | .notDirectory => "No such file"
  | e => e.text

/-- Why a file cannot be made. -/
def noPlace (e : Errno) : String :=
  match e with
  | .noEntry | .notDirectory => "Directory nonexistent"
  | e => e.text

def cannotOpen (path : Bytes) (e : Errno) : Bytes :=
  utf8 "cannot open " ++ path ++ utf8 (": " ++ noFile e)

def cannotCreate (path : Bytes) (e : Errno) : Bytes :=
  utf8 "cannot create " ++ path ++ utf8 (": " ++ noPlace e)

/-- Makes a descriptor lead to a file. -/
def lead (descriptor : Nat) (i : Inode) (append : Bool) : Script Unit := do
  match (← get).files.node? i with
  | some .null => setHandle descriptor (some .null)
  | _ => setHandle descriptor (some (← addChannel (.file i 0 append)))

/-- The descriptor that a text names: `none` to close one. -/
def source (target : Bytes) : Script (Option Nat) := do
  match target with
  | [0x2D] => return none
  | text =>
    if let [d] := text then
      if Reader.isDigit d then return some (d.toNat - 0x30)
    modifyFrame fun f => { f with line := f.lineAhead }
    fail (utf8 "Syntax error: Bad fd number")

/-- Makes a descriptor a copy of another. -/
def copy (descriptor : Nat) (target : Bytes) : Script (Except Bytes Unit) := do
  match ← source target with
  | none => setHandle descriptor none; return .ok ()
  | some n =>
    match ← handle? n with
    | some h => setHandle descriptor (some h); return .ok ()
    | none =>
      setHandle descriptor none
      return .error (target ++ utf8 ": Bad file descriptor")

/-- Does a redirection. What goes wrong is given as a text. -/
def redirect (descriptor : Nat) (way : Direction) (target : Bytes) :
    Script (Except Bytes Unit) := do
  let s ← get
  match way with
  | .copy => copy descriptor target
  | .read =>
    match s.files.openToRead s.frame.cwd target with
    | .error e => return .error (cannotOpen target e)
    | .ok i => lead descriptor i false; return .ok ()
  | way =>
    let found := s.files.find s.frame.cwd target
    let isKept := way = .write && s.frame.options.contains 0x43
    let isFile := match found.toOption.bind s.files.node? with
      | some (.file _ _) => true
      | _ => false
    if isKept && isFile then return .error (cannotCreate target .present)
    match s.files.openFile s.frame.cwd target (Tool.fileMode &&& (0o777 - s.frame.mask)) with
    | .error e =>
      let isOpened := way = .readWrite || (isKept && found.isOk)
      return .error (if isOpened then cannotOpen target e else cannotCreate target e)
    | .ok (i, files) =>
      let isEmptied := way = .write || way = .overwrite
      set { s with files := if isEmptied then files.setContent i [] else files }
      lead descriptor i (way = .append)
      return .ok ()

/-- Makes a descriptor read a text. -/
def provide (descriptor : Nat) (text : Bytes) : Script Unit := do
  setHandle descriptor (some (← addChannel (.memory text)))

end TinyShell.Userland.Sh.Script
