import TinyShell.Files.Basic

/-!
# Changing the file tree

Each operation gives the new tree or the kernel's refusal. Only `makeDirectory` is the
shell's own; the others are for the programs it starts.
-/

namespace TinyShell.Files

def setNode (files : Files) (i : Inode) (node : Node) : Files :=
  ⟨files.nodes.setIfInBounds i node⟩

def modifyDirectory (files : Files) (i : Inode) (f : Directory → Directory) : Files :=
  match files.directory? i with
  | some d => files.setNode i (.directory (f d))
  | none => files

/-- Adds a node and an entry for it. -/
def place (files : Files) (parent : Inode) (name : Bytes) (node : Node) : Files :=
  let files' := files.modifyDirectory parent fun d =>
    { d with entries := (name, files.nodes.size) :: d.entries }
  ⟨files'.nodes.push node⟩

/-- Where a new entry goes: refused if the name is taken, or is no name to give. Only the
name of a directory may end in a slash. -/
def vacancy (files : Files) (cwd : Inode) (path : Bytes) (forDirectory : Bool) :
    Except Errno (Inode × Bytes) := do
  let (parent, last?) ← files.findParent cwd path
  let some name := last? | throw .present
  if name = Path.dot ∨ name = Path.dotDot then throw .present
  match files.directory? parent with
  | none => throw .notDirectory
  | some d =>
    if d.removed then throw .noEntry
    if nameMax < name.length then throw .nameTooLong
    if (d.lookup name).isSome then throw .present
    if Path.endsWithSlash path && !forDirectory then throw .noEntry
    if !d.permits .write then throw .access
    return (parent, name)

/-- The bit of a mode that new directories take over from the one they are in. -/
def inherited : Nat := 0o2000

/-- An empty directory of this mode at `path`. -/
def makeDirectory (files : Files) (cwd : Inode) (path : Bytes) (mode : Nat) :
    Except Errno Files := do
  let (parent, name) ← files.vacancy cwd path true
  let mode := mode ||| ((files.mode? parent).getD 0 &&& inherited)
  return files.place parent name (.directory { mode, parent, name })

def makeLink (files : Files) (cwd : Inode) (path target : Bytes) : Except Errno Files := do
  if target.isEmpty then throw .noEntry
  let (parent, name) ← files.vacancy cwd path false
  return files.place parent name (.link target)

/-- A second name, at `path`, for a file. -/
def makeName (files : Files) (cwd : Inode) (path : Bytes) (i : Inode) : Except Errno Files := do
  let (parent, name) ← files.vacancy cwd path false
  return files.modifyDirectory parent fun d => { d with entries := (name, i) :: d.entries }

/-- Makes the file a path leads to, which is missing. A link named last is followed, up to a
number of times. -/
def makeFile (files : Files) (cwd : Inode) (mode : Nat) : (budget : Nat) → (path : Bytes) →
    Except Errno (Inode × Files)
  | 0, _ => .error .linkLoop
  | budget + 1, path => do
    let (parent, last?) ← files.findParent cwd path
    if Path.endsWithSlash path then throw .isDirectory
    match last?.bind fun name => (files.directory? parent).bind (·.lookup name) with
    | some i =>
      match files.node? i with
      | some (.link target) => files.makeFile parent mode budget target
      | _ => throw .present
    | none =>
      let (parent, name) ← files.vacancy cwd path false
      return (files.nodes.size, files.place parent name (.file mode []))

/-- The file a path leads to, for writing: an empty one is made if there is none. -/
def openFile (files : Files) (cwd : Inode) (path : Bytes) (mode : Nat) :
    Except Errno (Inode × Files) :=
  match files.find cwd path with
  | .ok i =>
    if (files.directory? i).isSome then .error .isDirectory
    else if files.permits i .write then .ok (i, files)
    else .error .access
  | .error .noEntry => files.makeFile cwd mode linkMax path
  | .error e => .error e

def content (files : Files) (i : Inode) : Bytes :=
  match files.node? i with
  | some (.file _ content) => content
  | _ => []

def setContent (files : Files) (i : Inode) (content : Bytes) : Files :=
  match files.node? i with
  | some (.file mode _) => files.setNode i (.file mode content)
  | _ => files

def setMode (files : Files) (i : Inode) (mode : Nat) : Files :=
  match files.node? i with
  | some (.file _ content) => files.setNode i (.file mode content)
  | some (.directory d) => files.setNode i (.directory { d with mode })
  | _ => files

/-- The entry of this name in a directory. -/
def entry? (files : Files) (parent : Inode) (name : Bytes) : Except Errno Inode := do
  let some d := files.directory? parent | throw .notDirectory
  if d.removed then throw .noEntry
  if nameMax < name.length then throw .nameTooLong
  match d.lookup name with
  | some i => return i
  | none => throw .noEntry

def dropEntry (files : Files) (parent : Inode) (name : Bytes) : Files :=
  files.modifyDirectory parent fun d => { d with entries := d.entries.filter (·.1 ≠ name) }

/-- Removes an empty directory; who works in it stays there. -/
def removeDirectory (files : Files) (cwd : Inode) (path : Bytes) : Except Errno Files := do
  let (parent, last?) ← files.findParent cwd path
  let some name := last? | throw .busy
  if name = Path.dot then throw .invalid
  if name = Path.dotDot then throw .notEmpty
  let i ← files.entry? parent name
  if !files.permits parent .write then throw .access
  let some d := files.directory? i | throw .notDirectory
  if !d.entries.isEmpty then throw .notEmpty
  return (files.dropEntry parent name).setNode i (.directory { d with removed := true })

/-- Removes an entry that is no directory. -/
def unlink (files : Files) (cwd : Inode) (path : Bytes) : Except Errno Files := do
  let (parent, last?) ← files.findParent cwd path
  let some name := last? | throw .isDirectory
  if name = Path.dot ∨ name = Path.dotDot then throw .isDirectory
  let i ← files.entry? parent name
  let isDirectory := (files.directory? i).isSome
  if Path.endsWithSlash path then throw (if isDirectory then .isDirectory else .notDirectory)
  if !files.permits parent .write then throw .access
  if isDirectory then throw .isDirectory
  return files.dropEntry parent name

end TinyShell.Files
