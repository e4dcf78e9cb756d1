import TinyShell.Files.Path
import TinyShell.IoError

/-!
# The file tree

`Files` is a table of nodes; an `Inode` is a place in it and is never used again, so a
directory that was removed can still be somebody's working directory. `Files.find` follows
a path to a node as the kernel does, `Files.pathOf` names a
directory that is still in the tree, `Files.below` lists what a directory holds.
-/

namespace TinyShell

abbrev Inode := Nat

structure Directory where
  mode : Nat
  parent : Inode
  name : Bytes
  /-- Newest first, which is the order of listings. -/
  entries : List (Bytes × Inode) := []
  removed : Bool := false
  deriving DecidableEq, Repr

def Directory.lookup (d : Directory) (name : Bytes) : Option Inode :=
  (d.entries.find? (·.1 = name)).map (·.2)

/-- What can be asked of a node. The owner of the tree asks, so of a mode his three bits
count. -/
inductive Permission where
  | read
  | write
  /-- To start a program, or to take a step from a directory. -/
  | execute
  deriving DecidableEq, Repr

def Permission.bit : Permission → Nat
  | read => 0o400
  | write => 0o200
  | execute => 0o100

def Permission.isGranted (p : Permission) (mode : Nat) : Bool := mode &&& p.bit != 0

def Directory.permits (d : Directory) (p : Permission) : Bool := p.isGranted d.mode

inductive Node where
  | directory (d : Directory)
  | file (mode : Nat) (content : Bytes)
  | link (target : Bytes)
  /-- Reads as empty and swallows what is written. -/
  | null
  deriving DecidableEq, Repr

structure Files where
  nodes : Array Node
  deriving DecidableEq, Repr

namespace Files

def root : Inode := 0

def node? (files : Files) (i : Inode) : Option Node := files.nodes[i]?

def directory? (files : Files) (i : Inode) : Option Directory :=
  match files.node? i with
  | some (.directory d) => some d
  | _ => none

/-- The longest name of an entry. -/
def nameMax : Nat := 255

/-- The longest path, with the byte that ends it. -/
def pathMax : Nat := 4096

/-- The most links followed on one path. -/
def linkMax : Nat := 40

/-- Where a lookup stops. -/
inductive Stop where
  | arrived (i : Inode)
  | atLink (directory : Inode) (target : Bytes) (rest : List Bytes)
  | refused (e : Errno)

/-- Takes steps from `here` until they end or a link is to be followed. The last step
stays on a link unless `follow`. Every step but the empty one has to be permitted. -/
def descend (files : Files) (follow : Bool) (here : Inode) : List Bytes → Stop
  | [] => .arrived here
  | step :: rest =>
    match files.directory? here with
    | none => .refused .notDirectory
    | some d =>
      if step.isEmpty then files.descend follow here rest
      else if !d.permits .execute then .refused .access
      else if step = Path.dot then files.descend follow here rest
      else if step = Path.dotDot then files.descend follow d.parent rest
      else if d.removed then .refused .noEntry
      else if nameMax < step.length then .refused .nameTooLong
      else match d.lookup step with
        | none => .refused .noEntry
        | some next =>
          match files.node? next with
          | some (.link target) =>
            if rest.isEmpty && !follow then .arrived next else .atLink here target rest
          | _ => files.descend follow next rest

/-- As `descend`, following at most `budget` links. -/
def walk (files : Files) (follow : Bool) (budget : Nat) (here : Inode) (steps : List Bytes) :
    Except Errno Inode :=
  match files.descend follow here steps with
  | .arrived i => .ok i
  | .refused e => .error e
  | .atLink directory target rest =>
    match budget with
    | 0 => .error .linkLoop
    | budget + 1 =>
      files.walk follow budget (if Path.isAbsolute target then root else directory)
        (Path.steps target ++ rest)

/-- Refuses the paths that are not looked up at all. -/
def checkPath (path : Bytes) : Except Errno Unit :=
  if path.isEmpty then .error .noEntry
  else if pathMax ≤ path.length then .error .nameTooLong
  else .ok ()

def origin (cwd : Inode) (path : Bytes) : Inode := if Path.isAbsolute path then root else cwd

/-- The node a path leads to from the directory `cwd`. -/
def find (files : Files) (cwd : Inode) (path : Bytes) : Except Errno Inode := do
  checkPath path
  files.walk true linkMax (origin cwd path) (Path.steps path)

/-- As `find`, but a link named last is itself found. -/
def findEntry (files : Files) (cwd : Inode) (path : Bytes) : Except Errno Inode := do
  checkPath path
  files.walk false linkMax (origin cwd path) (Path.steps path)

/-- The directory that holds, or would hold, what a path names, and the last name on it:
`none` if the path names nothing but slashes. -/
def findParent (files : Files) (cwd : Inode) (path : Bytes) :
    Except Errno (Inode × Option Bytes) := do
  checkPath path
  let parent ← files.walk true linkMax (origin cwd path) (Path.names path).dropLast
  let some d := files.directory? parent | throw .notDirectory
  let last? := (Path.names path).getLast?
  if last?.isSome && !d.permits .execute then throw .access
  return (parent, last?)

/-- The mode of what can have one. -/
def mode? (files : Files) (i : Inode) : Option Nat :=
  match files.node? i with
  | some (.directory d) => some d.mode
  | some (.file mode _) => some mode
  | _ => none

/-- Links and the null device permit everything. -/
def permits (files : Files) (i : Inode) (p : Permission) : Bool :=
  (files.mode? i).all p.isGranted

/-- The directory a path leads to, to work in. -/
def enter (files : Files) (cwd : Inode) (path : Bytes) : Except Errno Inode := do
  let i ← files.find cwd path
  let some d := files.directory? i | throw .notDirectory
  if d.permits .execute then return i else throw .access

/-- What is in the directory `cwd`. -/
def list (files : Files) (cwd : Inode) : Except Errno Directory := do
  let some d := files.directory? cwd | throw .notDirectory
  if d.permits .execute && d.permits .read then return d else throw .access

/-- The node a path leads to, for reading. -/
def openToRead (files : Files) (cwd : Inode) (path : Bytes) : Except Errno Inode := do
  let i ← files.find cwd path
  if files.permits i .read then return i else throw .access

/-- The names on the way from the root, for a directory still in the tree. -/
def namesTo (files : Files) : (fuel : Nat) → Inode → Option (List Bytes)
  | 0, _ => none
  | fuel + 1, i =>
    if i = root then some []
    else match files.directory? i with
      | none => none
      | some d => if d.removed then none else (files.namesTo fuel d.parent).map (· ++ [d.name])

def pathOf (files : Files) (i : Inode) : Option Bytes :=
  (files.namesTo (files.nodes.size + 1) i).map Path.absolute

/-- Everything below a directory, each with its path under `base`. -/
def under (files : Files) : (fuel : Nat) → (base : Bytes) → Inode → List (Bytes × Node)
  | 0, _, _ => []
  | fuel + 1, base, i =>
    match files.directory? i with
    | none => []
    | some d => d.entries.flatMap fun (name, j) =>
      match files.node? j with
      | none => []
      | some node =>
        let path := Path.join base name
        (path, node) :: files.under fuel path j

/-- Everything below a directory, by path. -/
def below (files : Files) (i : Inode) : List (Bytes × Node) :=
  (files.under (files.nodes.size + 1) [] i).mergeSort fun a b => lexLe a.1 b.1

end Files

end TinyShell
