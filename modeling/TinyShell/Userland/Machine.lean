import TinyShell.Userland.Sh.Invocation
import TinyShell.Userland.Tool.Text
import TinyShell.Userland.Tool.Tree

/-!
# A machine to try the shell on

A small file tree with the tools in `/usr/bin`, and what the programs in it do. An
executable file holds a tool if its content is the image of the tool.
-/

namespace TinyShell.Userland.Machine

/-- How files of machine code begin. -/
def magic : Bytes := 0x7F :: utf8 "ELF"

def image (name : String) : Bytes := magic ++ utf8 name

def tools : List (String × Program) :=
  [("cat", Tool.cat), ("echo", Tool.echo), ("false", Tool.succeed 1), ("ln", Tool.ln),
    ("mkdir", Tool.mkdir), ("printf", Tool.printf), ("rm", Tool.rm), ("rmdir", Tool.rmdir),
    ("sleep", Tool.sleep), ("touch", Tool.touch), ("true", Tool.succeed 0)]

def interpreter : String := "sh"

/-- What images do. Scripts may start scripts, to some depth. -/
def programsTo : (depth : Nat) → Programs
  | 0, image => lookUp image
  | depth + 1, code =>
    if code = image interpreter then some (Sh.program (programsTo depth)) else lookUp code
where
  /-- A tool by its image. -/
  lookUp (code : Bytes) : Option Program :=
    (tools.find? fun (name, _) => image name = code).map (·.2)

/-- The most scripts that run one within another. -/
def depth : Nat := 200

def programs : Programs := programsTo depth

def directory (mode : Nat) (parent : Inode) (name : String) : Node :=
  .directory { mode, parent, name := utf8 name }

/-- A tree with nothing but its root. -/
def bare : Files := ⟨#[directory 0o555 Files.root ""]⟩

/-- Adds a node below a directory, and gives its place. -/
def add (files : Files) (parent : Inode) (name : String) (node : Node) : Files × Inode :=
  (files.place parent (utf8 name) node, files.nodes.size)

/-- Adds an empty directory that cannot be changed. -/
def addEmpty (parent : Inode) (files : Files) (name : String) : Files :=
  (add files parent name (directory 0o555 parent name)).1

/-- The link below the root to a directory below `usr`. -/
def addLink (files : Files) (name : String) : Files :=
  (add files Files.root name (.link (utf8 ("usr/" ++ name)))).1

def files : Files :=
  let (files, usr) := add bare Files.root "usr" (directory 0o555 Files.root "usr")
  let (files, bin) := add files usr "bin" (directory 0o555 usr "bin")
  let files := ["lib", "lib64", "local", "sbin", "share"].foldl (addEmpty usr) files
  let files := ["bin", "lib", "lib64", "sbin"].foldl addLink files
  let (files, dev) := add files Files.root "dev" (directory 0o555 Files.root "dev")
  let (files, _) := add files dev "null" .null
  let files := ["boot", "etc", "home", "media", "mnt", "opt", "proc", "run", "srv", "sys",
    "var"].foldl (addEmpty Files.root) files
  let (files, _) := add files Files.root "root" (directory 0 Files.root "root")
  let (files, _) := add files Files.root "tmp" (directory 0o1777 Files.root "tmp")
  (interpreter :: tools.map (·.1)).foldl (fun files name =>
    (add files bin name (.file 0o555 (image name))).1) files

end TinyShell.Userland.Machine
