import TinyShell.Files.Basic

/-!
# Finding a program

A name with a `/` is a path and is taken as it is; a bare name is looked for in the
directories of a search path. `Search.find?` gives the path to start.
-/

namespace TinyShell.Search

/-- What divides the directories of a search path. -/
def colon : UInt8 := 0x3A

/-- Every directory of a search path. Empty ones are kept and mean the working directory. -/
def directories (search : Bytes) : List Bytes := search.splitOn colon

variable (files : Files) (cwd : Inode)

/-- The node a path leads to, links followed, if it can be examined. -/
def examine (path : Bytes) : Option Node :=
  if path.contains nul then none
  else match files.find cwd path with
    | .ok i => files.node? i
    | .error _ => none

/-- Whether any of the three permissions to execute is given. -/
def anyExecute (mode : Nat) : Bool := mode &&& 0o111 != 0

def isProgram : Node → Bool
  | .file mode _ => anyExecute mode
  | _ => false

def candidates (search name : Bytes) : List Bytes :=
  (directories search).map (Path.join · name)

def onPath (search name : Bytes) : Option Bytes :=
  (candidates search name).find? fun path => (examine files cwd path).any isProgram

def asPath (name : Bytes) : Option Bytes :=
  if (examine files cwd name).isSome then some name else none

/-- The path to start for `name`: nothing in the normal form of a path but a single
component, spelled as the name is, makes it a name to search for. -/
def find? (search name : Bytes) : Option Bytes :=
  if Path.isAbsolute name then asPath files cwd name
  else match Path.components name with
    | [] => none
    | [component] =>
      if component.text = name then onPath files cwd search name else asPath files cwd name
    | _ => asPath files cwd name

end TinyShell.Search
