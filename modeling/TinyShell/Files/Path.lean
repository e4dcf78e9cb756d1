import TinyShell.Bytes

/-!
# Paths

`Path.names` are the names on a path, `Path.steps` the steps that a lookup takes, and
`Path.components` its normal form, in which `.` counts only as the first component.
-/

namespace TinyShell.Path

def dot : Bytes := [0x2E]

def dotDot : Bytes := [0x2E, 0x2E]

def isAbsolute (path : Bytes) : Bool := path.head? == some slash

def endsWithSlash (path : Bytes) : Bool := path.getLast? == some slash

def names (path : Bytes) : List Bytes := (path.splitOn slash).filter (!·.isEmpty)

/-- A `/` at the end is an empty step: it asks for a directory and leads nowhere else. -/
def steps (path : Bytes) : List Bytes :=
  if endsWithSlash path && !(names path).isEmpty then names path ++ [[]] else names path

inductive Component where
  | root
  | current
  | parent
  | normal (name : Bytes)
  deriving DecidableEq, Repr

def Component.text : Component → Bytes
  | root => [slash]
  | current => dot
  | parent => dotDot
  | normal name => name

def Component.ofName (name : Bytes) : Component :=
  if name = dot then .current else if name = dotDot then .parent else .normal name

def components (path : Bytes) : List Component :=
  let parts := (names path).map Component.ofName
  if isAbsolute path then .root :: parts.filter (· ≠ .current)
  else match parts with
    | [] => []
    | first :: rest => first :: rest.filter (· ≠ .current)

/-- `name` in the directory `base`, where no directory at all is named by the empty text. -/
def join (base name : Bytes) : Bytes :=
  if base.isEmpty || endsWithSlash base then base ++ name else base ++ slash :: name

/-- The absolute path with these names. -/
def absolute (names : List Bytes) : Bytes :=
  if names.isEmpty then [slash] else names.flatMap (slash :: ·)

end TinyShell.Path
