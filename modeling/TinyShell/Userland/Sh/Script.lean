import TinyShell.Bytes

/-!
# Scripts

What a script of the command language `sh` consists of: words, which are made of pieces,
redirections and commands.
-/

namespace TinyShell.Userland.Sh

/-- What a parameter that is unset, or perhaps one that is empty, gives instead. -/
inductive Fallback where
  /-- The word, if the parameter has no value. -/
  | default
  /-- As `default`, and the parameter gets that value. -/
  | assign
  /-- The word, if the parameter has a value. -/
  | alternative
  /-- The end of the script, with the word as the complaint. -/
  | complaint
  deriving DecidableEq, Repr

/-- What is cut off a value: the shortest or the longest part that a pattern fits. -/
structure Trim where
  fromEnd : Bool
  isLongest : Bool
  deriving DecidableEq, Repr

inductive Direction where
  | read
  | readWrite
  | write
  /-- As `write`, and takes the place of a file in any case. -/
  | overwrite
  | append
  /-- The descriptor is made a copy of another. -/
  | copy
  deriving DecidableEq, Repr

mutual

/-- A part of a word. What is quoted is kept in one field. -/
inductive Piece where
  | text (bytes : Bytes) (quoted : Bool)
  /-- As text that is not quoted, but may divide fields. -/
  | «open» (bytes : Bytes)
  | parameter (name : Bytes) (quoted : Bool)
  | orElse (name : Bytes) (how : Fallback) (orEmpty : Bool) (word : List Piece) (quoted : Bool)
  | trimmed (name : Bytes) (how : Trim) (pattern : List Piece) (quoted : Bool)
  | length (name : Bytes) (quoted : Bool)
  | arithmetic (expression : List Piece) (quoted : Bool)
  | output (body : Command) (quoted : Bool)
  /-- Braces around what is no parameter: a mistake when it is expanded. -/
  | unknown

inductive Redirection where
  | mk (descriptor : Nat) (direction : Direction) (target : List Piece)
  /-- The descriptor reads a text that stands in the script. -/
  | document (descriptor : Nat) (body : List Piece)

inductive Command where
  | nothing
  | simple (line : Nat) (assignments : List (Bytes × List Piece)) (words : List (List Piece))
      (redirections : List Redirection)
  | sequence (first second : Command)
  | both (first second : Command)
  | either (first second : Command)
  | negated (body : Command)
  /-- Each writes what the next reads. -/
  | pipe (stages : List Command)
  | background (line : Nat) (body : Command)
  | subshell (line : Nat) (body : Command) (redirections : List Redirection)
  | redirected (line : Nat) (body : Command) (redirections : List Redirection)
  | choice (condition yes no : Command)
  /-- Repeats `body` as long as the condition ends in success, or in failure. -/
  | loop (onSuccess : Bool) (condition body : Command)
  /-- Without words, for the arguments. -/
  | each (line : Nat) (name : Bytes) (words : Option (List (List Piece))) (body : Command)
  | select (line : Nat) (word : List Piece) (arms : List (List (List Piece) × Command))
  | define (name : Bytes) (body : Command)

end

instance : Inhabited Command := ⟨.nothing⟩

abbrev Word := List Piece

end TinyShell.Userland.Sh
