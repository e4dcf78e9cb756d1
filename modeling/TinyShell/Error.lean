import TinyShell.IoError

/-!
# Errors of the shell

`ShellError` ends a session, `LaunchError` is why a program could not be run and ends only
its command.
-/

namespace TinyShell

/-- Why the line editor gave no line. -/
inductive EditorError where
  | endOfInput
  | interrupted
  | io (cause : IoError)
  deriving DecidableEq, Repr

def EditorError.message : EditorError → String
  | endOfInput => "EOF"
  | interrupted => "Interrupted"
  | io cause => cause.message

inductive ShellError where
  | allocation
  | io (cause : IoError)
  | editor (cause : EditorError)
  deriving DecidableEq, Repr

def ShellError.message : ShellError → String
  | allocation => "allocation error"
  | io cause => cause.message
  | editor cause => "line editor: " ++ cause.message

inductive LaunchError where
  | notFound (name : String)
  | io (name : String) (cause : IoError)
  deriving DecidableEq, Repr

def LaunchError.message : LaunchError → String
  | notFound name => name ++ ": command not found"
  | io name cause => name ++ ": " ++ cause.message

end TinyShell
