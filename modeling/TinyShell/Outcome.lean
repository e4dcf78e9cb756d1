/-!
# Outcomes

`Continuation` is what one command asks of the session, `Shutdown` is how a session ends,
`ExitStatus` is how a child process does.
-/

namespace TinyShell

inductive Continuation where
  | «continue»
  | terminate
  deriving DecidableEq, Repr

inductive Shutdown where
  | exit
  | endOfInput
  deriving DecidableEq, Repr

inductive ExitStatus where
  | exited (code : Nat)
  | killed (signal : Nat)
  deriving DecidableEq, Repr

end TinyShell
