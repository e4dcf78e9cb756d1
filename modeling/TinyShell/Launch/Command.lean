import TinyShell.Error
import TinyShell.Launch.Exec
import TinyShell.Text.Utf8

/-!
# Commands that are programs

`Command.resolve` decides which path a row of tokens asks for, `Command.spawn` starts it and
`Command.wait` learns how it ended. The first argument of the program is the name as it was
typed, not the path.
-/

namespace TinyShell

structure Command where
  program : Bytes
  argv : List Bytes
  deriving DecidableEq, Repr

namespace Command

/-- The name of a command: its first token. -/
def nameOf (argv : List Bytes) : Bytes := argv.headD []

def resolve (w : World) (search : Bytes) (argv : List Bytes) : Except LaunchError Command :=
  match Search.find? w.files w.cwd search (nameOf argv) with
  | some program => .ok { program, argv }
  | none => .error (.notFound (Utf8.lossy (nameOf argv)))

theorem argv_of_resolve {w : World} {search : Bytes} {argv : List Bytes} {c : Command}
    (h : resolve w search argv = .ok c) : c.argv = argv := by
  unfold resolve at h
  split at h <;> cases h
  rfl

def spawn (programs : Programs) (w : World) (c : Command) : Except LaunchError Started :=
  (Exec.spawn programs w c.program c.argv).mapError (.io (Utf8.lossy (nameOf c.argv)))

/-- The program has ended with this status; it may be that nobody is told. -/
def wait (w : World) (c : Command) (status : ExitStatus) : Except LaunchError ExitStatus :=
  match w.waitFailure with
  | none => .ok status
  | some e => .error (.io (Utf8.lossy (nameOf c.argv)) (.os e))

end Command

end TinyShell
