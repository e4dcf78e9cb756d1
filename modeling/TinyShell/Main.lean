import TinyShell.CommandLine.Run
import TinyShell.Userland.Machine

/-!
# The program

Runs the command line on a machine of its own, with what standard input holds, and prints
what arrived on the descriptors.
-/

namespace TinyShell

/-- The directory in which the program starts. -/
def startDirectory : Bytes := utf8 "/tmp"

/-- The world in which the program starts. -/
def startWorld (input : Bytes) : World :=
  let files := Userland.Machine.files
  { files, cwd := (files.find Files.root startDirectory).toOption.getD Files.root,
    environment := [(utf8 "PATH", utf8 "/usr/bin:/bin")], input := .bytes input }

def toArray (bytes : Bytes) : ByteArray := ⟨bytes.toArray⟩

end TinyShell

open TinyShell in
def main (arguments : List String) : IO UInt32 := do
  let input ← (← IO.getStdin).readToEnd
  let report := CommandLine.run Userland.Machine.programs
    { arguments := arguments.map utf8, defaultFilter := ← IO.getEnv "RUST_LOG",
      world := startWorld (utf8 input) }
  (← IO.getStdout).write (toArray report.world.output)
  (← IO.getStderr).write (toArray report.world.errors)
  return report.code.toUInt32
