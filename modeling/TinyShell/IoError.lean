/-!
# Input and output errors

`Errno` names the refusals of the operating system that can reach a shell, `IoError` adds
the failures found before it is asked and those of the shell's own streams. Their texts
are `Errno.text` and `IoError.message`.
-/

namespace TinyShell

inductive Errno where
  | noEntry
  | argumentsTooLong
  | execFormat
  | badDescriptor
  | noChild
  | access
  | busy
  | present
  | notDirectory
  | isDirectory
  | invalid
  | noSpace
  | nameTooLong
  | notEmpty
  | linkLoop
  deriving DecidableEq, Repr

namespace Errno

def number : Errno → Nat
  | noEntry => 2
  | argumentsTooLong => 7
  | execFormat => 8
  | badDescriptor => 9
  | noChild => 10
  | access => 13
  | busy => 16
  | present => 17
  | notDirectory => 20
  | isDirectory => 21
  | invalid => 22
  | noSpace => 28
  | nameTooLong => 36
  | notEmpty => 39
  | linkLoop => 40

def text : Errno → String
  | noEntry => "No such file or directory"
  | argumentsTooLong => "Argument list too long"
  | execFormat => "Exec format error"
  | badDescriptor => "Bad file descriptor"
  | noChild => "No child processes"
  | access => "Permission denied"
  | busy => "Device or resource busy"
  | present => "File exists"
  | notDirectory => "Not a directory"
  | isDirectory => "Is a directory"
  | invalid => "Invalid argument"
  | noSpace => "No space left on device"
  | nameTooLong => "File name too long"
  | notEmpty => "Directory not empty"
  | linkLoop => "Too many levels of symbolic links"

end Errno

inductive IoError where
  | os (errno : Errno)
  | nulInPath
  | nulInArgument
  | notUtf8
  | stream (text : String)
  deriving DecidableEq, Repr

def IoError.message : IoError → String
  | .os e => s!"{e.text} (os error {e.number})"
  | .nulInPath => "file name contained an unexpected NUL byte"
  | .nulInArgument => "nul byte found in provided data"
  | .notUtf8 => "stream did not contain valid UTF-8"
  | .stream text => text

end TinyShell
