import TinyShell.Bytes

/-!
# Signals

Names and numbers of signals, and what they do to a process that has made no arrangements.
-/

namespace TinyShell.Userland.Signal

/-- The highest number of a signal. -/
def last : Nat := 64

/-- The first and the last signal without a meaning of its own. -/
def firstFree : Nat := 34

def names : List (String × Nat) :=
  [("HUP", 1), ("INT", 2), ("QUIT", 3), ("ILL", 4), ("TRAP", 5), ("ABRT", 6), ("BUS", 7),
    ("FPE", 8), ("KILL", 9), ("USR1", 10), ("SEGV", 11), ("USR2", 12), ("PIPE", 13),
    ("ALRM", 14), ("TERM", 15), ("CHLD", 17), ("CONT", 18), ("STOP", 19), ("TSTP", 20),
    ("TTIN", 21), ("TTOU", 22), ("URG", 23), ("XCPU", 24), ("XFSZ", 25), ("VTALRM", 26),
    ("PROF", 27), ("WINCH", 28), ("IO", 29), ("PWR", 30), ("SYS", 31)]

/-- The name of a signal: those without a meaning are counted from the first or to the last,
and some have no name but their number. -/
def name (n : Nat) : String :=
  match names.find? (·.2 = n) with
  | some (name, _) => name
  | none =>
    if n < firstFree then toString n
    else if n = firstFree then "RTMIN"
    else if n = last then "RTMAX"
    else if n - firstFree ≤ last - n then s!"RTMIN+{n - firstFree}"
    else s!"RTMAX-{last - n}"

def isDigit (b : UInt8) : Bool := 0x30 ≤ b && b ≤ 0x39

def toUpper (b : UInt8) : UInt8 := if 0x61 ≤ b && b ≤ 0x7A then b - 0x20 else b

/-- A signal by its number, or by its name in letters of either case. -/
def parse? (text : Bytes) : Option Nat :=
  if text.isEmpty then none
  else if text.all isDigit then
    let n := text.foldl (fun n d => n * 10 + (d.toNat - 0x30)) 0
    if n ≤ last then some n else none
  else (List.range' 1 last).find? fun n => utf8 (name n) = text.map toUpper

/-- Signals that change nothing unless a process asks for them: zero is no signal, some are
ignored, and to be stopped and continued comes to the same. -/
def isHarmless (n : Nat) : Bool := [0, 17, 18, 19, 20, 21, 22, 23, 28].contains n

/-- Signals that no process can ask for. -/
def isAbsolute (n : Nat) : Bool := n = 9 || n = 19

/-- How a shell calls the end of a program by a signal, unless it keeps silent. -/
def obituary (n : Nat) : Option String :=
  if firstFree ≤ n then some s!"Real-time signal {n - firstFree}" else
  [(1, "Hangup"), (3, "Quit"), (4, "Illegal instruction"), (5, "Trace/breakpoint trap"),
    (6, "Aborted"), (7, "Bus error"), (8, "Floating point exception"), (9, "Killed"),
    (10, "User defined signal 1"), (11, "Segmentation fault"), (12, "User defined signal 2"),
    (14, "Alarm clock"), (15, "Terminated"), (16, "Stack fault"),
    (24, "CPU time limit exceeded"), (25, "File size limit exceeded"),
    (26, "Virtual timer expired"), (27, "Profiling timer expired"), (29, "I/O possible"),
    (30, "Power failure"), (31, "Bad system call")].lookup n

end TinyShell.Userland.Signal
