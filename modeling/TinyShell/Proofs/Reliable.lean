import TinyShell.Proofs.Faults
import TinyShell.Proofs.Heard

/-!
# Streams that never fail

A reliable writer takes every byte (`Writer.taking`) and hands on every byte it holds
(`Writer.flushed`), so what the shell does with it can be told outright. A shell is
`Steady` if both its writers are reliable, it holds nothing back on its error stream and
its events go to no log.
-/

namespace TinyShell

/-! ## Writers -/

namespace Writer

variable {w : Writer}

theorem write_reliable (h : w.policy = .reliable) (bytes : Bytes) :
    w.write bytes = (.ok (), w.taking 1 bytes) := by
  simp [write, h, Policy.reliable]

theorem writeAll_reliable (h : w.policy = .reliable) (pieces : List Bytes) :
    w.writeAll pieces = (.ok (), w.taking pieces.length pieces.flatten) := by
  induction pieces generalizing w with
  | nil => simp [writeAll]
  | cons bytes pieces ih =>
    rw [writeAll, write_reliable h]
    simp only [ih (w := w.taking 1 bytes) h, taking_taking, List.length_cons, List.flatten_cons,
      Nat.add_comm]

theorem flush_reliable (h : w.policy = .reliable) : w.flush = (.ok w.held, w.flushed) :=
  flush_of_none (by rw [flushFault, h]; rfl)

theorem fault_reliable (h : w.policy = .reliable) (pieces : List Bytes) :
    w.fault pieces = none := by
  simp only [fault, writeAll_reliable h, flushFault, taking_policy, h]; rfl

end Writer

/-! ## Descriptors -/

/-- The bytes of these writes that are written here. -/
def Outlet.share (o : Outlet) (writes : List (Outlet × Bytes)) : Bytes :=
  (writes.filter (·.1 = o)).flatMap (·.2)

theorem Outlet.share_append (o : Outlet) (a b : List (Outlet × Bytes)) :
    o.share (a ++ b) = o.share a ++ o.share b := by
  simp [share]

namespace World

/-- These writes, and nothing else, arrived on the descriptors between `w` and `w'`. -/
structure Received (w : World) (writes : List (Outlet × Bytes)) (w' : World) : Prop where
  outputFull : w'.outputFull = w.outputFull
  output : w'.output = if w.outputFull then w.output else w.output ++ Outlet.output.share writes
  errors : w'.errors = w.errors ++ Outlet.errors.share writes

namespace Received

/-- The file tree, the working directory and the input may have changed. -/
theorem none {w w' : World} (hf : w'.outputFull = w.outputFull) (ho : w'.output = w.output)
    (he : w'.errors = w.errors) : w.Received [] w' :=
  ⟨hf, by simp [ho, Outlet.share], by simp [he, Outlet.share]⟩

theorem refl (w : World) : w.Received [] w := none rfl rfl rfl

theorem trans {w₁ w₂ w₃ : World} {a b : List (Outlet × Bytes)} (h₁ : w₁.Received a w₂)
    (h₂ : w₂.Received b w₃) : w₁.Received (a ++ b) w₃ where
  outputFull := h₂.outputFull.trans h₁.outputFull
  output := by
    rw [h₂.output, h₁.outputFull, h₁.output, Outlet.share_append]
    split <;> simp
  errors := by rw [h₂.errors, h₁.errors, Outlet.share_append, List.append_assoc]

theorem write (w : World) (one : Outlet × Bytes) : w.Received [one] (w.write one) := by
  rcases one with ⟨_ | _, bytes⟩
  · refine ⟨?_, ?_, ?_⟩ <;> simp only [World.write, putOutput] <;> split <;>
      simp [Outlet.share, *]
  · exact ⟨rfl, by simp [World.write, putErrors, Outlet.share],
      by simp [World.write, putErrors, Outlet.share]⟩

theorem writes (w : World) (writes : List (Outlet × Bytes)) :
    w.Received writes (writes.foldl World.write w) := by
  induction writes generalizing w with
  | nil => exact refl w
  | cons one writes ih => exact (write w one).trans (ih (w.write one))

/-- What was received can be told by what there is more of. -/
theorem summary {w w' : World} {writes : List (Outlet × Bytes)}
    (h : w.Received writes w') :
    w.Received [(.output, w'.output.drop w.output.length),
      (.errors, w'.errors.drop w.errors.length)] w' := by
  refine ⟨h.outputFull, ?_, ?_⟩
  · rw [h.output]
    split <;> simp [Outlet.share]
  · rw [h.errors]
    simp [Outlet.share]

end Received

@[simp] theorem putOutput_nil (w : World) : w.putOutput [] = w := by
  unfold putOutput; split <;> simp

@[simp] theorem putErrors_nil (w : World) : w.putErrors [] = w := by
  simp [putErrors]

theorem putOutput_append (w : World) (a b : Bytes) :
    w.putOutput (a ++ b) = (w.putOutput a).putOutput b := by
  simp only [putOutput_eq, heard]; split <;> simp

theorem putErrors_putOutput (w : World) (a b : Bytes) :
    (w.putErrors a).putOutput b = (w.putOutput b).putErrors a := by
  simp only [putOutput_eq, putErrors, heard]

end World

/-! ## Shells -/

namespace Shell

theorem flushOut_reliable {sh : Shell} (h : sh.out.policy = .reliable) :
    sh.flushOut = (.ok (), { sh with
      out := sh.out.flushed, world := sh.world.putOutput sh.out.held }) := by
  rw [flushOut, Writer.flush_reliable h]

theorem ask_reliable {sh : Shell} (h : sh.out.policy = .reliable) (prompt : String) :
    sh.ask prompt = (.ok (), { sh with
      out := (sh.out.taking 1 (utf8 prompt)).flushed
      world := sh.world.putOutput (sh.out.held ++ utf8 prompt) }) := by
  rw [ask, Writer.write_reliable h]
  exact flushOut_reliable h

@[simp] theorem emitAll_out (sh : Shell) (events : List Event) :
    (sh.emitAll events).out = sh.out := by
  induction events generalizing sh with
  | nil => rfl
  | cons e events ih => exact ih (sh.emit e)

@[simp] theorem emitAll_err (sh : Shell) (events : List Event) :
    (sh.emitAll events).err = sh.err := by
  induction events generalizing sh with
  | nil => rfl
  | cons e events ih => exact ih (sh.emit e)

@[simp] theorem hushed_emitAll (sh : Shell) (events : List Event) :
    (sh.emitAll events).world.hushed = sh.world.hushed := by
  induction events generalizing sh with
  | nil => rfl
  | cons e events ih => exact ih (sh.emit e)

/-- What a program does has no say in whether its status is known. -/
theorem wait_host (sh : Shell) (command : Command) (started : Started) (status : ExitStatus) :
    command.wait (sh.host command started).2.world status = command.wait sh.world status := by
  have hw : (sh.host command started).2.world.waitFailure = sh.world.waitFailure :=
    World.waitFailure_apply _ _
  rw [Command.wait, hw]; rfl

structure Steady (sh : Shell) : Prop where
  out : sh.out.policy = .reliable
  err : sh.err.policy = .reliable
  held : sh.err.held = []
  log : sh.log = fun _ => []

/-- A shell with new writers, in a world. -/
theorem steady_new (w : World) : ({ world := w } : Shell).Steady := ⟨rfl, rfl, rfl, rfl⟩

theorem emitAll_silent {sh : Shell} (h : sh.log = fun _ => []) (events : List Event) :
    sh.emitAll events = { sh with trace := sh.trace ++ events } := by
  induction events generalizing sh with
  | nil => simp [emitAll]
  | cons e events ih =>
    have he : sh.emit e = { sh with trace := sh.trace ++ [e] } := by simp [emit, h]
    rw [emitAll, List.foldl_cons, he]
    simpa [emitAll] using ih (show ({ sh with trace := sh.trace ++ [e] } : Shell).log = _ from h)

theorem emit_silent {sh : Shell} (h : sh.log = fun _ => []) (e : Event) :
    sh.emit e = { sh with trace := sh.trace ++ [e] } :=
  emitAll_silent h [e]

theorem carryOn_steady {sh : Shell} (h : sh.Steady) (text : String) :
    sh.carryOn text = (.ok .continue, { sh with
      err := (sh.err.taking (diagnosticPieces text).length (diagnostic text)).flushed
      world := sh.world.putErrors (diagnostic text) }) := by
  have htold := carryOn_told (Writer.fault_reliable h.err (diagnosticPieces text))
  rwa [h.held, List.nil_append] at htold

end Shell

end TinyShell
