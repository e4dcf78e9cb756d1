import Mathlib.Data.List.Forall2
import TinyShell.Proofs.Course
import TinyShell.Proofs.Executions
import TinyShell.Proofs.Resolved
import TinyShell.Proofs.Script

/-!
# How programs end

The status with which a program ends is written down and has no say in anything else.
`Shell.masked` is a shell in whose record every program ended in the same way, and a session
of masked programs is the masked session (`Runs.masked`). So two sessions whose programs
differ in how they end only are the same but for that (`Shell.run_alike`).
-/

namespace TinyShell

/-! ## Records without statuses -/

/-- The status that stands for every other. -/
def ExitStatus.mask : ExitStatus := .exited 0

def Event.masked : Event → Event
  | ended _ => ended .mask
  | e => e

def Child.masked (c : Child) : Child := { c with status := .mask }

def Program.masked (p : Program) : Program := fun process => { p process with status := .mask }

def Programs.masked (programs : Programs) : Programs :=
  fun image => (programs image).map Program.masked

def Started.masked (s : Started) : Started := { s with program := s.program.masked }

def Shell.masked (sh : Shell) : Shell :=
  { sh with trace := sh.trace.map Event.masked, children := sh.children.map Child.masked }

theorem Event.masked_of_trace {e : Event} (h : e.level = .trace) : e.masked = e := by
  cases e <;> first | rfl | cases h

namespace Builtin

variable (argv : List Bytes) (w : World) (out : Writer)

/-- For want of an argument a command tells of nothing. -/
theorem forall_mem_withArgument {p : Event → Prop} (b : Builtin) {run : Bytes → Result}
    (h : ∀ argument, ∀ e ∈ (run argument).events, p e) :
    ∀ e ∈ (b.withArgument argv w out run).events, p e := by
  rcases argv with _ | ⟨_, _ | ⟨argument, _⟩⟩
  · exact List.forall_mem_nil _
  · exact List.forall_mem_nil _
  · exact h argument

/-- Built-in commands have no status to tell of. -/
theorem masked_events (b : Builtin) : ∀ e ∈ (b.execute argv w out).events, e.masked = e := by
  cases b with
  | mkdir =>
    refine forall_mem_withArgument argv w out mkdir fun path => ?_
    split
    · exact List.forall_mem_singleton.2 rfl
    · exact List.forall_mem_nil _
  | cd =>
    refine forall_mem_withArgument argv w out cd fun target => ?_
    split
    · exact List.forall_mem_singleton.2 rfl
    · exact List.forall_mem_nil _
  | echo => exact List.forall_mem_nil _
  | help => exact List.forall_mem_nil _
  | exit => exact List.forall_mem_nil _
  | pwd =>
    simp only [execute]
    split <;> exact List.forall_mem_nil _
  | ls =>
    simp only [execute]
    split <;> exact List.forall_mem_nil _

end Builtin

theorem Source.level_next (s : Source) (input : Input) :
    ∀ e ∈ (s.next input).2.1, e.level = .trace := by
  cases s with
  | stream s => exact s.level_next input
  | editor e => exact List.forall_mem_nil _

/-! ## Starting a program -/

variable {programs programs' : Programs}

namespace Exec

theorem interpret_masked (files : Files) (cwd : Inode) (depth : Nat) (image path : Bytes)
    (argv : List Bytes) :
    interpret programs.masked files cwd depth image path argv =
      (interpret programs files cwd depth image path argv).map fun (program, argv) =>
        (program.masked, argv) := by
  induction depth generalizing image path argv with
  | zero => rfl
  | succ depth ih =>
    simp only [interpret]
    split
    · next interpreter argument _ =>
      cases openInterpreter files cwd interpreter with
      | error e => rfl
      | ok image => exact ih image interpreter _
    · simp only [Programs.masked]
      cases programs image <;> rfl

theorem start_masked (w : World) (path : Bytes) (argv : List Bytes) :
    start programs.masked w path argv = (start programs w path argv).map Started.masked := by
  simp only [start_eq, interpret_masked]
  cases openImage w.files w.cwd path with
  | error e => rfl
  | ok opened =>
    simp only
    split
    · cases interpret programs w.files w.cwd depthMax opened.2 path argv <;> rfl
    · rfl

theorem startFirst_masked (w : World) (argv : List Bytes) (failure : Errno)
    (paths : List Bytes) :
    startFirst programs.masked w argv failure paths =
      (startFirst programs w argv failure paths).map Started.masked := by
  induction paths generalizing failure with
  | nil => rfl
  | cons path paths ih =>
    simp only [startFirst, start_masked]
    cases start programs w path argv with
    | ok started => rfl
    | error e =>
      cases e with
      | access => exact ih _
      | noEntry => exact ih _
      | notDirectory => exact ih _
      | _ => rfl

end Exec

namespace Command

theorem spawn_masked (w : World) (c : Command) :
    c.spawn programs.masked w = (c.spawn programs w).map Started.masked := by
  simp only [spawn, Exec.spawn, Exec.start_masked, Exec.startFirst_masked]
  split
  · rfl
  · split
    · cases Exec.start programs w c.program c.argv <;> rfl
    · cases Exec.startFirst programs w c.argv .noEntry
        (Exec.attempts w.effectiveSearchPath c.program) <;> rfl

/-- Whether a status is known does not depend on what it is. -/
theorem wait_mask (w : World) (c : Command) (status : ExitStatus) :
    c.wait w .mask = (c.wait w status).map fun _ => .mask := by
  unfold wait
  split <;> rfl

end Command

/-! ## The log -/

namespace Shell

section Log

variable (programs) (sh : Shell)

@[simp] theorem log_emit (e : Event) : (sh.emit e).log = sh.log := rfl

@[simp] theorem log_emitAll (events : List Event) : (sh.emitAll events).log = sh.log := by
  induction events generalizing sh with
  | nil => rfl
  | cons e events ih => exact ih (sh.emit e)

@[simp] theorem log_flushOut : sh.flushOut.2.log = sh.log := by
  unfold flushOut; split <;> rfl

@[simp] theorem log_carryOn (text : String) : (sh.carryOn text).2.log = sh.log := by
  unfold carryOn report flushErr
  rcases sh.err.writeAll (diagnosticPieces text) with ⟨_ | _, err⟩
  · rfl
  · simp only
    rcases err.flush with ⟨_ | _, err⟩ <;> rfl

theorem log_runBuiltin (b : Builtin) (argv : List Bytes) :
    (sh.runBuiltin b argv).2.log = sh.log := by
  unfold runBuiltin
  simp only
  split <;> simp

theorem log_launch (search : Bytes) (argv : List Bytes) :
    (sh.launch programs search argv).2.log = sh.log := by
  refine launch_cases programs sh search argv ?_ ?_ ?_ ?_ <;> intros <;> rfl

theorem log_runProgram (argv : List Bytes) : (sh.runProgram programs argv).2.log = sh.log := by
  have hflush := log_flushOut sh
  unfold runProgram
  rcases hf : sh.flushOut with ⟨_ | _, sh₁⟩ <;> rw [hf] at hflush
  · exact hflush
  · have hlaunch := log_launch programs (sh₁.emit (.launching (Command.nameOf argv)))
      (sh₁.emit (.launching (Command.nameOf argv))).world.effectiveSearchPath argv
    simp only
    split
    · next hresult => rw [hresult] at hlaunch; exact hlaunch.trans hflush
    · next hresult =>
      rw [hresult] at hlaunch
      exact (log_carryOn _ _).trans (hlaunch.trans hflush)

theorem log_execute (argv : List Bytes) : (sh.execute programs argv).2.log = sh.log := by
  cases argv with
  | nil => rfl
  | cons name args =>
    simp only [execute]
    cases Builtin.find? name with
    | some b => exact log_runBuiltin _ b _
    | none => exact log_runProgram programs sh _

theorem log_take (source : Source) : (sh.take source).2.2.log = sh.log := log_emitAll _ _

theorem log_ask (prompt : String) : (sh.ask prompt).2.log = sh.log := by
  unfold ask; split <;> simp

theorem log_readLine (prompt : String) (source : Source) :
    (sh.readLine prompt source).2.2.log = sh.log := by
  have hask := log_ask sh prompt
  unfold readLine
  split
  · rcases ha : sh.ask prompt with ⟨_ | _, sh₁⟩ <;> rw [ha] at hask
    · exact hask
    · exact (log_take sh₁ source).trans hask
  · exact log_take sh source

end Log

end Shell

/-! ## One line -/

namespace Shell

variable {sh : Shell}

/-- Its log does not show how programs end. -/
def IsBlind (sh : Shell) : Prop := ∀ e, sh.log e.masked = sh.log e

theorem IsBlind.of_log {sh' : Shell} (h : sh.IsBlind) (hlog : sh'.log = sh.log) : sh'.IsBlind :=
  fun e => by rw [hlog, h e]

theorem masked_emit (h : sh.IsBlind) (e : Event) :
    (sh.emit e).masked = sh.masked.emit e.masked := by
  simp [masked, emit, h e]

theorem masked_emitAll (h : sh.IsBlind) {events : List Event} (he : ∀ e ∈ events, e.masked = e) :
    (sh.emitAll events).masked = sh.masked.emitAll events := by
  induction events generalizing sh with
  | nil => rfl
  | cons e events ih =>
    obtain ⟨he, hevents⟩ := List.forall_mem_cons.1 he
    have hemit := masked_emit h e
    rw [he] at hemit
    rw [emitAll, List.foldl_cons, emitAll, List.foldl_cons, ← hemit]
    exact ih (show (sh.emit e).IsBlind from h) hevents

theorem masked_flushOut (sh : Shell) :
    sh.masked.flushOut = (sh.flushOut.1, sh.flushOut.2.masked) := by
  have hout : sh.masked.out = sh.out := rfl
  simp only [flushOut, hout]
  split <;> rfl

theorem masked_carryOn (sh : Shell) (text : String) :
    sh.masked.carryOn text = ((sh.carryOn text).1, (sh.carryOn text).2.masked) := by
  have herr : sh.masked.err = sh.err := rfl
  unfold carryOn report flushErr
  simp only [herr]
  rcases sh.err.writeAll (diagnosticPieces text) with ⟨_ | _, err⟩
  · rfl
  · simp only
    rcases err.flush with ⟨_ | _, err⟩ <;> rfl

theorem masked_runBuiltin (h : sh.IsBlind) (b : Builtin) (argv : List Bytes) :
    sh.masked.runBuiltin b argv =
      ((sh.runBuiltin b argv).1, (sh.runBuiltin b argv).2.masked) := by
  have hout : sh.masked.out = sh.out := rfl
  have hworld : sh.masked.world = sh.world := rfl
  have hevents := b.masked_events argv sh.world sh.out
  simp only [runBuiltin, hout, hworld]
  generalize b.execute argv sh.world sh.out = result at hevents
  have hblind : IsBlind { sh with world := result.world, out := result.out } := h
  have hemit := masked_emitAll hblind hevents
  have hmasked : ({ sh.masked with world := result.world, out := result.out } : Shell) =
    masked { sh with world := result.world, out := result.out } := rfl
  rw [hmasked, ← hemit]
  cases result.outcome with
  | ok signal => rfl
  | error complaint => exact masked_carryOn _ _

theorem masked_host (h : sh.IsBlind) (command : Command) (started : Started) :
    sh.masked.host command started.masked = (.mask, (sh.host command started).2.masked) := by
  have hemit : (sh.emit (.spawned command.program)).masked =
    sh.masked.emit (.spawned command.program) := masked_emit h (.spawned command.program)
  simp only [host, ← hemit]
  simp [masked, Child.masked, Started.masked, Program.masked, World.apply]

theorem masked_launch (h : sh.IsBlind) (search : Bytes) (argv : List Bytes) :
    sh.masked.launch programs.masked search argv =
      ((sh.launch programs search argv).1.map fun _ => .mask,
        (sh.launch programs search argv).2.masked) := by
  have hworld : sh.masked.world = sh.world := rfl
  simp only [launch, hworld, Command.spawn_masked]
  cases Command.resolve sh.world search argv with
  | error e => rfl
  | ok command =>
    simp only
    cases command.spawn programs sh.world with
    | error e => rfl
    | ok started =>
      have hblind : (sh.host command started).2.IsBlind := h
      have hleft : (sh.host command started).2.masked.world = (sh.host command started).2.world :=
        rfl
      simp only [Except.map, masked_host h, hleft,
        Command.wait_mask _ command (sh.host command started).1]
      cases command.wait (sh.host command started).2.world (sh.host command started).1 with
      | error e => rfl
      | ok status => simp only [masked_emit hblind]; rfl

theorem masked_runProgram (h : sh.IsBlind) (argv : List Bytes) :
    sh.masked.runProgram programs.masked argv =
      ((sh.runProgram programs argv).1, (sh.runProgram programs argv).2.masked) := by
  have hlog := log_flushOut sh
  simp only [runProgram, masked_flushOut]
  rcases hf : sh.flushOut with ⟨_ | _, sh₁⟩
  · rfl
  · rw [hf] at hlog
    have hblind : sh₁.IsBlind := h.of_log hlog
    obtain ⟨sh₂, hemit⟩ : ∃ sh₂, sh₁.emit (.launching (Command.nameOf argv)) = sh₂ := ⟨_, rfl⟩
    have hmasked : sh₁.masked.emit (.launching (Command.nameOf argv)) = sh₂.masked := by
      rw [← hemit]
      exact (masked_emit hblind (.launching (Command.nameOf argv))).symm
    have hworld : sh₂.masked.world = sh₂.world := rfl
    have hblind₂ : sh₂.IsBlind := hblind.of_log (by rw [← hemit]; rfl)
    simp only [hmasked, hemit, hworld, masked_launch hblind₂]
    rcases sh₂.launch programs sh₂.world.effectiveSearchPath argv with ⟨_ | _, sh₃⟩
    · exact masked_carryOn _ _
    · rfl

variable (programs) in
theorem masked_execute (h : sh.IsBlind) (argv : List Bytes) :
    sh.masked.execute programs.masked argv =
      ((sh.execute programs argv).1, (sh.execute programs argv).2.masked) := by
  cases argv with
  | nil => rfl
  | cons name args =>
    simp only [execute]
    cases Builtin.find? name with
    | some b =>
      have hemit : (sh.emit (.runningBuiltin name)).masked =
        sh.masked.emit (.runningBuiltin name) := masked_emit h (.runningBuiltin name)
      have hblind : (sh.emit (.runningBuiltin name)).IsBlind := h
      simp only [← hemit]
      exact masked_runBuiltin hblind b _
    | none => exact masked_runProgram h _

/-! ## Sessions -/

theorem masked_take (h : sh.IsBlind) (source : Source) :
    sh.masked.take source =
      ((sh.take source).1, (sh.take source).2.1, (sh.take source).2.2.masked) := by
  have hworld : sh.masked.world = sh.world := rfl
  have hlevel := source.level_next sh.world.input
  simp only [take, hworld]
  generalize source.next sh.world.input = read at hlevel
  have hblind : IsBlind { sh with world := { sh.world with input := read.2.2.2 } } := h
  have hemit := masked_emitAll hblind fun e he => Event.masked_of_trace (hlevel e he)
  rw [hemit]
  rfl

theorem masked_ask (sh : Shell) (prompt : String) :
    sh.masked.ask prompt = ((sh.ask prompt).1, (sh.ask prompt).2.masked) := by
  have hout : sh.masked.out = sh.out := rfl
  simp only [ask, hout]
  rcases sh.out.write (utf8 prompt) with ⟨_ | _, out⟩
  · rfl
  · exact masked_flushOut { sh with out }

theorem masked_readLine (h : sh.IsBlind) (prompt : String) (source : Source) :
    sh.masked.readLine prompt source = ((sh.readLine prompt source).1,
      (sh.readLine prompt source).2.1, (sh.readLine prompt source).2.2.masked) := by
  have hlog := log_ask sh prompt
  simp only [readLine, masked_ask]
  split
  · rcases ha : sh.ask prompt with ⟨_ | _, sh₁⟩
    · rfl
    · rw [ha] at hlog
      exact masked_take (h.of_log hlog) source
  · exact masked_take h source

theorem masked_readLine_eq (h : sh.IsBlind) {prompt : String} {source source' : Source}
    {reading : Except ShellError Reading} {sh' : Shell}
    (hread : sh.readLine prompt source = (reading, source', sh')) :
    sh.masked.readLine prompt source = (reading, source', sh'.masked) ∧ sh'.IsBlind := by
  have hmasked := masked_readLine h prompt source
  have hlog := sh.log_readLine prompt source
  rw [hread] at hmasked hlog
  exact ⟨hmasked, h.of_log hlog⟩

end Shell

namespace Execution

def masked (x : Execution) : Execution where
  line := x.line
  before := x.before.masked
  outcome := x.outcome
  after := x.after.masked

variable (programs) in
theorem masked_of {sh : Shell} (h : sh.IsBlind) (line : Bytes) :
    of programs.masked sh.masked line = (of programs sh line).masked := by
  have hevents : ∀ e ∈ (Token.split line).events, e.masked = e := by
    intro e he
    obtain ⟨_, -, rfl⟩ := List.mem_map.1 he
    rfl
  have hbefore := Shell.masked_emitAll h hevents
  have hblind : (sh.emitAll (Token.split line).events).IsBlind := h.of_log (Shell.log_emitAll _ _)
  have hexecute := Shell.masked_execute programs hblind (Token.words line)
  simp only [of, masked, ← hbefore, hexecute]

variable (programs) in
theorem log_of (sh : Shell) (line : Bytes) :
    (of programs sh line).after.log = sh.log :=
  (Shell.log_execute _ _ _).trans (Shell.log_emitAll _ _)

end Execution

/-- A session of masked programs is the masked session. -/
theorem Runs.masked {prompt : String} {sh : Shell} {source : Source} {xs : List Execution}
    {result : Except ShellError Shutdown × Source × Shell}
    (hruns : Runs programs prompt sh source xs result) (h : sh.IsBlind) :
    Runs programs.masked prompt sh.masked source (xs.map Execution.masked)
      (result.1, result.2.1, result.2.2.masked) := by
  -- Each line leaves the log as it was, so the shell stays blind to the end.
  induction hruns with
  | failed read =>
    exact .failed (Shell.masked_readLine_eq h read).1
  | ended read =>
    obtain ⟨hread, hblind⟩ := Shell.masked_readLine_eq h read
    rw [Shell.masked_emit hblind .endOfInput]
    exact .ended hread
  | @stopped _ _ _ _ line _ read executed =>
    obtain ⟨hread, hblind⟩ := Shell.masked_readLine_eq h read
    have hx := Execution.masked_of programs hblind line
    have hrow := Runs.stopped hread ((congrArg Execution.outcome hx).trans executed)
    rwa [hx] at hrow
  | @exited _ _ _ _ line read executed =>
    obtain ⟨hread, hblind⟩ := Shell.masked_readLine_eq h read
    have hx := Execution.masked_of programs hblind line
    have hrow := Runs.exited hread ((congrArg Execution.outcome hx).trans executed)
    have hafter := hblind.of_log (Execution.log_of programs _ line)
    rw [Shell.masked_emit hafter .exitRequested]
    rwa [hx] at hrow
  | @continued _ _ _ _ line _ _ read executed _ ih =>
    obtain ⟨hread, hblind⟩ := Shell.masked_readLine_eq h read
    have hx := Execution.masked_of programs hblind line
    have hrest := ih (hblind.of_log (Execution.log_of programs _ line))
    have hrow := Runs.continued hread ((congrArg Execution.outcome hx).trans executed)
      (by rw [hx]; exact hrest)
    rwa [hx] at hrow

/-! ## Programs that differ in how they end -/

namespace Event

/-- The same event, but that a program may end in another way. -/
def Alike (e e' : Event) : Prop := e = e' ∨ ∃ status status', e = ended status ∧ e' = ended status'

theorem alike_of_masked {e e' : Event} (h : e.masked = e'.masked) : e.Alike e' := by
  cases e <;> cases e' <;> first | exact .inr ⟨_, _, rfl, rfl⟩ | exact .inl h | cases h

end Event

/-- The same program, started in the same way. -/
structure Child.Alike (c c' : Child) : Prop where
  file : c.file = c'.file
  argv : c.argv = c'.argv
  cwd : c.cwd = c'.cwd
  heldOutput : c.heldOutput = c'.heldOutput
  heldErrors : c.heldErrors = c'.heldErrors

theorem Child.alike_of_masked {c c' : Child} (h : c.masked = c'.masked) : c.Alike c' := by
  simp only [masked, Child.mk.injEq] at h
  obtain ⟨hfile, hargv, hcwd, -, houtput, herrors⟩ := h
  exact ⟨hfile, hargv, hcwd, houtput, herrors⟩

/-- The same effect, whatever the status. -/
structure Effect.Alike (e e' : Effect) : Prop where
  files : e.files = e'.files
  consumed : e.consumed = e'.consumed
  written : e.written = e'.written

/-- The same files are programs, and what each does differs in how it ends only. -/
def Programs.Alike (programs programs' : Programs) : Prop :=
  ∀ image, Option.Rel (fun p p' : Program => ∀ process, (p process).Alike (p' process))
    (programs image) (programs' image)

theorem Programs.Alike.masked_eq (h : programs.Alike programs') :
    programs.masked = programs'.masked := by
  funext image
  have himage := h image
  cases hp : programs image with
  | none =>
    cases hp' : programs' image with
    | none => simp only [Programs.masked, hp, hp']
    | some p' => rw [hp, hp'] at himage; cases himage
  | some p =>
    cases hp' : programs' image with
    | none => rw [hp, hp'] at himage; cases himage
    | some p' =>
      rw [hp, hp'] at himage
      obtain ⟨heffect⟩ := himage
      have hprogram : p.masked = p'.masked := by
        funext process
        obtain ⟨hfiles, hconsumed, hwritten⟩ := heffect process
        simp only [Program.masked, hfiles, hconsumed, hwritten]
      simp only [Programs.masked, hp, hp', Option.map_some, hprogram]

theorem forall₂_of_map {α β : Type} {f : α → β} {r : α → α → Prop} (hr : ∀ a b, f a = f b → r a b)
    {as bs : List α} (h : as.map f = bs.map f) : List.Forall₂ r as bs := by
  have hmap : List.Forall₂ (fun a b => f a = f b) as bs := by
    rw [← List.forall₂_eq_eq_eq] at h
    simpa using h
  exact hmap.imp hr

namespace Shell

/-- Sessions of programs that differ in how they end only are the same, whatever becomes of the
streams: what is read, what the world comes to, what is written and which programs are started.
They differ in the events that tell how programs ended. -/
theorem run_alike (h : programs.Alike programs') (prompt : String) {sh : Shell}
    (hlog : ∀ status status', sh.log (.ended status) = sh.log (.ended status')) (source : Source) :
    let one := run programs prompt sh source
    let other := run programs' prompt sh source
    one.1 = other.1 ∧ one.2.1 = other.2.1 ∧ one.2.2.world = other.2.2.world ∧
      one.2.2.out = other.2.2.out ∧ one.2.2.err = other.2.2.err ∧
      List.Forall₂ Child.Alike one.2.2.children other.2.2.children ∧
      List.Forall₂ Event.Alike one.2.2.trace other.2.2.trace := by
  intro one other
  have hblind : sh.IsBlind := fun e => by cases e <;> first | rfl | exact hlog _ _
  obtain ⟨xs, hone⟩ := Runs.run programs prompt sh source
  obtain ⟨ys, hother⟩ := Runs.run programs' prompt sh source
  have hmasked := (hone.masked hblind).eq_run.symm.trans
    (h.masked_eq ▸ (hother.masked hblind).eq_run)
  obtain ⟨hresult, hleft, hshell⟩ : one.1 = other.1 ∧ one.2.1 = other.2.1 ∧
    one.2.2.masked = other.2.2.masked := by simpa using hmasked
  have hworld := congrArg Shell.world hshell
  have hout := congrArg Shell.out hshell
  have herr := congrArg Shell.err hshell
  have hchildren := congrArg Shell.children hshell
  have htrace := congrArg Shell.trace hshell
  exact ⟨hresult, hleft, hworld, hout, herr,
    forall₂_of_map (fun _ _ => Child.alike_of_masked) hchildren,
    forall₂_of_map (fun _ _ => Event.alike_of_masked) htrace⟩

/-- One status is a failure, the other a signal. -/
theorem run_alike_killed :
    let programs (status : ExitStatus) : Programs := fun _ => some fun p =>
      { files := p.files, written := [(.output, utf8 "there\n")], status }
    let sh : Shell := { world := Command.namesakes }
    let source : Source := .stream { feed := .scripted [.chunk (utf8 "true\necho hi\n")] }
    let one := run (programs (.exited 7)) "" sh source
    let other := run (programs (.killed 9)) "" sh source
    (programs (.exited 7)).Alike (programs (.killed 9)) ∧
      (∀ status status', sh.log (.ended status) = sh.log (.ended status')) ∧
      one.2.2.children.map (·.status) = [.exited 7] ∧
      other.2.2.children.map (·.status) = [.killed 9] ∧
      one.1 = other.1 ∧ one.2.2.world = other.2.2.world ∧
      List.Forall₂ Event.Alike one.2.2.trace other.2.2.trace := by
  intro programs sh source one other
  let s : Stream := { feed := .scripted [.chunk (utf8 "true\necho hi\n")] }
  have hplain : ∀ line ∈ [] :: [utf8 "true", utf8 "echo hi"], newline ∉ line := by decide
  have halike : (programs (.exited 7)).Alike (programs (.killed 9)) :=
    fun _ => .some fun _ => ⟨rfl, rfl, rfl⟩
  have hlog (status status' : ExitStatus) : sh.log (.ended status) = sh.log (.ended status') := rfl
  have hchildren (status : ExitStatus) :
      (run (programs status) "" sh source).2.2.children.map (·.status) = [status] := by
    have haccount := account_run (programs status) "" Command.namesakes hplain (s := s) ⟨_, rfl⟩
      fun _ => rfl
    exact (congrArg (fun a => a.children.map (·.status)) haccount).trans rfl
  obtain ⟨hresult, -, hworld, -, -, -, htrace⟩ := run_alike halike "" hlog source
  exact ⟨halike, hlog, hchildren _, hchildren _, hresult, hworld, htrace⟩

end Shell

end TinyShell
