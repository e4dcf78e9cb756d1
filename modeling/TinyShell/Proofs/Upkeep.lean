import TinyShell.Proofs.Executions
import TinyShell.Proofs.SoundTrees
import TinyShell.Proofs.Started
import TinyShell.Userland.Machine

/-!
# The tree in a session

All that a shell itself does to the tree is one of the operations on it. If that is all its programs
do, then so it goes on through a whole session (`Runs.changes`), whatever the streams do, and a tree
that is sound at the start is sound before and after each line (`Runs.isSound`).
-/

namespace TinyShell

/-- All that the program does to the tree is to apply the operations on it. -/
def Program.IsOrderly (p : Program) : Prop :=
  ∀ process : Process, process.files.Changes (p process).files

def Programs.AreOrderly (programs : Programs) : Prop :=
  ∀ image p, programs image = some p → p.IsOrderly

theorem Builtin.changes_makeDirectory {w w' : World} {path : Bytes}
    (h : makeDirectory w path = .ok w') : w.files.Changes w'.files := by
  unfold makeDirectory at h
  split at h
  · cases h
  · split at h
    · next hmade => cases h; exact .single (.makeDirectory hmade)
    · cases h

theorem Builtin.changes_execute (b : Builtin) (argv : List Bytes) (w : World) (out : Writer) :
    w.files.Changes (b.execute argv w out).world.files := by
  by_cases hb : b = .mkdir
  · subst hb
    rcases argv with _ | ⟨_, _ | ⟨path, _⟩⟩
    · exact .refl
    · exact .refl
    · cases hmake : makeDirectory w path with
      | ok world => simpa only [execute, withArgument, hmake] using changes_makeDirectory hmake
      | error e => simp only [execute, withArgument, hmake]; exact .refl
  · rw [(b.frame_execute argv w out).files hb]

theorem Command.image_of_spawn {programs : Programs} {w : World} {c : Command} {started : Started}
    (h : c.spawn programs w = .ok started) : ∃ image, programs image = some started.program := by
  cases hs : Exec.spawn programs w c.program c.argv with
  | error e => rw [spawn, hs] at h; cases h
  | ok s =>
    rw [spawn, hs] at h
    cases h
    rw [Exec.spawn_eq] at hs
    split at hs
    · cases hs
    · cases haccept : Exec.accept programs w c.program c.argv with
      | error e => rw [haccept] at hs; cases hs
      | ok s =>
        rw [haccept] at hs
        cases hs
        obtain ⟨_, hinterpret⟩ := Exec.exists_interpret haccept
        exact (Exec.interpret_ok hinterpret).1

namespace Shell

variable {programs : Programs} (h : programs.AreOrderly) (sh : Shell)

@[simp] theorem files_flushOut : sh.flushOut.2.world.files = sh.world.files := by
  unfold flushOut
  split
  · exact World.files_eq World.hushed_putOutput
  · rfl

@[simp] theorem files_carryOn (text : String) :
    (sh.carryOn text).2.world.files = sh.world.files :=
  World.files_eq (sh.hushed_carryOn text)

@[simp] theorem files_emitAll (events : List Event) :
    (sh.emitAll events).world.files = sh.world.files :=
  World.files_eq (hushed_emitAll sh events)

@[simp] theorem files_ask (prompt : String) : (sh.ask prompt).2.world.files = sh.world.files := by
  unfold ask
  split
  · exact files_flushOut _
  · rfl

theorem files_take (source : Source) : (sh.take source).2.2.world.files = sh.world.files :=
  files_emitAll _ _

variable {sh} in
theorem files_of_readLine {sh₁ : Shell} {prompt : String} {source source₁ : Source}
    {reading : Except ShellError Reading}
    (hread : sh.readLine prompt source = (reading, source₁, sh₁)) :
    sh₁.world.files = sh.world.files := by
  have hask := files_ask sh prompt
  unfold readLine at hread
  split at hread
  · split at hread
    · next sh' hasked =>
      rw [hasked] at hask
      have htake := files_take sh' source
      rw [hread] at htake
      exact htake.trans hask
    · next hfailed =>
      cases hread
      rwa [hfailed] at hask
  · have htake := files_take sh source
    rwa [hread] at htake

section
include h

theorem changes_launch (search : Bytes) (argv : List Bytes) :
    sh.world.files.Changes (sh.launch programs search argv).2.world.files := by
  have hhost {command : Command} {started : Started}
      (hspawn : command.spawn programs sh.world = .ok started) :
      sh.world.files.Changes (sh.host command started).2.world.files := by
    obtain ⟨image, himage⟩ := Command.image_of_spawn hspawn
    have hleft : (sh.host command started).2.world.files =
        (started.program ((sh.emit (.spawned command.program)).world.process started.argv)).files :=
      World.files_eq (World.hushed_apply _ _)
    rw [hleft]
    exact h image started.program himage ((sh.emit _).world.process started.argv)
  refine launch_cases programs sh search argv ?_ ?_ ?_ ?_
  · exact fun _ _ => .refl
  · exact fun _ _ _ _ => .refl
  · exact fun _ _ _ _ hspawn _ => hhost hspawn
  · exact fun _ _ _ _ hspawn _ => hhost hspawn

theorem changes_runProgram (argv : List Bytes) :
    sh.world.files.Changes (sh.runProgram programs argv).2.world.files := by
  have hflush := files_flushOut sh
  unfold runProgram
  split
  · next hfailed => rw [hfailed] at hflush; rw [hflush]
  · next sh₁ hflushed =>
    rw [hflushed] at hflush
    have hlaunch := changes_launch h (sh₁.emit (.launching (Command.nameOf argv)))
      (sh₁.emit (.launching (Command.nameOf argv))).world.effectiveSearchPath argv
    have hstart : (sh₁.emit (.launching (Command.nameOf argv))).world.files = sh.world.files := hflush
    rw [hstart] at hlaunch
    simp only
    split
    · next hended => rwa [hended] at hlaunch
    · next hfailed => rw [hfailed] at hlaunch; rwa [files_carryOn]

theorem changes_execute (argv : List Bytes) :
    sh.world.files.Changes (sh.execute programs argv).2.world.files := by
  cases argv with
  | nil => exact .refl
  | cons name args =>
    cases hname : Builtin.find? name with
    | some b =>
      rw [World.files_eq (sh.hushed_execute programs args hname)]
      exact b.changes_execute (name :: args) sh.world sh.out
    | none =>
      have hforeign : sh.execute programs (name :: args) = sh.runProgram programs (name :: args) := by
        simp only [execute, hname]
      rw [hforeign]
      exact changes_runProgram h sh (name :: args)

end

end Shell

/-! ## Sessions -/

variable {programs : Programs} {prompt : String} {sh : Shell} {source : Source}
  {xs : List Execution} {result : Except ShellError Shutdown × Source × Shell}

theorem Execution.changes_of (h : programs.AreOrderly) {source₁ : Source} {sh₁ : Shell}
    {reading : Except ShellError Reading}
    (hread : sh.readLine prompt source = (reading, source₁, sh₁)) (line : Bytes) :
    let x := of programs sh₁ line
    sh.world.files.Changes x.before.world.files ∧ sh.world.files.Changes x.after.world.files := by
  intro x
  have hbefore : x.before.world.files = sh.world.files :=
    (Shell.files_emitAll sh₁ _).trans (Shell.files_of_readLine hread)
  refine ⟨by rw [hbefore], ?_⟩
  rw [← hbefore]
  exact Shell.changes_execute h x.before (Token.words line)

namespace Runs

/-- From line to line the tree is only changed by operations on it. -/
theorem changes (hprograms : programs.AreOrderly) (h : Runs programs prompt sh source xs result) :
    (∀ x ∈ xs, sh.world.files.Changes x.before.world.files ∧
      sh.world.files.Changes x.after.world.files) ∧
    sh.world.files.Changes result.2.2.world.files := by
  induction h with
  | @failed sh sh₁ _ _ _ read | @ended sh sh₁ _ _ read =>
    have hstays : sh.world.files.Changes sh₁.world.files := by rw [Shell.files_of_readLine read]
    exact ⟨by simp, hstays⟩
  | @stopped _ _ _ _ line _ read executed =>
    obtain ⟨hbefore, hafter⟩ := Execution.changes_of hprograms read line
    exact ⟨List.forall_mem_singleton.2 ⟨hbefore, hafter⟩, hafter⟩
  | @exited _ _ _ _ line read executed =>
    obtain ⟨hbefore, hafter⟩ := Execution.changes_of hprograms read line
    exact ⟨List.forall_mem_singleton.2 ⟨hbefore, hafter⟩, hafter⟩
  | @continued _ _ _ _ line _ _ read executed _ ih =>
    obtain ⟨hbefore, hafter⟩ := Execution.changes_of hprograms read line
    refine ⟨List.forall_mem_cons.2 ⟨⟨hbefore, hafter⟩, fun x hx => ?_⟩, hafter.trans ih.2⟩
    obtain ⟨hbefore', hafter'⟩ := ih.1 x hx
    exact ⟨hafter.trans hbefore', hafter.trans hafter'⟩

/-- A tree that is sound when the session starts is sound at each line and at the end. -/
theorem isSound (hprograms : programs.AreOrderly) (h : Runs programs prompt sh source xs result)
    (hsound : sh.world.files.IsSound) :
    (∀ x ∈ xs, x.before.world.files.IsSound ∧ x.after.world.files.IsSound) ∧
      result.2.2.world.files.IsSound := by
  obtain ⟨hlines, hend⟩ := h.changes hprograms
  exact ⟨fun x hx => ⟨hsound.changes (hlines x hx).1, hsound.changes (hlines x hx).2⟩,
    hsound.changes hend⟩

end Runs

/-- The tree to try the shell on. -/
theorem Userland.Machine.isSound_files : files.IsSound := by decide +kernel

end TinyShell
