import TinyShell.Session

/-!
# What is on the descriptors

Where files are has nothing to do with what is on the descriptors: a change there is `Apart` from
what built-in commands do (`Builtin.execute_apart`) and from which program is started
(`Command.spawn_apart`).

The bytes that have arrived on the descriptors 1 and 2 are there for somebody outside:
`World.heard` replaces them, `World.hushed` takes them away. No command can tell, not even a
program (`World.process_heard`). What there is to read on descriptor 0, which `World.fed`
replaces, is there for programs.
-/

namespace TinyShell

namespace World

/-- The world with these bytes on its descriptors. -/
def heard (w : World) (output errors : Bytes) : World := { w with output, errors }

/-- The world without what has arrived on its descriptors. -/
def hushed (w : World) : World := w.heard [] []

variable {w w₁ w₂ : World} {output errors bytes : Bytes}

@[simp] theorem hushed_heard : (w.heard output errors).hushed = w.hushed := rfl

theorem eq_heard (h : w₁.hushed = w₂.hushed) : w₁ = w₂.heard w₁.output w₁.errors :=
  calc w₁ = w₁.hushed.heard w₁.output w₁.errors := rfl
    _ = w₂.hushed.heard w₁.output w₁.errors := by rw [h]
    _ = w₂.heard w₁.output w₁.errors := rfl

theorem files_eq (h : w₁.hushed = w₂.hushed) : w₁.files = w₂.files := by rw [eq_heard h]; rfl

theorem cwd_eq (h : w₁.hushed = w₂.hushed) : w₁.cwd = w₂.cwd := by rw [eq_heard h]; rfl

theorem waitFailure_eq (h : w₁.hushed = w₂.hushed) : w₁.waitFailure = w₂.waitFailure := by
  rw [eq_heard h]; rfl

theorem putOutput_eq :
    w.putOutput bytes =
      w.heard (if w.outputFull then w.output else w.output ++ bytes) w.errors := by
  unfold putOutput; split <;> rfl

@[simp] theorem hushed_putOutput : (w.putOutput bytes).hushed = w.hushed := by
  rw [putOutput_eq, hushed_heard]

@[simp] theorem hushed_putErrors : (w.putErrors bytes).hushed = w.hushed := rfl

@[simp] theorem hushed_writes (writes : List (Outlet × Bytes)) :
    (writes.foldl World.write w).hushed = w.hushed := by
  induction writes generalizing w with
  | nil => rfl
  | cons one writes ih =>
    refine ih.trans ?_
    rcases one with ⟨_ | _, bytes⟩
    · exact hushed_putOutput
    · exact hushed_putErrors

theorem hushed_apply (w : World) (e : Effect) :
    (w.apply e).hushed = { w with files := e.files, input := w.input.drop e.consumed }.hushed :=
  hushed_writes e.written

theorem waitFailure_apply (w : World) (e : Effect) : (w.apply e).waitFailure = w.waitFailure := by
  rw [waitFailure_eq (hushed_apply w e)]

/-- The world with this to read on descriptor 0. -/
def fed (w : World) (input : Input) : World := { w with input }

/-- A change that has nothing to do with where files are. -/
structure Apart (change : World → World) : Prop where
  environment (w : World) : (change w).environment = w.environment
  putFiles (w : World) (files : Files) : change { w with files } = { change w with files }
  putCwd (w : World) (cwd : Inode) : change { w with cwd } = { change w with cwd }

namespace Apart

variable {change : World → World}

theorem files (h : Apart change) (w : World) : (change w).files = w.files :=
  (congrArg World.files (h.putFiles w w.files) :)

theorem cwd (h : Apart change) (w : World) : (change w).cwd = w.cwd :=
  (congrArg World.cwd (h.putCwd w w.cwd) :)

theorem effectiveSearchPath (h : Apart change) (w : World) :
    (change w).effectiveSearchPath = w.effectiveSearchPath := by
  simp only [World.effectiveSearchPath, h.environment]

theorem heard (output errors : Bytes) : Apart (·.heard output errors) :=
  ⟨fun _ => rfl, fun _ _ => rfl, fun _ _ => rfl⟩

theorem fed (input : Input) : Apart (·.fed input) := ⟨fun _ => rfl, fun _ _ => rfl, fun _ _ => rfl⟩

end Apart

/-- What a program is started with. -/
@[simp] theorem process_heard (argv : List Bytes) :
    (w.heard output errors).process argv = w.process argv := rfl

end World

variable {w : World} {change : World → World} (h : World.Apart change)

section
include h

/-! ## Programs -/

theorem Command.resolve_apart (search : Bytes) (argv : List Bytes) :
    resolve (change w) search argv = resolve w search argv := by
  simp only [resolve, h.files, h.cwd]

theorem Exec.start_apart (programs : Programs) (path : Bytes) (argv : List Bytes) :
    start programs (change w) path argv = start programs w path argv := by
  simp only [start, h.files, h.cwd, h.environment]

theorem Exec.startFirst_apart (programs : Programs) (argv : List Bytes) (failure : Errno)
    (paths : List Bytes) :
    startFirst programs (change w) argv failure paths =
      startFirst programs w argv failure paths := by
  induction paths generalizing failure with
  | nil => rfl
  | cons path paths ih => simp only [startFirst, start_apart h, ih]

theorem Command.spawn_apart (programs : Programs) (command : Command) :
    command.spawn programs (change w) = command.spawn programs w := by
  simp only [spawn, Exec.spawn, h.effectiveSearchPath, Exec.start_apart h, Exec.startFirst_apart h]

/-! ## Built-in commands -/

namespace Builtin

theorem makeDirectory_apart (path : Bytes) :
    makeDirectory (change w) path = (makeDirectory w path).map change := by
  simp only [makeDirectory, h.files, h.cwd]
  split
  · rfl
  · cases w.files.makeDirectory w.cwd path directoryMode with
    | ok files =>
      refine congrArg Except.ok (Eq.trans ?_ (h.putFiles w files).symm)
      simp only [h.cwd]
    | error e => rfl

theorem changeDirectory_apart (target : Bytes) :
    changeDirectory (change w) target = (changeDirectory w target).map change := by
  simp only [changeDirectory, h.files, h.cwd]
  split
  · rfl
  · cases w.files.enter w.cwd target with
    | ok cwd =>
      refine congrArg Except.ok (Eq.trans ?_ (h.putCwd w cwd).symm)
      simp only [h.files]
    | error e => rfl

theorem execute_apart (b : Builtin) (argv : List Bytes) (out : Writer) :
    let result := b.execute argv w out
    b.execute argv (change w) out = { result with world := change result.world } := by
  intro result
  cases b with
  | echo => rfl
  | help => rfl
  | exit => rfl
  | pwd =>
    simp only [result, execute, World.workingDirectory, h.files, h.cwd]
    split <;> rfl
  | ls =>
    simp only [result, execute, h.files, h.cwd]
    split <;> rfl
  | mkdir =>
    rcases argv with _ | ⟨_, _ | ⟨path, _⟩⟩
    · rfl
    · rfl
    · simp only [result, execute, withArgument, makeDirectory_apart h]
      cases makeDirectory w path <;> rfl
  | cd =>
    rcases argv with _ | ⟨_, _ | ⟨target, _⟩⟩
    · rfl
    · rfl
    · simp only [result, execute, withArgument, changeDirectory_apart h]
      cases changeDirectory w target <;> rfl

end Builtin

end

/-! ## What has arrived -/

variable {output errors : Bytes}

@[simp] theorem Command.spawn_heard (programs : Programs) (command : Command) :
    command.spawn programs (w.heard output errors) = command.spawn programs w :=
  spawn_apart (.heard output errors) programs command

theorem Builtin.execute_heard (b : Builtin) (argv : List Bytes)
    (out : Writer) :
    let result := b.execute argv w out
    b.execute argv (w.heard output errors) out =
      { result with world := result.world.heard output errors } :=
  b.execute_apart (.heard output errors) argv out

end TinyShell
