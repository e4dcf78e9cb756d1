import TinyShell.Proofs.Reliable

/-!
# What a command comes to

`Turn.of` tells what a row of tokens does in a world, without the writers between the shell
and the descriptors. `Builtin.Conduct` is the little that a built-in command can do, and
`Turn.of_cases` says where a turn can come from; what holds of every turn is read off them.
-/

namespace TinyShell

structure Turn where
  signal : Continuation := .continue
  /-- The world it leaves, before anything written arrives. -/
  world : World
  /-- What the shell itself writes on its output. -/
  output : Bytes := []
  /-- What the shell itself writes on its error stream. -/
  errors : Bytes := []
  /-- What the program writes that is started. -/
  spoken : List (Outlet × Bytes) := []
  events : List Event := []
  children : List Child := []

namespace Turn

def ofBuiltin (w : World) (b : Builtin) (argv : List Bytes) : Turn :=
  let result := b.execute argv w { policy := .reliable }
  let events := .runningBuiltin (Command.nameOf argv) :: result.events
  match result.outcome with
  | .ok signal =>
    { signal, world := result.world, output := result.out.written, events }
  | .error complaint =>
    { world := result.world, output := result.out.written,
      errors := Shell.diagnostic complaint.message, events }

/-- A program that cannot be started. -/
def ofFailure (w : World) (argv : List Bytes) (e : LaunchError) : Turn where
  world := w
  errors := Shell.diagnostic e.message
  events := [.launching (Command.nameOf argv)]

/-- The turn, and then this event. -/
def noting (t : Turn) (e : Event) : Turn := { t with events := t.events ++ [e] }

/-- The turn, once the program that was started in it has ended. -/
def awaited (t : Turn) : Except LaunchError ExitStatus → Turn
  | .ok status => t.noting (.ended status)
  | .error e => { t with errors := Shell.diagnostic e.message }

@[simp] theorem awaited_signal (t : Turn) (ended : Except LaunchError ExitStatus) :
    (t.awaited ended).signal = t.signal := by
  cases ended <;> rfl

@[simp] theorem awaited_world (t : Turn) (ended : Except LaunchError ExitStatus) :
    (t.awaited ended).world = t.world := by
  cases ended <;> rfl

@[simp] theorem awaited_children (t : Turn) (ended : Except LaunchError ExitStatus) :
    (t.awaited ended).children = t.children := by
  cases ended <;> rfl

/-- When the program starts, nothing is held back. -/
def ofStarted (w : World) (argv : List Bytes) (command : Command) (started : Started) : Turn :=
  let effect := started.program (w.process started.argv)
  let turn : Turn := {
    world := { w with files := effect.files, input := w.input.drop effect.consumed }
    spoken := effect.written
    events := [.launching (Command.nameOf argv), .spawned command.program]
    children := [{
      file := started.file, argv, cwd := w.cwd, status := effect.status,
      heldOutput := [], heldErrors := [] }] }
  turn.awaited (command.wait w effect.status)

variable (programs : Programs)

def ofProgram (w : World) (argv : List Bytes) : Turn :=
  match Command.resolve w w.effectiveSearchPath argv with
  | .error e => ofFailure w argv e
  | .ok command =>
    match command.spawn programs w with
    | .error e => ofFailure w argv e
    | .ok started => ofStarted w argv command started

def of (w : World) (argv : List Bytes) : Turn :=
  match argv with
  | [] => { world := w }
  | name :: _ =>
    match Builtin.find? name with
    | some b => ofBuiltin w b argv
    | none => ofProgram programs w argv

/-- All that is written, in order. -/
def written (t : Turn) : List (Outlet × Bytes) :=
  t.spoken ++ [(.output, t.output), (.errors, t.errors)]

/-- The world it leaves. -/
def left (t : Turn) : World := t.written.foldl World.write t.world

theorem left_eq (t : Turn) :
    t.left = ((t.spoken.foldl World.write t.world).putOutput t.output).putErrors t.errors := by
  simp [left, written, World.write]

end Turn

/-! ## Built-in commands -/

namespace Builtin

/-- A built-in command prints, complains, or does something without a word. Which of them
it does, and with what, is settled by the arguments and the world: the writer has no say. -/
inductive Conduct (b : Builtin) (argv : List Bytes) (w : World) : Prop where
  | prints (pieces : List Bytes) (stays : b ≠ .exit)
      (h : ∀ out, b.execute argv w out = print w out pieces)
  | complains (complaint : Complaint) (stays : b ≠ .exit)
      (h : ∀ out, b.execute argv w out = complain w out complaint)
  | acts (signal : Continuation) (events : List Event) (world : World)
      (ends : signal = .terminate ↔ b = .exit) (noted : ∀ e ∈ events, e.level = .debug)
      (silent : w.Received [] world)
      (h : ∀ out, b.execute argv w out = { outcome := .ok signal, events, world, out })

theorem received_makeDirectory {w w' : World} {path : Bytes}
    (h : makeDirectory w path = .ok w') : w.Received [] w' := by
  simp only [makeDirectory] at h
  split at h
  · cases h
  · split at h
    · cases h; exact .none rfl rfl rfl
    · cases h

theorem received_changeDirectory {w w' : World} {target : Bytes}
    (h : changeDirectory w target = .ok w') : w.Received [] w' := by
  simp only [changeDirectory] at h
  split at h
  · cases h
  · split at h
    · cases h; exact .none rfl rfl rfl
    · cases h

theorem conduct (b : Builtin) (argv : List Bytes) (w : World) : b.Conduct argv w := by
  cases b with
  | echo => exact .prints [joined (argv.drop 1), [newline]] (by decide) fun _ => rfl
  | help => exact .prints helpText (by decide) fun _ => rfl
  | exit => exact .acts .terminate [] w (by decide) (by simp) (.refl w) fun _ => rfl
  | pwd =>
    cases h : w.workingDirectory with
    | some path =>
      exact .prints [utf8 "Current working dir: ", utf8 (Utf8.lossy path), [newline]] (by decide)
        fun _ => by simp only [execute, h]
    | none =>
      exact .complains (.workingDirectory (.os .noEntry)) (by decide)
        fun _ => by simp only [execute, h]
  | ls =>
    cases h : w.files.list w.cwd with
    | ok d => exact .prints (listing d) (by decide) fun _ => by simp only [execute, h]
    | error e => exact .complains (.listing (.os e)) (by decide) fun _ => by simp only [execute, h]
  | mkdir =>
    rcases argv with _ | ⟨_, _ | ⟨path, _⟩⟩
    · exact .complains _ (by decide) fun _ => rfl
    · exact .complains _ (by decide) fun _ => rfl
    · cases h : makeDirectory w path with
      | ok world =>
        exact .acts .continue [.createdDirectory path] world (by decide) (by simp [Event.level])
          (received_makeDirectory h) fun _ => by simp only [execute, withArgument, h]
      | error e =>
        exact .complains (.makeDirectory path e) (by decide) fun _ => by
          simp only [execute, withArgument, h]
  | cd =>
    rcases argv with _ | ⟨_, _ | ⟨target, _⟩⟩
    · exact .complains _ (by decide) fun _ => rfl
    · exact .complains _ (by decide) fun _ => rfl
    · cases h : changeDirectory w target with
      | ok world =>
        exact .acts .continue [.changedDirectory target] world (by decide) (by simp [Event.level])
          (received_changeDirectory h) fun _ => by simp only [execute, withArgument, h]
      | error e =>
        exact .complains (.changeDirectory target e) (by decide) fun _ => by
          simp only [execute, withArgument, h]

theorem print_reliable (w : World) {out : Writer} (h : out.policy = .reliable)
    (pieces : List Bytes) :
    print w out pieces =
      { outcome := .ok .continue, world := w,
        out := out.taking pieces.length pieces.flatten } := by
  rw [print, Writer.writeAll_reliable h]; rfl

/-- What a built-in command does with a reliable writer does not depend on the state of
the writer. -/
theorem execute_reliable (b : Builtin) (argv : List Bytes) (w : World) {out : Writer}
    (h : out.policy = .reliable) :
    let result := b.execute argv w { policy := .reliable }
    b.execute argv w out =
      { result with out := out.taking result.out.turn result.out.written } := by
  intro result
  cases b.conduct argv w with
  | prints pieces _ he =>
    have hr : result = print w { policy := .reliable } pieces := he _
    rw [he, hr, print_reliable _ h, print_reliable w rfl]
    simp [Writer.taking]
  | complains complaint _ he =>
    have hr : result = complain w { policy := .reliable } complaint := he _
    simp [he, hr, complain]
  | acts signal events world _ _ _ he =>
    have hr : result = { outcome := .ok signal, events, world, out := { policy := .reliable } } :=
      he _
    simp [he, hr]

/-- What a built-in command notes is none of the details of reading. -/
theorem level_events (b : Builtin) (argv : List Bytes) (w : World) (out : Writer) :
    ∀ e ∈ (b.execute argv w out).events, e.level = .debug := by
  cases b.conduct argv w with
  | prints pieces _ he => rw [he]; simp [print]
  | complains complaint _ he => rw [he]; simp [complain]
  | acts signal events world _ noted _ he => rw [he]; exact noted

/-- Only `exit` ends the session. -/
theorem terminate_iff (b : Builtin) (argv : List Bytes) (w : World) {out : Writer}
    (h : out.policy = .reliable) :
    (b.execute argv w out).outcome = .ok .terminate ↔ b = .exit := by
  cases b.conduct argv w with
  | prints pieces stays he => rw [he, print_reliable _ h]; simp [stays]
  | complains complaint stays he => rw [he]; simp [complain, stays]
  | acts signal events world ends _ _ he => rw [he]; simpa using ends

/-- A built-in command leaves it to the writer to say anything. -/
theorem received_execute (b : Builtin) (argv : List Bytes) (w : World) (out : Writer) :
    w.Received [] (b.execute argv w out).world := by
  cases b.conduct argv w with
  | prints pieces _ he => rw [he]; exact .refl _
  | complains complaint _ he => rw [he]; exact .refl _
  | acts signal events world _ _ silent he => rw [he]; exact silent

theorem execute_putOutput (b : Builtin) (argv : List Bytes) (w : World) (out : Writer)
    (bytes : Bytes) :
    let result := b.execute argv w out
    b.execute argv (w.putOutput bytes) out =
      { result with world := result.world.putOutput bytes } := by
  have h := b.received_execute argv w out
  have ho : (b.execute argv w out).world.output = w.output := by
    simpa [Outlet.share] using h.output
  have he : (b.execute argv w out).world.errors = w.errors := by
    simpa [Outlet.share] using h.errors
  simp only [World.putOutput_eq, execute_heard, h.outputFull, ho, he]

theorem find?_eq_exit (name : Bytes) : find? name = some .exit ↔ name = utf8 "exit" := by
  constructor
  · intro h
    have hn := List.find?_some h
    simpa [Builtin.name, eq_comm] using hn
  · rintro rfl
    decide

end Builtin

namespace Turn

theorem ofBuiltin_world (w : World) (b : Builtin) (argv : List Bytes) :
    (ofBuiltin w b argv).world = (b.execute argv w { policy := .reliable }).world := by
  simp only [ofBuiltin]; split <;> rfl

theorem ofBuiltin_children (w : World) (b : Builtin) (argv : List Bytes) :
    (ofBuiltin w b argv).children = [] := by
  simp only [ofBuiltin]; split <;> rfl

theorem ofBuiltin_signal (w : World) (b : Builtin) (argv : List Bytes) :
    (ofBuiltin w b argv).signal = .terminate ↔ b = .exit := by
  rw [← b.terminate_iff argv w (show ({ policy := .reliable } : Writer).policy = _ from rfl)]
  simp only [ofBuiltin]
  split <;> simp_all

variable (programs : Programs) (w : World)

theorem of_builtin {name : Bytes} {b : Builtin} (h : Builtin.find? name = some b)
    (args : List Bytes) : of programs w (name :: args) = ofBuiltin w b (name :: args) := by
  simp only [of, h]

theorem of_foreign {name : Bytes} (h : Builtin.find? name = none) (args : List Bytes) :
    of programs w (name :: args) = ofProgram programs w (name :: args) := by
  simp only [of, h]

/-- A turn is nothing at all, or that of a built-in command, of a program that cannot be
started, or of one that can. -/
@[elab_as_elim]
theorem of_cases {motive : Turn → Prop} (argv : List Bytes)
    (idle : argv = [] → motive { world := w })
    (builtin : ∀ b name args, argv = name :: args → Builtin.find? name = some b →
      motive (ofBuiltin w b argv))
    (failure : ∀ e name args, argv = name :: args → Builtin.find? name = none →
      motive (ofFailure w argv e))
    (started : ∀ command started name args, argv = name :: args → Builtin.find? name = none →
      motive (ofStarted w argv command started)) :
    motive (of programs w argv) := by
  cases argv with
  | nil => exact idle rfl
  | cons name args =>
    simp only [of]
    cases hb : Builtin.find? name with
    | some b => exact builtin b name args rfl hb
    | none =>
      simp only [ofProgram]
      split
      · exact failure _ name args rfl hb
      · split
        · exact failure _ name args rfl hb
        · exact started _ _ name args rfl hb

/-- The session ends with the tokens that start with `exit`. -/
theorem signal_terminate (argv : List Bytes) :
    (of programs w argv).signal = .terminate ↔ argv.head? = some (utf8 "exit") := by
  have hexit : ∀ name args, Builtin.find? name = none →
      (name :: args).head? ≠ some (utf8 "exit") := fun name args hb he => by
    rw [List.head?_cons, Option.some.injEq, ← Builtin.find?_eq_exit, hb] at he
    cases he
  refine of_cases programs w argv ?_ ?_ ?_ ?_
  · rintro rfl
    simp
  · rintro b name args rfl hb
    rw [ofBuiltin_signal, List.head?_cons, Option.some.injEq, ← Builtin.find?_eq_exit, hb,
      Option.some.injEq]
  · rintro e name args rfl hb
    simpa [ofFailure] using hexit name args hb
  · rintro command started name args rfl hb
    simpa [ofStarted] using hexit name args hb

/-- `exit` has nothing to say. -/
theorem output_terminate {argv : List Bytes} (h : (of programs w argv).signal = .terminate) :
    (of programs w argv).output = [] := by
  have he := (signal_terminate programs w argv).1 h
  cases argv with
  | nil => simp at he
  | cons name args =>
    simp only [List.head?_cons, Option.some.injEq, ← Builtin.find?_eq_exit] at he
    simp only [of, he]
    rfl

/-- A turn can only take bytes away from descriptor 0. -/
theorem input_left (argv : List Bytes) :
    ∃ count, (of programs w argv).left.input = w.input.drop count := by
  have hzero := w.input.drop_zero
  simp only [left, Shell.input_writes]
  refine of_cases programs w argv ?_ ?_ ?_ ?_
  · exact fun _ => ⟨0, hzero.symm⟩
  · intro b name args _ _
    exact ⟨0, by rw [ofBuiltin_world, b.input_execute, hzero]⟩
  · exact fun _ _ _ _ _ => ⟨0, hzero.symm⟩
  · exact fun _ _ _ _ _ _ => ⟨_, by rw [ofStarted, awaited_world]⟩

/-- What a turn writes arrives, and nothing else. -/
theorem received_left (argv : List Bytes) :
    w.Received (of programs w argv).written (of programs w argv).left := by
  refine World.Received.trans (a := []) ?_ (.writes _ _)
  refine of_cases programs w argv ?_ ?_ ?_ ?_
  · exact fun _ => .refl w
  · intro b name args _ _
    rw [ofBuiltin_world]
    exact b.received_execute argv w _
  · exact fun _ _ _ _ _ => .refl w
  · intro command started name args _ _
    rw [ofStarted, awaited_world]
    exact .none rfl rfl rfl

/-- A change on the descriptors has no say in a turn, unless a program that is started can tell. -/
theorem of_apart {change : World → World} (h : World.Apart change) {argv : List Bytes}
    (hstarted : ∀ command started, Builtin.find? (Command.nameOf argv) = none →
      Command.resolve w w.effectiveSearchPath argv = .ok command →
      command.spawn programs w = .ok started →
      let t := ofStarted w argv command started
      ofStarted (change w) argv command started = { t with world := change t.world }) :
    let t := of programs w argv
    of programs (change w) argv = { t with world := change t.world } := by
  cases argv with
  | nil => rfl
  | cons name args =>
    simp only [of]
    cases hname : Builtin.find? name with
    | some b =>
      simp only [ofBuiltin, b.execute_apart h]
      split <;> rfl
    | none =>
      simp only [ofProgram, h.effectiveSearchPath, Command.resolve_apart h, Command.spawn_apart h]
      cases hresolve : Command.resolve w w.effectiveSearchPath (name :: args) with
      | error e => rfl
      | ok command =>
        simp only
        cases hspawn : command.spawn programs w with
        | error e => rfl
        | ok started => exact hstarted command started hname hresolve hspawn

/-- What has arrived on the descriptors has no say in a turn. -/
theorem of_heard (output errors : Bytes) (argv : List Bytes) :
    of programs (w.heard output errors) argv =
      { of programs w argv with world := (of programs w argv).world.heard output errors } := by
  refine of_apart programs w (.heard output errors) fun command started _ _ _ => ?_
  have hwait (status : ExitStatus) :
    command.wait (w.heard output errors) status = command.wait w status := rfl
  simp only [ofStarted, World.process_heard, hwait]
  cases command.wait w (started.program (w.process started.argv)).status <;> rfl

@[simp] theorem hushed_left (t : Turn) : t.left.hushed = t.world.hushed :=
  World.hushed_writes t.written

/-- No program is started while anything is held back. -/
theorem children_unheld (argv : List Bytes) :
    ∀ c ∈ (of programs w argv).children, c.heldOutput = [] ∧ c.heldErrors = [] := by
  refine of_cases programs w argv ?_ ?_ ?_ ?_
  · simp
  · intro b name args _ _
    simp [ofBuiltin_children]
  · simp [ofFailure]
  · simp [ofStarted]

end Turn

end TinyShell
