import TinyShell.Proofs.Turn

/-!
# Accounts

An `Account` is what a shell has brought about so far, counting what it still holds as
handed on. `Shell.execute_steady`: while its streams never fail, a shell that executes a row
of tokens adds the turn of that row to its account, however much it held before.
-/

namespace TinyShell

structure Account where
  world : World
  output : Bytes := []
  errors : Bytes := []
  children : List Child := []
  /-- Without those of reading lines and cutting them into tokens. -/
  events : List Event := []

namespace Account

def add (a : Account) (t : Turn) : Account where
  world := t.left
  output := a.output ++ t.output
  errors := a.errors ++ t.errors
  children := a.children ++ t.children
  events := a.events ++ t.events

/-- After the prompt. -/
def prompted (a : Account) (prompt : String) : Account where
  world := a.world.putOutput (utf8 prompt)
  output := a.output ++ utf8 prompt
  errors := a.errors
  children := a.children
  events := a.events

def noting (a : Account) (e : Event) : Account := { a with events := a.events ++ [e] }

/-- After turns that a prompt comes before each. -/
def through (a : Account) (prompt : String) (turns : List Turn) : Account :=
  turns.foldl (fun a t => (a.prompted prompt).add t) a

theorem add_idle (a : Account) (w : World) : a.add { world := w } = { a with world := w } := by
  simp [add, Turn.left_eq]

theorem add_noting (a : Account) (t : Turn) (e : Event) :
    a.add (t.noting e) = (a.add t).noting e := by
  simp [add, noting, Turn.noting, Turn.left, Turn.written]

theorem children_through (a : Account) (prompt : String) (turns : List Turn) :
    (a.through prompt turns).children = a.children ++ turns.flatMap (·.children) := by
  induction turns generalizing a with
  | nil => simp [through]
  | cons t turns ih =>
    have h := ih ((a.prompted prompt).add t)
    simpa [through, add, prompted] using h

end Account

namespace Shell

def account (sh : Shell) : Account where
  world := sh.settle.world
  output := sh.out.written
  errors := sh.err.written
  children := sh.children
  events := sh.trace.filter (·.level = .debug)

/-- `sh'` is `sh` after the turn `t`, and holds no more of its output than it has to. -/
structure Took (sh : Shell) (t : Turn) (sh' : Shell) : Prop where
  steady : sh'.Steady
  account : sh'.account = sh.account.add t
  held : sh'.out.held = [] ∨ sh'.out.held = sh.out.held ++ t.output

variable {sh : Shell}

theorem world_account (h : sh.Steady) : sh.account.world = sh.world.putOutput sh.out.held := by
  simp [account, settle, Writer.drain, h.held]

/-- With nothing held back, all has arrived. -/
theorem world_unheld (h : sh.Steady) (hheld : sh.out.held = []) :
    sh.account.world = sh.world := by
  rw [world_account h, hheld, World.putOutput_nil]

theorem hushed_account (h : sh.Steady) : sh.account.world.hushed = sh.world.hushed := by
  rw [world_account h, World.hushed_putOutput]

namespace Took

variable {sh₁ : Shell} {t : Turn}

theorem written (h : sh.Took t sh₁) : sh₁.out.written = sh.out.written ++ t.output :=
  congrArg Account.output h.account

theorem told (h : sh.Took t sh₁) : sh₁.err.written = sh.err.written ++ t.errors :=
  congrArg Account.errors h.account

theorem children (h : sh.Took t sh₁) : sh₁.children = sh.children ++ t.children :=
  congrArg Account.children h.account

theorem hushed (h : sh.Took t sh₁) : sh₁.world.hushed = t.world.hushed := by
  rw [← hushed_account h.steady, h.account]
  exact Turn.hushed_left t

end Took

/-- A shell that has done no more than write on its output and note events. -/
theorem took_output (h : sh.Steady) (w : World) (calls : Nat) (output : Bytes)
    {events : List Event} (he : ∀ e ∈ events, e.level = .debug) (signal : Continuation) :
    sh.Took { signal, world := w.putOutput sh.out.held, output, events }
      { sh with world := w, out := sh.out.taking calls output, trace := sh.trace ++ events } where
  steady := ⟨h.out, h.err, h.held, h.log⟩
  account := by
    have hf : events.filter (·.level = .debug) = events :=
      List.filter_eq_self.2 fun e hm => by simp [he e hm]
    simp [account, settle, Writer.drain, h.held, Account.add, Turn.left_eq, hf,
      World.putOutput_append]
  held := .inr rfl

/-- The report of a failure completes the turn that led to it. -/
theorem Took.carryOn {t : Turn} (h : sh.Took t sh₁) (ht : t.errors = []) (text : String) :
    ∃ sh₂, sh₁.carryOn text = (.ok .continue, sh₂) ∧
      sh.Took { t with errors := diagnostic text } sh₂ := by
  refine ⟨_, carryOn_steady h.steady text, ⟨h.steady.out, h.steady.err, rfl, h.steady.log⟩, ?_,
    h.held⟩
  have hw := h.account
  simp only [Shell.account, settle, Writer.drain, h.steady.held, World.putErrors_nil, Account.add,
    Turn.left_eq, ht, List.append_nil, Account.mk.injEq] at hw
  obtain ⟨hw, ho, hr, hc, hv⟩ := hw
  simp [Shell.account, settle, Writer.drain, Account.add, Turn.left_eq,
    World.putErrors_putOutput, hw, ho, hr, hc, hv]

theorem runBuiltin_steady (h : sh.Steady) (b : Builtin) (argv : List Bytes) :
    let t := Turn.ofBuiltin sh.account.world b argv
    ∃ sh', (sh.emit (.runningBuiltin (Command.nameOf argv))).runBuiltin b argv =
      (.ok t.signal, sh') ∧ sh.Took t sh' := by
  intro t
  have hr := b.execute_reliable argv sh.world h.out
  have hw := b.execute_putOutput argv sh.world { policy := .reliable } sh.out.held
  have he := b.level_events argv sh.world { policy := .reliable }
  generalize b.execute argv sh.world { policy := .reliable } = result at hr hw he
  have he' : ∀ e ∈ Event.runningBuiltin (Command.nameOf argv) :: result.events,
      e.level = .debug := List.forall_mem_cons.2 ⟨rfl, he⟩
  have htook := took_output h result.world result.out.turn result.out.written he'
  rw [emit_silent h.log]
  cases ho : result.outcome with
  | ok signal =>
    have ht : t = {
        signal, world := result.world.putOutput sh.out.held, output := result.out.written
        events := .runningBuiltin (Command.nameOf argv) :: result.events } := by
      simp [t, Turn.ofBuiltin, world_account h, hw, ho]
    refine ⟨_, ?_, ht ▸ htook signal⟩
    simp [runBuiltin, hr, ho, ht, emitAll_silent, h.log]
  | error complaint =>
    have ht : t = {
        world := result.world.putOutput sh.out.held, output := result.out.written
        errors := diagnostic complaint.message
        events := .runningBuiltin (Command.nameOf argv) :: result.events } := by
      simp [t, Turn.ofBuiltin, world_account h, hw, ho]
    obtain ⟨sh', hc, hs⟩ := (htook .continue).carryOn rfl complaint.message
    refine ⟨sh', ?_, ht ▸ hs⟩
    simp [runBuiltin, hr, ho, ht, emitAll_silent, h.log, ← hc]

theorem account_emitAll (h : sh.Steady) (events : List Event) :
    (sh.emitAll events).Steady ∧ (sh.emitAll events).account =
      { sh.account with events := sh.account.events ++ events.filter (·.level = .debug) } := by
  rw [emitAll_silent h.log]
  exact ⟨⟨h.out, h.err, h.held, h.log⟩, by simp [account, settle, Writer.drain]⟩

/-- Cutting a line into tokens is a detail. -/
theorem account_tokens (h : sh.Steady) (line : Bytes) :
    (sh.emitAll (Token.split line).events).Steady ∧
      (sh.emitAll (Token.split line).events).account = sh.account := by
  obtain ⟨hs, hnoted⟩ := account_emitAll h (Token.split line).events
  have he : (Token.split line).events.filter (·.level = .debug) = [] := by
    simp [Token.Buffer.events, Event.level]
  exact ⟨hs, by rw [hnoted, he, List.append_nil]⟩

theorem account_emit (h : sh.Steady) {e : Event} (he : e.level = .debug) :
    (sh.emit e).Steady ∧ (sh.emit e).account = sh.account.noting e := by
  have hs := account_emitAll h [e]
  simpa [emitAll, he, Account.noting] using hs

theorem Took.emit {t : Turn} (h : sh.Took t sh₁) {e : Event} (he : e.level = .debug) :
    sh.Took (t.noting e) (sh₁.emit e) := by
  obtain ⟨hs, ha⟩ := account_emit h.steady he
  exact ⟨hs, by rw [ha, h.account, Account.add_noting], h.held⟩

/-- A program that runs to its end, before its status is asked for. -/
theorem Took.host {events : List Event} (h : sh.Took { world := sh₁.world, events } sh₁)
    (hheld : sh₁.out.held = []) (command : Command) (started : Started) :
    let effect := started.program (sh₁.world.process started.argv)
    (sh₁.host command started).1 = effect.status ∧ sh.Took {
      world := { sh₁.world with
        files := effect.files, input := sh₁.world.input.drop effect.consumed }
      spoken := effect.written
      events := events ++ [.spawned command.program]
      children := [{
        file := started.file, argv := command.argv, cwd := sh₁.world.cwd, status := effect.status,
        heldOutput := [], heldErrors := [] }] } (sh₁.host command started).2 := by
  intro effect
  have ha := h.account
  simp only [Shell.account, settle, Writer.drain, h.steady.held, hheld, World.putErrors_nil,
    World.putOutput_nil, Account.add, Turn.left_eq, List.foldl_nil, List.append_nil,
    Account.mk.injEq] at ha
  obtain ⟨-, ho, hr, hc, hv⟩ := ha
  have hlevel : (Event.spawned command.program).level = .debug := rfl
  simp only [Shell.host, emit_silent h.steady.log]
  refine ⟨rfl, ⟨h.steady.out, h.steady.err, h.steady.held, h.steady.log⟩, ?_, .inl hheld⟩
  simp [Shell.account, settle, Writer.drain, Account.add, Turn.left_eq, World.apply, effect,
    h.steady.held, hheld, ho, hr, hc, hv, hlevel]

variable (programs : Programs)

theorem runProgram_steady (h : sh.Steady) (argv : List Bytes) :
    let t := Turn.ofProgram programs sh.account.world argv
    ∃ sh', sh.runProgram programs argv = (.ok t.signal, sh') ∧ sh.Took t sh' := by
  intro t
  -- Once the output is flushed, the world of the shell is the one in its account.
  let sh₀ : Shell := { sh with out := sh.out.flushed, world := sh.account.world }
  have hs₀ : sh.Took { world := sh.account.world } sh₀ :=
    ⟨⟨h.out, h.err, h.held, h.log⟩,
      by simp [account, settle, Writer.drain, h.held, sh₀, Account.add, Turn.left_eq], .inl rfl⟩
  have hflush : sh.flushOut = (.ok (), sh₀) := by
    rw [flushOut_reliable h.out, ← world_account h]
  obtain ⟨sh₁, hemit⟩ : ∃ sh₁, sh₀.emit (.launching (Command.nameOf argv)) = sh₁ := ⟨_, rfl⟩
  have hw : sh₁.world = sh.account.world := by rw [← hemit, emit_silent hs₀.steady.log]
  have hs₁ : sh.Took { world := sh₁.world, events := [.launching (Command.nameOf argv)] } sh₁ := by
    rw [hw, ← hemit]; exact hs₀.emit rfl
  have hheld : sh₁.out.held = [] := by rw [← hemit]; rfl
  have ht : t = Turn.ofProgram programs sh₁.world argv := by rw [hw]
  simp only [runProgram, hflush, hemit]
  rw [ht, Turn.ofProgram]
  refine launch_cases programs sh₁ sh₁.world.effectiveSearchPath argv ?_ ?_ ?_ ?_
  · intro e hresolve
    simp only [hresolve]
    exact hs₁.carryOn rfl e.message
  · intro command e hresolve hspawn
    simp only [hresolve, hspawn]
    exact hs₁.carryOn rfl e.message
  · intro command started e hresolve hspawn hwait
    obtain ⟨hstatus, hs₂⟩ := hs₁.host hheld command started
    rw [Command.argv_of_resolve hresolve] at hs₂
    rw [hstatus, wait_host] at hwait
    simp only [hresolve, hspawn, Turn.ofStarted, hwait]
    exact hs₂.carryOn rfl e.message
  · intro command started status hresolve hspawn hwait
    obtain ⟨hstatus, hs₂⟩ := hs₁.host hheld command started
    rw [Command.argv_of_resolve hresolve] at hs₂
    rw [hstatus, wait_host] at hwait
    simp only [hresolve, hspawn, Turn.ofStarted, hwait]
    exact ⟨_, rfl, hs₂.emit rfl⟩

/-- A shell whose streams never fail takes the turn that the tokens stand for. -/
theorem execute_steady (h : sh.Steady) (argv : List Bytes) :
    let t := Turn.of programs sh.account.world argv
    ∃ sh', sh.execute programs argv = (.ok t.signal, sh') ∧ sh.Took t sh' := by
  intro t
  cases argv with
  | nil =>
    have ht : t = { world := sh.account.world } := rfl
    exact ⟨sh, rfl, h, by simp [ht, Account.add, Turn.left_eq], .inr (by simp [ht])⟩
  | cons name args =>
    cases hb : Builtin.find? name with
    | some b =>
      have ht : t = Turn.ofBuiltin sh.account.world b (name :: args) := Turn.of_builtin _ _ hb _
      rw [ht, execute, hb]
      exact runBuiltin_steady h b (name :: args)
    | none =>
      have ht : t = Turn.ofProgram programs sh.account.world (name :: args) :=
        Turn.of_foreign _ _ hb _
      rw [ht, execute, hb]
      exact runProgram_steady programs h (name :: args)

theorem executeLine_steady (h : sh.Steady) (line : Bytes) :
    let t := Turn.of programs sh.account.world (Token.words line)
    ∃ sh', sh.executeLine programs line = (.ok t.signal, sh') ∧ sh.Took t sh' := by
  intro t
  obtain ⟨hs, ha⟩ := account_tokens h line
  obtain ⟨sh', hx, ht⟩ := execute_steady programs hs (Token.words line)
  rw [ha] at hx ht
  refine ⟨sh', ?_, ht.steady, by rw [ht.account, ha], by simpa using ht.held⟩
  rw [executeLine, Token.split_tokens, hx]

/-- What has arrived on the descriptors, or is held back, has no say in the turn. -/
theorem executeLine_turn (h : sh.Steady) (line : Bytes) :
    let t := Turn.of programs sh.world (Token.words line)
    let result := sh.executeLine programs line
    result.1 = .ok t.signal ∧ result.2.err.written = sh.err.written ++ t.errors ∧
      result.2.children = sh.children ++ t.children ∧
      result.2.world.hushed = t.world.hushed := by
  intro t
  obtain ⟨sh', hx, ht⟩ := executeLine_steady programs h line
  rw [World.eq_heard (hushed_account h), Turn.of_heard] at hx ht
  rw [hx]
  exact ⟨rfl, ht.told, ht.children, ht.hushed⟩

end Shell

end TinyShell
