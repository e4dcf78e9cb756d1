import TinyShell.Shell

/-!
# Sessions

`Shell.run` shows a prompt, reads a line and executes it, until `exit`, the end of input
or a failure of the shell's own streams. A command can only take bytes away from
descriptor 0 (`Shell.input_executeLine`), so the source runs dry.
-/

namespace TinyShell.Shell

/-- `sh'` has read on from where `sh` was on descriptor 0, or is there still. -/
def ReadsOn (sh sh' : Shell) : Prop := ∃ count, sh'.world.input = sh.world.input.drop count

namespace ReadsOn

theorem of_eq {sh sh' : Shell} (h : sh'.world.input = sh.world.input) : ReadsOn sh sh' :=
  ⟨0, by rw [h, Input.drop_zero]⟩

theorem refl (sh : Shell) : ReadsOn sh sh := of_eq rfl

theorem trans {sh₁ sh₂ sh₃ : Shell} (h₁ : ReadsOn sh₁ sh₂) (h₂ : ReadsOn sh₂ sh₃) :
    ReadsOn sh₁ sh₃ := by
  obtain ⟨m, h₁⟩ := h₁
  obtain ⟨n, h₂⟩ := h₂
  exact ⟨m + n, by rw [h₂, h₁]; cases sh₁.world.input <;> simp [Input.drop]⟩

theorem size_le {sh sh' : Shell} (h : ReadsOn sh sh') (source : Source) :
    source.size sh'.world.input ≤ source.size sh.world.input := by
  obtain ⟨count, h⟩ := h
  rw [h]
  exact source.size_drop_le _ count

end ReadsOn

@[simp] theorem input_putOutput (w : World) (bytes : Bytes) :
    (w.putOutput bytes).input = w.input := by
  unfold World.putOutput; split <;> rfl

@[simp] theorem input_putErrors (w : World) (bytes : Bytes) :
    (w.putErrors bytes).input = w.input := rfl

theorem input_write (w : World) (written : Outlet × Bytes) :
    (w.write written).input = w.input := by
  rcases written with ⟨_ | _, bytes⟩
  · exact input_putOutput w bytes
  · exact input_putErrors w bytes

theorem input_writes (w : World) (writes : List (Outlet × Bytes)) :
    (writes.foldl World.write w).input = w.input := by
  induction writes generalizing w with
  | nil => rfl
  | cons one writes ih => exact (ih (w.write one)).trans (input_write w one)

@[simp] theorem input_apply (w : World) (e : Effect) :
    (w.apply e).input = w.input.drop e.consumed := input_writes _ e.written

@[simp] theorem input_emit (sh : Shell) (e : Event) :
    (sh.emit e).world.input = sh.world.input := rfl

@[simp] theorem input_emitAll (sh : Shell) (events : List Event) :
    (sh.emitAll events).world.input = sh.world.input := by
  induction events generalizing sh with
  | nil => rfl
  | cons e events ih => exact ih (sh.emit e)

@[simp] theorem input_flushOut (sh : Shell) : sh.flushOut.2.world.input = sh.world.input := by
  unfold flushOut; split <;> simp

@[simp] theorem input_flushErr (sh : Shell) : sh.flushErr.2.world.input = sh.world.input := by
  unfold flushErr; split <;> simp

@[simp] theorem input_report (sh : Shell) (text : String) :
    (sh.report text).2.world.input = sh.world.input := by
  unfold report; split <;> simp

@[simp] theorem input_carryOn (sh : Shell) (text : String) :
    (sh.carryOn text).2.world.input = sh.world.input := by
  have := input_report sh text
  unfold carryOn; split <;> simp_all

theorem input_runBuiltin (sh : Shell) (b : Builtin) (argv : List Bytes) :
    (sh.runBuiltin b argv).2.world.input = sh.world.input := by
  unfold runBuiltin
  simp only
  split <;> simp [Builtin.input_execute]

theorem readsOn_launch (programs : Programs) (sh : Shell) (search : Bytes)
    (argv : List Bytes) : ReadsOn sh (sh.launch programs search argv).2 := by
  refine launch_cases programs sh search argv ?_ ?_ ?_ ?_
  · exact fun _ _ => .refl sh
  · exact fun _ _ _ _ => .refl sh
  · exact fun _ _ _ _ _ _ => ⟨_, input_apply _ _⟩
  · exact fun _ _ _ _ _ _ => ⟨_, input_apply _ _⟩

theorem readsOn_runProgram (programs : Programs) (sh : Shell) (argv : List Bytes) :
    ReadsOn sh (sh.runProgram programs argv).2 := by
  have h := input_flushOut sh
  unfold runProgram
  split
  · next h' => rw [h'] at h; exact .of_eq h
  · next sh' h' =>
    rw [h'] at h
    have h₁ : ReadsOn sh (sh'.emit (.launching (Command.nameOf argv))) := .of_eq h
    have h₂ := readsOn_launch programs (sh'.emit (.launching (Command.nameOf argv)))
      (sh'.emit (.launching (Command.nameOf argv))).world.effectiveSearchPath argv
    simp only
    split
    · next h₃ => rw [h₃] at h₂; exact h₁.trans h₂
    · next e sh₃ h₃ =>
      rw [h₃] at h₂
      exact (h₁.trans h₂).trans (.of_eq (input_carryOn sh₃ e.message))

theorem readsOn_execute (programs : Programs) (sh : Shell) (argv : List Bytes) :
    ReadsOn sh (sh.execute programs argv).2 := by
  unfold execute
  split
  · exact .refl sh
  · split
    · exact .of_eq (input_runBuiltin _ _ _)
    · exact readsOn_runProgram programs sh _

theorem readsOn_executeLine (programs : Programs) (sh : Shell) (line : Bytes) :
    ReadsOn sh (sh.executeLine programs line).2 :=
  .trans (.of_eq (input_emitAll sh _)) (readsOn_execute programs _ _)

theorem size_take_lt {sh sh' : Shell} {source source' : Source} {line : Bytes}
    (h : sh.take source = (.ok (.line line), source', sh')) :
    source'.size sh'.world.input < source.size sh.world.input := by
  rcases h' : source.next sh.world.input with ⟨reading, events, source₁, input⟩
  simp only [take, h', Prod.mk.injEq] at h
  obtain ⟨rfl, rfl, rfl⟩ := h
  rw [input_emitAll]
  exact source.size_next_lt sh.world.input h'

theorem input_ask (sh : Shell) (prompt : String) :
    (sh.ask prompt).2.world.input = sh.world.input := by
  unfold ask; split <;> simp

theorem size_readLine_lt {sh sh' : Shell} {prompt : String} {source source' : Source}
    {line : Bytes} (h : sh.readLine prompt source = (.ok (.line line), source', sh')) :
    source'.size sh'.world.input < source.size sh.world.input := by
  have h₁ := input_ask sh prompt
  unfold readLine at h
  split at h
  · split at h
    · next h₂ =>
      rw [h₂] at h₁
      rw [← h₁]
      exact size_take_lt h
    · simp at h
  · exact size_take_lt h

variable (programs : Programs)

def run (prompt : String) (sh : Shell) (source : Source) :
    Except ShellError Shutdown × Source × Shell :=
  match _ : sh.readLine prompt source with
  | (.error e, source, sh) => (.error e, source, sh)
  | (.ok .endOfInput, source, sh) => (.ok .endOfInput, source, sh.emit .endOfInput)
  | (.ok (.line line), source', sh') =>
    match _ : sh'.executeLine programs line with
    | (.error e, sh) => (.error e, source', sh)
    | (.ok .terminate, sh) => (.ok .exit, source', sh.emit .exitRequested)
    | (.ok .continue, sh) => run prompt sh source'
termination_by source.size sh.world.input
decreasing_by
  have h := (readsOn_executeLine programs sh' line).size_le source'
  rw [‹sh'.executeLine programs line = _›] at h
  exact Nat.lt_of_le_of_lt h (size_readLine_lt ‹_›)

variable {programs} {prompt : String} {sh sh₁ sh₂ : Shell} {source source₁ : Source}

theorem run_failed {e : ShellError} (h : sh.readLine prompt source = (.error e, source₁, sh₁)) :
    run programs prompt sh source = (.error e, source₁, sh₁) := by
  rw [run]; split <;> simp_all

theorem run_ended (h : sh.readLine prompt source = (.ok .endOfInput, source₁, sh₁)) :
    run programs prompt sh source = (.ok .endOfInput, source₁, sh₁.emit .endOfInput) := by
  rw [run]; split <;> simp_all

/-- A line that is read is executed, and what comes of it decides whether there is a next. -/
theorem run_line {line : Bytes}
    (h : sh.readLine prompt source = (.ok (.line line), source₁, sh₁)) :
    run programs prompt sh source =
      match sh₁.executeLine programs line with
      | (.error e, sh) => (.error e, source₁, sh)
      | (.ok .terminate, sh) => (.ok .exit, source₁, sh.emit .exitRequested)
      | (.ok .continue, sh) => run programs prompt sh source₁ := by
  rw [run]
  split
  · simp_all
  · simp_all
  · next h' =>
    rw [h] at h'
    simp only [Prod.mk.injEq, Except.ok.injEq, Reading.line.injEq] at h'
    obtain ⟨rfl, rfl, rfl⟩ := h'
    split <;> simp_all

variable {line : Bytes}

theorem run_continued (h : sh.readLine prompt source = (.ok (.line line), source₁, sh₁))
    (hx : sh₁.executeLine programs line = (.ok .continue, sh₂)) :
    run programs prompt sh source = run programs prompt sh₂ source₁ := by
  rw [run_line h, hx]

theorem run_stopped {e : ShellError}
    (h : sh.readLine prompt source = (.ok (.line line), source₁, sh₁))
    (hx : sh₁.executeLine programs line = (.error e, sh₂)) :
    run programs prompt sh source = (.error e, source₁, sh₂) := by
  rw [run_line h, hx]

theorem run_terminated (h : sh.readLine prompt source = (.ok (.line line), source₁, sh₁))
    (hx : sh₁.executeLine programs line = (.ok .terminate, sh₂)) :
    run programs prompt sh source = (.ok .exit, source₁, sh₂.emit .exitRequested) := by
  rw [run_line h, hx]

end TinyShell.Shell
