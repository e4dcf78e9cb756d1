import TinyShell.Proofs.Account

/-!
# An output that takes so many bytes

`Writer.limited` takes `n` bytes in all. While they last there is no difference to a writer
that never fails (`Shell.execute_within`); the command that writes past them fails, and has done
nothing but to write what still fitted (`Shell.execute_past`).
-/

namespace TinyShell

/-! ## Writers -/

namespace Writer

/-- The writer with room for `n` bytes in all. -/
def limited (w : Writer) (n : Nat) (fault : IoError) : Writer :=
  { w with policy := .limited n fault }

variable {w : Writer} {n : Nat} {fault : IoError}

theorem write_within {bytes : Bytes} (h : (w.written ++ bytes).length ≤ n) :
    (w.limited n fault).write bytes = (.ok (), (w.taking 1 bytes).limited n fault) := by
  have hroom : bytes.length ≤ n - w.written.length := by
    simp only [List.length_append] at h
    omega
  simp only [write, limited, Policy.limited, if_pos hroom]
  rfl

theorem write_past (fault : IoError) {bytes : Bytes} (hn : w.written.length ≤ n)
    (h : n < (w.written ++ bytes).length) :
    ∃ taken, (w.limited n fault).write bytes = (.error fault, (w.taking 1 taken).limited n fault) ∧
      w.written ++ taken = (w.written ++ bytes).take n := by
  have hroom : ¬ bytes.length ≤ n - w.written.length := by
    simp only [List.length_append] at h
    omega
  refine ⟨bytes.take (n - w.written.length), ?_, ?_⟩
  · simp only [write, limited, Policy.limited, if_neg hroom]
    rfl
  · rw [List.take_append, List.take_of_length_le hn]

theorem writeAll_within {pieces : List Bytes} (h : (w.written ++ pieces.flatten).length ≤ n) :
    (w.limited n fault).writeAll pieces =
      (.ok (), (w.taking pieces.length pieces.flatten).limited n fault) := by
  induction pieces generalizing w with
  | nil => simp [writeAll]
  | cons bytes pieces ih =>
    have hhead : (w.written ++ bytes).length ≤ n := by
      simp only [List.flatten_cons, List.length_append] at h ⊢
      omega
    rw [writeAll, write_within hhead]
    simp only [ih (w := w.taking 1 bytes) (by simpa using h), taking_taking, List.length_cons,
      List.flatten_cons, Nat.add_comm]

theorem writeAll_past (fault : IoError) {pieces : List Bytes} (hn : w.written.length ≤ n)
    (h : n < (w.written ++ pieces.flatten).length) :
    ∃ calls taken, (w.limited n fault).writeAll pieces =
        (.error fault, (w.taking calls taken).limited n fault) ∧
      w.written ++ taken = (w.written ++ pieces.flatten).take n := by
  induction pieces generalizing w with
  | nil => simp at h; omega
  | cons bytes pieces ih =>
    by_cases hhead : (w.written ++ bytes).length ≤ n
    · obtain ⟨calls, taken, hall, htaken⟩ := ih (w := w.taking 1 bytes) hhead (by simpa using h)
      refine ⟨1 + calls, bytes ++ taken, ?_, by simpa using htaken⟩
      rw [writeAll, write_within hhead]
      simp only [hall, taking_taking]
    · obtain ⟨taken, hwrite, htaken⟩ := write_past fault hn (Nat.lt_of_not_le hhead)
      refine ⟨1, taken, by simp only [writeAll, hwrite], ?_⟩
      rw [htaken, List.flatten_cons, ← List.append_assoc,
        List.take_append_of_le_length (Nat.le_of_not_le hhead)]

end Writer

/-! ## Commands -/

variable {n : Nat} {fault : IoError} {programs : Programs} {argv : List Bytes}

theorem Builtin.execute_within (b : Builtin) {w : World} {out : Writer}
    (h : out.policy = .reliable) (hn : (b.execute argv w out).out.written.length ≤ n) :
    b.execute argv w (out.limited n fault) =
      { b.execute argv w out with out := (b.execute argv w out).out.limited n fault } := by
  cases b.conduct argv w with
  | prints pieces _ he =>
    rw [he, print_reliable w h] at hn
    rw [he, he, print_reliable w h, print, Writer.writeAll_within hn]
    rfl
  | complains complaint _ he => rw [he, he]; rfl
  | acts signal events world _ _ _ he => rw [he, he]

namespace Turn

theorem output_awaited (t : Turn) (ended : Except LaunchError ExitStatus) :
    (t.awaited ended).output = t.output := by
  cases ended <;> rfl

/-- Only a built-in command that prints writes on the output of the shell, and it does nothing
else. -/
theorem exists_print {w : World} (h : (of programs w argv).output ≠ []) :
    ∃ name args b pieces, argv = name :: args ∧ Builtin.find? name = some b ∧
      (∀ out, b.execute argv w out = Builtin.print w out pieces) ∧
      of programs w argv =
        { world := w, output := pieces.flatten, events := [.runningBuiltin name] } := by
  revert h
  refine of_cases programs w argv ?_ ?_ ?_ ?_
  · exact fun _ h => absurd rfl h
  · rintro b name args rfl hb h
    cases b.conduct (name :: args) w with
    | prints pieces _ he =>
      refine ⟨name, args, b, pieces, rfl, hb, he, ?_⟩
      simp [ofBuiltin, he, Builtin.print_reliable, Command.nameOf, Writer.taking]
    | complains complaint _ he => simp [ofBuiltin, he, Builtin.complain] at h
    | acts signal events world _ _ _ he => simp [ofBuiltin, he] at h
  · exact fun _ _ _ _ _ h => absurd rfl h
  · exact fun _ _ _ _ _ _ h => absurd (output_awaited _ _) h

end Turn

namespace Shell

/-- The shell with an output that has room for `n` bytes in all. -/
def limited (sh : Shell) (n : Nat) (fault : IoError) : Shell :=
  { sh with out := sh.out.limited n fault }

variable {sh : Shell}

@[simp] theorem limited_world : (sh.limited n fault).world = sh.world := rfl

@[simp] theorem limited_err : (sh.limited n fault).err = sh.err := rfl

@[simp] theorem limited_out : (sh.limited n fault).out = sh.out.limited n fault := rfl

@[simp] theorem out_carryOn (text : String) : (sh.carryOn text).2.out = sh.out := by
  unfold carryOn report flushErr
  rcases sh.err.writeAll (diagnosticPieces text) with ⟨_ | _, err⟩
  · rfl
  · rcases h : err.flush with ⟨_ | _, _⟩ <;> simp [h]

theorem emit_limited (sh : Shell) (e : Event) :
    (sh.limited n fault).emit e = (sh.emit e).limited n fault := rfl

theorem emitAll_limited (sh : Shell) (events : List Event) :
    (sh.limited n fault).emitAll events = (sh.emitAll events).limited n fault := by
  induction events generalizing sh with
  | nil => rfl
  | cons e events ih => exact ih (sh.emit e)

theorem carryOn_limited (text : String) :
    (sh.limited n fault).carryOn text =
      ((sh.carryOn text).1, (sh.carryOn text).2.limited n fault) := by
  simp only [carryOn, report, flushErr, limited_err]
  rcases sh.err.writeAll (diagnosticPieces text) with ⟨_ | _, err⟩
  · rfl
  · rcases h : err.flush with ⟨_ | _, _⟩ <;> simp only [h] <;> rfl

theorem launch_limited (search : Bytes) :
    (sh.limited n fault).launch programs search argv =
      ((sh.launch programs search argv).1, (sh.launch programs search argv).2.limited n fault) := by
  have hhost (command : Command) (started : Started) :
      (sh.limited n fault).host command started =
        ((sh.host command started).1, (sh.host command started).2.limited n fault) := rfl
  simp only [launch, limited_world, hhost]
  cases Command.resolve sh.world search argv with
  | error e => rfl
  | ok command =>
    simp only
    cases command.spawn programs sh.world with
    | error e => rfl
    | ok started =>
      simp only
      generalize sh.host command started = hosted
      cases command.wait hosted.2.world hosted.1 <;> rfl

theorem runProgram_limited (h : sh.out.policy = .reliable) (argv : List Bytes) :
    (sh.limited n fault).runProgram programs argv =
      ((sh.runProgram programs argv).1, (sh.runProgram programs argv).2.limited n fault) := by
  have hflush : (sh.limited n fault).flushOut =
      (.ok (), Shell.limited { sh with
        out := sh.out.flushed, world := sh.world.putOutput sh.out.held } n fault) :=
    flushOut_of_none rfl
  simp only [runProgram, hflush, flushOut_reliable h, emit_limited, limited_world, launch_limited]
  generalize launch programs _ _ argv = launched
  rcases launched with ⟨e | status, sh₁⟩
  · exact carryOn_limited e.message
  · rfl

theorem out_runBuiltin (b : Builtin) (argv : List Bytes) :
    (sh.runBuiltin b argv).2.out = (b.execute argv sh.world sh.out).out := by
  simp only [runBuiltin]
  split <;> simp

theorem runBuiltin_within (sh : Shell) (h : sh.out.policy = .reliable) {b : Builtin}
    (hn : (sh.runBuiltin b argv).2.out.written.length ≤ n) :
    (sh.limited n fault).runBuiltin b argv =
      ((sh.runBuiltin b argv).1, (sh.runBuiltin b argv).2.limited n fault) := by
  rw [out_runBuiltin] at hn
  have hx : b.execute argv (sh.limited n fault).world (sh.limited n fault).out =
      { b.execute argv sh.world sh.out with
        out := (b.execute argv sh.world sh.out).out.limited n fault } := b.execute_within h hn
  have hlimited (world : World) (out : Writer) :
      ({ sh.limited n fault with world, out := out.limited n fault } : Shell) =
        Shell.limited { sh with world, out } n fault := rfl
  simp only [runBuiltin, hx]
  generalize b.execute argv sh.world sh.out = result
  rw [hlimited, emitAll_limited]
  cases result.outcome with
  | ok signal => rfl
  | error complaint => exact carryOn_limited complaint.message

/-- While there is room, it does not matter how much of it there is. -/
theorem execute_within (h : sh.out.policy = .reliable)
    (hn : (sh.execute programs argv).2.out.written.length ≤ n) :
    (sh.limited n fault).execute programs argv =
      ((sh.execute programs argv).1, (sh.execute programs argv).2.limited n fault) := by
  cases argv with
  | nil => rfl
  | cons name args =>
    simp only [execute] at hn ⊢
    cases hb : Builtin.find? name with
    | some b =>
      simp only [hb] at hn
      exact runBuiltin_within (sh.emit (.runningBuiltin name)) h hn
    | none => exact runProgram_limited h (name :: args)

/-- The command that there is no room for is a built-in one. It is told of the fault, and all it
has done is to write what there was room for. -/
theorem execute_past (fault : IoError) (h : sh.Steady) (hn : sh.out.written.length ≤ n)
    (hpast : n < (sh.execute programs argv).2.out.written.length) :
    ∃ sh' : Shell,
      (sh.limited n fault).execute programs argv = (.ok .continue, sh'.limited n fault) ∧
      sh'.Steady ∧ sh'.out.written = (sh.execute programs argv).2.out.written.take n ∧
      sh'.err.written = sh.err.written ++ diagnostic fault.message ∧
      sh'.children = sh.children ∧ sh'.world.hushed = sh.world.hushed := by
  obtain ⟨sh₁, hx, ht⟩ := execute_steady programs h argv
  rw [hx, ht.written] at hpast
  have hprints : (Turn.of programs sh.account.world argv).output ≠ [] := by
    intro hempty
    rw [hempty, List.append_nil] at hpast
    omega
  obtain ⟨name, args, b, pieces, rfl, hb, hprint, hturn⟩ := Turn.exists_print hprints
  rw [hturn] at hpast ht
  have hprint (w : World) (hw : w.hushed = sh.account.world.hushed) (out : Writer) :
      b.execute (name :: args) w out = Builtin.print w out pieces := by
    rw [World.eq_heard hw, b.execute_heard, hprint]; rfl
  obtain ⟨calls, taken, hall, htaken⟩ := Writer.writeAll_past fault hn hpast
  let sh₂ : Shell := {
    sh with out := sh.out.taking calls taken, trace := sh.trace ++ [.runningBuiltin name] }
  have h₂ : sh₂.Steady := ⟨h.out, h.err, h.held, h.log⟩
  refine ⟨(sh₂.carryOn fault.message).2, ?_, ?_⟩
  · have hworld : (sh.limited n fault).world.hushed = sh.account.world.hushed := by
      rw [world_account h, World.hushed_putOutput]; rfl
    have htold : (sh₂.limited n fault).carryOn fault.message =
        (.ok .continue, (sh₂.carryOn fault.message).2.limited n fault) := by
      rw [carryOn_limited, carryOn_steady h₂]
    have hemit : (sh.limited n fault).emit (.runningBuiltin name) =
        { sh.limited n fault with trace := sh.trace ++ [.runningBuiltin name] } :=
      emit_silent (show (sh.limited n fault).log = _ from h.log) _
    simp only [execute, hb, runBuiltin, hemit, hprint _ hworld, Builtin.print, limited_out, hall]
    exact htold
  · rw [carryOn_steady h₂, hx, ht.written]
    exact ⟨⟨h.out, h.err, rfl, h.log⟩, htaken, rfl, rfl, rfl⟩

/-! ## Prompts -/

theorem take_limited (sh : Shell) (source : Source) :
    (sh.limited n fault).take source =
      ((sh.take source).1, (sh.take source).2.1, (sh.take source).2.2.limited n fault) := by
  simp only [take]
  rw [← emitAll_limited]
  rfl

theorem readLine_within (h : sh.out.policy = .reliable) {prompt : String}
    (hn : (sh.out.written ++ utf8 prompt).length ≤ n) (s : Stream) :
    (sh.limited n fault).readLine prompt (.stream s) =
      ((sh.readLine prompt (.stream s)).1, (sh.readLine prompt (.stream s)).2.1,
        (sh.readLine prompt (.stream s)).2.2.limited n fault) := by
  have hprompted : (Source.stream s).isPrompted = true := rfl
  have hask : (sh.limited n fault).ask prompt =
      (.ok (), (sh.ask prompt).2.limited n fault) := by
    rw [ask_reliable h, ask, limited_out, Writer.write_within hn]
    exact flushOut_of_none rfl
  simp only [readLine, hprompted, if_true, hask, ask_reliable h, take_limited]

/-- A prompt that there is no room for is the end. -/
theorem readLine_past (fault : IoError) (hn : sh.out.written.length ≤ n) {prompt : String}
    (hpast : n < (sh.out.written ++ utf8 prompt).length) (s : Stream) :
    ∃ sh' : Shell, (sh.limited n fault).readLine prompt (.stream s) =
        (.error (.io fault), .stream s, sh'.limited n fault) ∧
      sh'.out.written = (sh.out.written ++ utf8 prompt).take n := by
  have hprompted : (Source.stream s).isPrompted = true := rfl
  obtain ⟨taken, hwrite, htaken⟩ := Writer.write_past fault hn hpast
  refine ⟨{ sh with out := sh.out.taking 1 taken }, ?_, htaken⟩
  simp only [readLine, hprompted, if_true, ask, limited_out, hwrite]
  rfl

end Shell

end TinyShell
