import Mathlib.Data.List.Forall2
import TinyShell.Proofs.Growth
import TinyShell.Proofs.Limited

/-!
# Sessions whose output is cut off

The same session twice: with an output that takes everything, and with one that takes `n`
bytes. `Mirrors` relates the shells of the two, a command keeps it (`Mirrors.execute`), and so
does showing a prompt that there is room for. `Shell.run_limited` compares the two sessions:
after the byte that there is no room for, each printing command fails and every other one does
what it does anyway, until a prompt cannot be shown.
-/

namespace TinyShell

variable {n : Nat} {fault : IoError} {programs : Programs} {free sh : Shell}

/-- What `free` would be if its output had taken `n` bytes only: it is `sh.limited n fault`. -/
structure Mirrors (n : Nat) (free sh : Shell) : Prop where
  steady : sh.Steady
  written : sh.out.written = free.out.written.take n
  children : sh.children = free.children
  world : sh.world.hushed = free.world.hushed
  /-- As long as nothing is missing there is no difference. -/
  same : free.out.written.length ≤ n → sh = free

namespace Mirrors

theorem refl (hf : free.Steady) (hn : free.out.written.length ≤ n) : Mirrors n free free :=
  ⟨hf, (List.take_of_length_le hn).symm, rfl, rfl, fun _ => rfl⟩

theorem room (h : Mirrors n free sh) : sh.out.written.length ≤ n := by
  rw [h.written, List.length_take]
  exact Nat.min_le_left n _

theorem take_take_append (a b : Bytes) : (a.take n ++ b).take n = (a ++ b).take n := by
  have hlength : n - (a.take n).length = n - a.length := by
    rw [List.length_take]
    omega
  rw [List.take_append, List.take_append, List.take_take, Nat.min_self, hlength]

/-- What is written next is written here too, up to the `n`-th byte. -/
theorem take_written (h : Mirrors n free sh) (bytes : Bytes) :
    (sh.out.written ++ bytes).take n = (free.out.written ++ bytes).take n := by
  rw [h.written, take_take_append]

/-- There is room for what is written next unless something is missing already, or will be. -/
theorem room_iff (h : Mirrors n free sh) (bytes : Bytes) :
    (sh.out.written ++ bytes).length ≤ n ↔
      (free.out.written ++ bytes).length ≤ n ∨ bytes = [] := by
  rw [← List.length_eq_zero_iff, h.written, List.length_append, List.length_append,
    List.length_take]
  omega

/-- Both go on and write what there is room for. -/
theorem step (h : Mirrors n free sh) {bytes : Bytes}
    (hin : (sh.out.written ++ bytes).length ≤ n) {free' sh' : Shell} (steady : sh'.Steady)
    (hf : free'.out.written = free.out.written ++ bytes)
    (hs : sh'.out.written = sh.out.written ++ bytes) (children : sh'.children = free'.children)
    (world : sh'.world.hushed = free'.world.hushed) (same : sh = free → sh' = free') :
    Mirrors n free' sh' where
  steady := steady
  written := by
    rw [hs, hf, ← h.take_written]
    exact (List.take_of_length_le hin).symm
  children := children
  world := world
  same hnear := same (h.same (by
    rw [hf, List.length_append] at hnear
    omega))

theorem account (hf : free.Steady) (h : Mirrors n free sh) :
    sh.account.world.hushed = free.account.world.hushed := by
  rw [Shell.hushed_account h.steady, Shell.hushed_account hf, h.world]

/-- A command does the same in both, unless it prints more than there is room for. -/
theorem execute (programs : Programs) (hf : free.Steady) (h : Mirrors n free sh)
    (fault : IoError) (argv : List Bytes) :
    let t := Turn.of programs free.account.world argv
    ∃ free' sh' : Shell, free.execute programs argv = (.ok t.signal, free') ∧
      free.Took t free' ∧
      (sh.limited n fault).execute programs argv = (.ok t.signal, sh'.limited n fault) ∧
      Mirrors n free' sh' ∧
      sh'.err.written = sh.err.written ++
        if free'.out.written.length ≤ n ∨ t.output = [] then t.errors
        else Shell.diagnostic fault.message := by
  intro t
  obtain ⟨free', hfx, hft⟩ := Shell.execute_steady programs hf argv
  obtain ⟨sh₁, hsx, hst⟩ := Shell.execute_steady programs h.steady argv
  rw [World.eq_heard (h.account hf), Turn.of_heard] at hsx hst
  have hroom := h.room_iff t.output
  rw [← hft.written] at hroom
  by_cases hin : (sh.out.written ++ t.output).length ≤ n
  · refine ⟨free', sh₁, hfx, hft, ?_, h.step hin hst.steady hft.written hst.written ?_ ?_ ?_, ?_⟩
    · rw [Shell.execute_within h.steady.out (by rw [hsx, hst.written]; exact hin), hsx]
    · rw [hst.children, hft.children, h.children]
    · rw [hst.hushed, hft.hushed]; rfl
    · rintro rfl
      rw [hfx] at hsx
      exact (Prod.mk.inj hsx).2.symm
    · rw [if_pos (hroom.1 hin), hst.told]
  · have hpast : n < (sh.execute programs argv).2.out.written.length := by
      rw [hsx, hst.written]
      exact Nat.lt_of_not_le hin
    obtain ⟨sh', hx, hsteady, hw, herr, hchildren, hworld⟩ :=
      Shell.execute_past fault h.steady h.room hpast
    have hfar := fun hwithin => hin (hroom.2 hwithin)
    obtain ⟨name, args, b, pieces, -, -, -, hprint⟩ :=
      Turn.exists_print fun hempty => hfar (.inr hempty)
    refine ⟨free', sh', hfx, hft, ?_,
      ⟨hsteady, ?_, ?_, ?_, fun hnear => absurd (.inl hnear) hfar⟩, ?_⟩
    · rw [hx, show t.signal = .continue from congrArg Turn.signal hprint]
    · rw [hw, hsx, hst.written, hft.written]
      exact h.take_written _
    · rw [hchildren, h.children, hft.children, hprint, List.append_nil]
    · rw [hworld, h.world, hft.hushed, hprint, Shell.hushed_account hf]
    · rw [if_neg hfar, herr]

theorem emitAll (hf : free.Steady) (h : Mirrors n free sh) (events : List Event) :
    Mirrors n (free.emitAll events) (sh.emitAll events) := by
  rw [Shell.emitAll_silent hf.log, Shell.emitAll_silent h.steady.log]
  refine ⟨⟨h.steady.out, h.steady.err, h.steady.held, h.steady.log⟩, h.written, h.children,
    h.world, fun hnear => ?_⟩
  rw [h.same hnear]

/-- The prompt is shown in both, and the same is read, unless there is no room for it. -/
theorem readLine (hf : free.Steady) (h : Mirrors n free sh) (fault : IoError) {prompt : String}
    {s : Stream} {reading : Except ShellError Reading} {source : Source} {free' : Shell}
    (hread : free.readLine prompt (.stream s) = (reading, source, free')) :
    (∃ sh' : Shell, (free'.out.written.length ≤ n ∨ utf8 prompt = []) ∧
        (sh.limited n fault).readLine prompt (.stream s) =
          (reading, source, sh'.limited n fault) ∧ Mirrors n free' sh') ∨
      ∃ sh' : Shell, n < (free.out.written ++ utf8 prompt).length ∧ utf8 prompt ≠ [] ∧
        (sh.limited n fault).readLine prompt (.stream s) =
          (.error (.io fault), .stream s, sh'.limited n fault) ∧
        sh'.out.written = (free.out.written ++ utf8 prompt).take n := by
  have hinput : (sh.account.world.putOutput (utf8 prompt)).input =
      (free.account.world.putOutput (utf8 prompt)).input := by
    rw [Shell.input_putOutput, Shell.input_putOutput]
    show sh.account.world.hushed.input = free.account.world.hushed.input
    rw [h.account hf]
  rcases hn : s.next (free.account.world.putOutput (utf8 prompt)).input with
    ⟨reading, events, s', input⟩
  obtain ⟨free', hfr, hfs, -, hfa⟩ := Shell.readLine_steady hf prompt s hn
  obtain ⟨sh₁, hsr, hss, -, hsa⟩ := Shell.readLine_steady h.steady prompt s (hinput ▸ hn)
  rw [hread] at hfr
  cases hfr
  have hfw : free'.out.written = free.out.written ++ utf8 prompt := congrArg Account.output hfa
  have hsw : sh₁.out.written = sh.out.written ++ utf8 prompt := congrArg Account.output hsa
  have hroom := h.room_iff (utf8 prompt)
  by_cases hin : (sh.out.written ++ utf8 prompt).length ≤ n
  · refine .inl ⟨sh₁, by rw [hfw]; exact hroom.1 hin, ?_, h.step hin hss hfw hsw ?_ ?_ ?_⟩
    · rw [Shell.readLine_within h.steady.out hin, hsr]
    · have hfc : free'.children = free.children := congrArg Account.children hfa
      have hsc : sh₁.children = sh.children := congrArg Account.children hsa
      rw [hfc, hsc, h.children]
    · have hinput (w : World) : ({ w.putOutput (utf8 prompt) with input } : World).hushed =
          { w.hushed with input } := by rw [World.putOutput_eq]; rfl
      rw [← Shell.hushed_account hss, ← Shell.hushed_account hfs, hsa, hfa]
      exact (hinput _).trans (by rw [h.account hf]; exact (hinput _).symm)
    · rintro rfl
      rw [hread] at hsr
      exact (Prod.mk.inj (Prod.mk.inj hsr).2).2.symm
  · have hfar := not_or.1 fun hwithin => hin (hroom.2 hwithin)
    obtain ⟨sh', hr, hw⟩ := Shell.readLine_past fault h.room (Nat.lt_of_not_le hin) s
    exact .inr ⟨sh', Nat.lt_of_not_le hfar.1, hfar.2, hr, by rw [hw]; exact h.take_written _⟩

end Mirrors

/-! ## Lines -/

/-- `y` is the line `x` where there is room for `n` bytes of output: the same is done, and if
what it prints goes past the room, the only thing told is the fault. -/
structure Mirrored (n : Nat) (fault : IoError) (x y : Execution) : Prop where
  line : y.line = x.line
  outcome : y.outcome = x.outcome
  found : y.before.world.hushed = x.before.world.hushed
  left : y.after.world.hushed = x.after.world.hushed
  children : y.after.children = x.after.children
  written : y.after.out.written = x.after.out.written.take n
  told : y.told =
    if x.after.out.written.length ≤ n ∨ x.printed = [] then x.told
    else Shell.diagnostic fault.message

theorem Mirrors.executeLine (programs : Programs) (hf : free.Steady) (h : Mirrors n free sh)
    (fault : IoError) (line : Bytes) :
    let x := Execution.of programs free line
    let y := Execution.of programs (sh.limited n fault) line
    Mirrored n fault x y ∧
      ∃ sh' : Shell, y.after = sh'.limited n fault ∧ Mirrors n x.after sh' := by
  intro x y
  have hbefore := (Shell.account_emitAll hf (Token.split line).events).1
  have hm := h.emitAll hf (Token.split line).events
  obtain ⟨free', sh', hfx, hft, hsx, hm', herr⟩ :=
    hm.execute programs hbefore fault (Token.words line)
  have hy : y.before = (sh.emitAll (Token.split line).events).limited n fault :=
    Shell.emitAll_limited sh _
  let t := Turn.of programs (free.emitAll (Token.split line).events).account.world x.argv
  have hafter : x.after = free' := congrArg Prod.snd hfx
  have hprinted : x.printed = t.output := by
    rw [Execution.printed, hafter, hft.written]
    exact List.drop_left
  have htold : x.told = t.errors := by
    rw [Execution.told, hafter, hft.told]
    exact List.drop_left
  rw [← hy] at hsx
  have hyafter : y.after = sh'.limited n fault := congrArg Prod.snd hsx
  refine ⟨⟨rfl, (congrArg Prod.fst hsx).trans (congrArg Prod.fst hfx).symm, ?_, ?_, ?_, ?_, ?_⟩,
    sh', hyafter, by rw [hafter]; exact hm'⟩
  · rw [hy]; exact hm.world
  · rw [hyafter, hafter]; exact hm'.world
  · rw [hyafter, hafter]; exact hm'.children
  · rw [hyafter, hafter]; exact hm'.written
  · rw [hprinted, htold, Execution.told, hyafter, hy, hafter]
    show sh'.err.written.drop (sh.emitAll (Token.split line).events).err.written.length = _
    rw [herr]
    exact List.drop_left

/-! ## Sessions -/

variable {prompt : String} {source : Source} {xs : List Execution}
  {full : Except ShellError Shutdown × Source × Shell}

/-- The output of the last line goes past the room, or that of none of them does. -/
def LastPast (n : Nat) (ran : List Execution) : Prop :=
  (∃ earlier x, ran = earlier ++ [x] ∧ x.before.out.written.length ≤ n ∧
    n < x.after.out.written.length ∧ ∀ y ∈ earlier, y.after.out.written.length ≤ n) ∨
  ∀ x ∈ ran, x.after.out.written.length ≤ n

theorem LastPast.cons {ran : List Execution} (h : LastPast n ran) {x : Execution}
    (hbegun : x.before.out.written.length ≤ n)
    (hx : n < x.after.out.written.length → ran = []) : LastPast n (x :: ran) := by
  rcases Nat.lt_or_ge n x.after.out.written.length with hpast | hnear
  · obtain rfl := hx hpast
    exact .inl ⟨[], x, rfl, hbegun, hpast, by simp⟩
  · rcases h with ⟨earlier, y, rfl, hbefore, hafter, hearlier⟩ | hall
    · exact .inl ⟨x :: earlier, y, rfl, hbefore, hafter, List.forall_mem_cons.2 ⟨hnear, hearlier⟩⟩
    · exact .inr (List.forall_mem_cons.2 ⟨hnear, hall⟩)

/-- The same session with room for `n` bytes of output: it runs to the same end, or it is cut
short by a prompt. Of the lines it executes at most the last prints past the room. -/
inductive Cut (n : Nat) (fault : IoError) (prompt : String) (xs : List Execution)
    (full : Except ShellError Shutdown × Source × Shell) :
    List Execution → Except ShellError Shutdown × Source × Shell → Prop where
  | whole {ys : List Execution} {sh : Shell} (rows : List.Forall₂ (Mirrored n fault) xs ys)
      (mirrors : Mirrors n full.2.2 sh)
      (room : full.2.2.out.written.length ≤ n ∨ utf8 prompt = []) :
      Cut n fault prompt xs full ys (full.1, full.2.1, sh.limited n fault)
  | short {ran rest ys : List Execution} {source : Source} {sh : Shell} (split : xs = ran ++ rest)
      (rows : List.Forall₂ (Mirrored n fault) ran ys)
      (written : sh.out.written = full.2.2.out.written.take n)
      (past : n < full.2.2.out.written.length) (shown : utf8 prompt ≠ [])
      (begun : ∀ x ∈ ran, x.before.out.written.length ≤ n)
      (left : ∀ x ∈ rest, n < x.before.out.written.length)
      (last : LastPast n ran) :
      Cut n fault prompt xs full ys (.error (.io fault), source, sh.limited n fault)

/-- A prompt that there is no room for cuts off all that the session would do. -/
theorem Runs.short (hruns : Runs programs prompt free source xs full) (hf : free.Steady)
    (hs : ∃ s, source = .stream s) (hpast : n < (free.out.written ++ utf8 prompt).length)
    (hprompt : utf8 prompt ≠ []) {sh' : Shell}
    (hread : sh.readLine prompt source = (.error (.io fault), source, sh'.limited n fault))
    (hw : sh'.out.written = (free.out.written ++ utf8 prompt).take n) :
    ∃ ys cut, Runs programs prompt sh source ys cut ∧ Cut n fault prompt xs full ys cut := by
  obtain ⟨⟨later, hfull⟩, hrows⟩ := hruns.grows hf hs
  refine ⟨[], _, .failed hread, .short (List.nil_append xs).symm .nil ?_ ?_ hprompt (by simp)
    (fun x hx => Nat.lt_of_lt_of_le hpast (hrows x hx).length_le) (.inr (by simp))⟩
  · rw [hw, ← hfull, List.take_append_of_le_length (Nat.le_of_lt hpast)]
  · rw [← hfull, List.length_append]
    exact Nat.lt_of_lt_of_le hpast (Nat.le_add_right _ _)

theorem Runs.limited (hruns : Runs programs prompt free source xs full) (hf : free.Steady)
    (hs : ∃ s, source = .stream s) (h : Mirrors n free sh) (fault : IoError) :
    ∃ ys cut, Runs programs prompt (sh.limited n fault) source ys cut ∧
      Cut n fault prompt xs full ys cut := by
  induction hruns generalizing sh with
  | failed read =>
    obtain ⟨s, rfl⟩ := hs
    rcases h.readLine hf fault read with
      ⟨sh₁, hroom, hread, hm⟩ | ⟨sh₁, hpast, hprompt, hread, hw⟩
    · exact ⟨[], _, .failed hread, .whole .nil hm hroom⟩
    · exact Runs.short (.failed read) hf ⟨s, rfl⟩ hpast hprompt hread hw
  | @ended _ sh₁ _ _ read =>
    obtain ⟨s, rfl⟩ := hs
    rcases h.readLine hf fault read with
      ⟨sh₁, hroom, hread, hm⟩ | ⟨sh₁, hpast, hprompt, hread, hw⟩
    · have hf₁ := (Shell.written_readLine hf read).1
      refine ⟨[], _, .ended hread, ?_⟩
      rw [Shell.emit_limited]
      exact .whole .nil (hm.emitAll hf₁ [.endOfInput]) hroom
    · exact Runs.short (.ended read) hf ⟨s, rfl⟩ hpast hprompt hread hw
  | @stopped _ sh₁ _ _ line _ read executed =>
    obtain ⟨s, rfl⟩ := hs
    have hf₁ := (Shell.written_readLine hf read).1
    have houtcome := (Execution.of_steady programs hf₁ line).2.1
    rw [executed] at houtcome
    cases houtcome
  | @exited _ free₁ _ _ line read executed =>
    obtain ⟨s, rfl⟩ := hs
    rcases h.readLine hf fault read with
      ⟨sh₁, hroom, hread, hm⟩ | ⟨sh₁, hpast, hprompt, hread, hw⟩
    · have hf₁ := (Shell.written_readLine hf read).1
      obtain ⟨hrow, sh₂, hafter, hm₂⟩ := hm.executeLine programs hf₁ fault line
      obtain ⟨-, houtcome, ht⟩ := Execution.of_steady programs hf₁ line
      -- `exit` prints nothing, so there is room for it wherever there was for the prompt.
      have hsilent : (Execution.of programs free₁ line).after.out.written =
          free₁.out.written := by
        rw [executed] at houtcome
        rw [ht.written, Turn.output_terminate programs _ (Except.ok.inj houtcome).symm,
          Execution.written_before, List.append_nil]
      refine ⟨_, _, .exited hread (hrow.outcome.trans executed), ?_⟩
      rw [hafter, Shell.emit_limited]
      exact .whole (.cons hrow .nil) (hm₂.emitAll ht.steady [.exitRequested])
        (by rw [← hsilent] at hroom; exact hroom)
    · exact Runs.short (.exited read executed) hf ⟨s, rfl⟩ hpast hprompt hread hw
  | @continued _ free₁ _ _ line _ _ read executed rest ih =>
    obtain ⟨s, rfl⟩ := hs
    rcases h.readLine hf fault read with
      ⟨sh₁, hroom, hread, hm⟩ | ⟨sh₁, hpast, hprompt, hread, hw⟩
    · obtain ⟨hf₁, hs', -⟩ := Shell.written_readLine hf read
      obtain ⟨hrow, sh₂, hafter, hm₂⟩ := hm.executeLine programs hf₁ fault line
      obtain ⟨-, -, ht⟩ := Execution.of_steady programs hf₁ line
      obtain ⟨ys, cut, hruns, hcut⟩ := ih ht.steady hs' hm₂
      refine ⟨_, cut, .continued hread (hrow.outcome.trans executed)
        (by rw [hafter]; exact hruns), ?_⟩
      cases hcut with
      | whole rows mirrors room => exact .whole (.cons hrow rows) mirrors room
      | short split rows written past shown begun left last =>
        have hbegun : (Execution.of programs free₁ line).before.out.written.length ≤ n := by
          rw [Execution.written_before]
          exact hroom.resolve_right shown
        refine .short (congrArg (_ :: ·) split) (.cons hrow rows) written past shown
          (List.forall_mem_cons.2 ⟨hbegun, begun⟩) left (last.cons hbegun fun hpast => ?_)
        -- Past the room no prompt is shown, and so no further line is begun.
        refine List.eq_nil_iff_forall_not_mem.2 fun x hx => ?_
        have hx' : x ∈ _ := split ▸ List.mem_append_left _ hx
        have hlength := ((rest.grows ht.steady hs').2 x hx').length_le
        have hbefore := begun x hx
        rw [List.length_append] at hlength
        omega
    · exact Runs.short (.continued read executed rest) hf ⟨s, rfl⟩ hpast hprompt hread hw

namespace Shell

/-- A session with new writers, once with an output that takes everything and once with one that
takes `n` bytes. If that is enough there is no difference. If it is not, a prompt that has to be
shown ends the session, and if the prompt is empty nothing does. -/
theorem run_limited (programs : Programs) (prompt : String) (w : World) (s : Stream) (n : Nat)
    (fault : IoError) :
    let sh : Shell := { world := w }
    let full := run programs prompt sh (.stream s)
    let cut := run programs prompt (sh.limited n fault) (.stream s)
    ∃ xs ys, Runs programs prompt sh (.stream s) xs full ∧
      Runs programs prompt (sh.limited n fault) (.stream s) ys cut ∧
      cut.2.2.out.written = full.2.2.out.written.take n ∧
      (full.2.2.out.written.length ≤ n →
        cut = (full.1, full.2.1, full.2.2.limited n fault) ∧
        List.Forall₂ (Mirrored n fault) xs ys) ∧
      (n < full.2.2.out.written.length → prompt ≠ "" →
        cut.1 = .error (.io fault) ∧
        ∃ ran rest, xs = ran ++ rest ∧ List.Forall₂ (Mirrored n fault) ran ys ∧
          LastPast n ran ∧ ∀ x ∈ rest, n < x.before.out.written.length) ∧
      (prompt = "" →
        cut.1 = full.1 ∧ cut.2.1 = full.2.1 ∧
        cut.2.2.world.hushed = full.2.2.world.hushed ∧
        List.Forall₂ (Mirrored n fault) xs ys) := by
  intro sh full cut
  obtain ⟨xs, hfull⟩ := Runs.run programs prompt sh (.stream s)
  obtain ⟨ys, result, hruns, hcut⟩ :=
    hfull.limited (steady_new w) ⟨s, rfl⟩ (Mirrors.refl (steady_new w) (Nat.zero_le n)) fault
  obtain rfl : cut = result := hruns.eq_run
  refine ⟨xs, ys, hfull, hruns, ?_⟩
  generalize cut = result at hcut
  cases hcut with
  | whole rows mirrors room =>
    refine ⟨mirrors.written, fun hn => ⟨by rw [mirrors.same hn], rows⟩, fun hn hprompt => ?_,
      fun _ => ⟨rfl, rfl, mirrors.world, rows⟩⟩
    rcases room with hroom | hempty
    · exact absurd hroom (Nat.not_le_of_lt hn)
    · exact absurd (utf8_eq_nil_iff.1 hempty) hprompt
  | short split rows written past shown _ left last =>
    refine ⟨written, fun hn => absurd hn (Nat.not_le_of_lt past),
      fun _ _ => ⟨rfl, _, _, split, rows, last, left⟩, fun hprompt => ?_⟩
    exact absurd (utf8_eq_nil_iff.2 hprompt) shown

theorem run_limited_echo :
    let fault := IoError.stream "stdout closed"
    let sh : Shell := { world := { files := ⟨#[]⟩, cwd := 0, environment := [] } }
    let source : Source := .stream { feed := .scripted [.chunk (utf8 "echo hi\necho you\n")] }
    let session (prompt : String) (sh : Shell) := run (fun _ => none) prompt sh source
    (4 < (session "> " sh).2.2.out.written.length ∧ "> " ≠ "" ∧
      (session "> " (sh.limited 4 fault)).2.2.out.written = utf8 "> hi" ∧
      (session "> " (sh.limited 4 fault)).1 = .error (.io fault)) ∧
    ((session "> " sh).2.2.out.written.length ≤ 13 ∧
      (session "> " (sh.limited 13 fault)).1 = (session "> " sh).1) ∧
    (session "" (sh.limited 4 fault)).1 = (session "" sh).1 := by
  intro fault sh source session
  have hprompt : "> " ≠ "" := by decide
  have hpast : 4 < (session "> " sh).2.2.out.written.length := by decide +kernel
  have hroom : (session "> " sh).2.2.out.written.length ≤ 13 := by decide +kernel
  have htaken : (session "> " sh).2.2.out.written.take 4 = utf8 "> hi" := by decide +kernel
  have hlimited (prompt : String) (n : Nat) := run_limited (fun _ => none) prompt sh.world
    { feed := .scripted [.chunk (utf8 "echo hi\necho you\n")] } n fault
  obtain ⟨_, _, -, -, hwritten, -, hshort, -⟩ := hlimited "> " 4
  obtain ⟨_, _, -, -, -, hwhole, -⟩ := hlimited "> " 13
  obtain ⟨_, _, -, -, -, -, -, hempty⟩ := hlimited "" 4
  exact ⟨⟨hpast, hprompt, hwritten.trans htaken, (hshort hpast hprompt).1⟩,
    ⟨hroom, (Prod.ext_iff.1 (hwhole hroom).1).1⟩, (hempty rfl).1⟩

end Shell

end TinyShell
