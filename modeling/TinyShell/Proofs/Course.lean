import TinyShell.Proofs.Account
import TinyShell.Proofs.Reading

/-!
# The course of a session

A session is a row of rounds: the prompt, a reading, and the turn of what was read.
`Course.of` tells the turns of a whole session without any writer. `Shell.run_course`: a
shell whose streams never fail runs that course, and at the end it holds nothing back.
-/

namespace TinyShell

/-- What comes after one prompt. -/
structure Round where
  turn : Turn
  /-- How the session ends, if it does. -/
  ending : Option (Except IoError Shutdown) := none
  source : Stream

structure Course where
  turns : List Turn
  ending : Except IoError Shutdown
  source : Stream

variable (programs : Programs)

namespace Round

/-- What is made of a reading. The end of input and a failure to read are turns in which
nothing is done. -/
def after (w : World) (source : Stream) : Except IoError Reading → Round
  | .error cause => { turn := { world := w }, ending := some (.error cause), source }
  | .ok .endOfInput =>
    { turn := .noting { world := w } .endOfInput, ending := some (.ok .endOfInput), source }
  | .ok (.line line) =>
    let turn := Turn.of programs w (Token.words line)
    match turn.signal with
    | .continue => { turn, source }
    | .terminate => { turn := turn.noting .exitRequested, ending := some (.ok .exit), source }

def of (w : World) (s : Stream) : Round :=
  let (reading, _, source, input) := s.next w.input
  after programs { w with input } source reading

theorem size_lt {w : World} {s : Stream} (h : (of programs w s).ending = none) :
    (of programs w s).source.size (of programs w s).turn.left.input < s.size w.input := by
  rcases hn : s.next w.input with ⟨reading, events, s', input⟩
  rcases reading with _ | ⟨line⟩ | _
  · simp [of, hn, after] at h
  · cases ht : (Turn.of programs { w with input } (Token.words line)).signal with
    | terminate => simp [of, hn, after, ht] at h
    | «continue» =>
      obtain ⟨count, hi⟩ := Turn.input_left programs { w with input } (Token.words line)
      simp only [of, hn, after, ht, hi]
      exact Nat.lt_of_le_of_lt ((Source.stream s').size_drop_le input count)
        (s.size_next_lt w.input hn)
  · simp [of, hn, after] at h

end Round

def Course.cons (t : Turn) (c : Course) : Course := { c with turns := t :: c.turns }

def Course.of (prompt : String) (w : World) (s : Stream) : Course :=
  let round := Round.of programs (w.putOutput (utf8 prompt)) s
  match _ : round.ending with
  | some ending => { turns := [round.turn], ending, source := round.source }
  | none => cons round.turn (of prompt round.turn.left round.source)
termination_by s.size w.input
decreasing_by
  have h := Round.size_lt programs ‹_›
  rwa [Shell.input_putOutput] at h

variable {programs} {prompt : String} {w : World} {s : Stream}

theorem Course.of_ended {ending : Except IoError Shutdown}
    (h : (Round.of programs (w.putOutput (utf8 prompt)) s).ending = some ending) :
    of programs prompt w s = {
      turns := [(Round.of programs (w.putOutput (utf8 prompt)) s).turn], ending
      source := (Round.of programs (w.putOutput (utf8 prompt)) s).source } := by
  rw [of]; split <;> simp_all

theorem Course.of_continued (h : (Round.of programs (w.putOutput (utf8 prompt)) s).ending = none) :
    of programs prompt w s =
      cons (Round.of programs (w.putOutput (utf8 prompt)) s).turn
        (of programs prompt (Round.of programs (w.putOutput (utf8 prompt)) s).turn.left
          (Round.of programs (w.putOutput (utf8 prompt)) s).source) := by
  rw [of]; split <;> simp_all

/-! ## Reading -/

theorem LineBuffer.level_events (b : LineBuffer) : ∀ e ∈ b.events, e.level = .trace := by
  intro e he
  obtain ⟨_, _, rfl⟩ := List.mem_map.1 he
  rfl

/-- What is noted of a reading is its details. -/
theorem Stream.level_next (s : Stream) (input : Input) :
    ∀ e ∈ (s.next input).2.1, e.level = .trace := by
  rcases hc : s.collect {} input with ⟨_ | _ | _, b, s', input'⟩ <;> simp only [next, hc]
  · exact b.level_events
  · intro e he
    rcases List.mem_append.1 he with he | he
    · exact b.level_events e he
    · split at he
      · simp at he
      · rw [List.mem_singleton.1 he]; rfl
  · exact b.level_events

namespace Shell

variable {sh : Shell}

theorem readLine_steady (h : sh.Steady) (prompt : String) (s : Stream)
    {reading : Except IoError Reading} {events : List Event} {s' : Stream} {input : Input}
    (hn : s.next (sh.account.world.putOutput (utf8 prompt)).input = (reading, events, s', input)) :
    let a := sh.account.prompted prompt
    ∃ sh', sh.readLine prompt (.stream s) = (reading.mapError .io, .stream s', sh') ∧
      sh'.Steady ∧ sh'.out.held = [] ∧
      sh'.account = { a with world := { a.world with input } } := by
  intro a
  have hworld : sh.world.putOutput (sh.out.held ++ utf8 prompt) = a.world := by
    rw [World.putOutput_append, ← world_account h]; rfl
  let sh₁ : Shell := { sh with
    world := { a.world with input }, out := (sh.out.taking 1 (utf8 prompt)).flushed }
  have h₁ : sh₁.Steady := ⟨h.out, h.err, h.held, h.log⟩
  have ha : sh₁.account = { a with world := { a.world with input } } := by
    simp [account, settle, Writer.drain, sh₁, h.held, a, Account.prompted]
  obtain ⟨h₂, ha₂⟩ := account_emitAll h₁ events
  have he : events.filter (·.level = .debug) = [] := by
    refine List.filter_eq_nil_iff.2 fun e hm => ?_
    have hl := s.level_next (sh.account.world.putOutput (utf8 prompt)).input e (by rwa [hn])
    simp [hl]
  refine ⟨sh₁.emitAll events, ?_, h₂, by simp [sh₁], ?_⟩
  · have hn : s.next a.world.input = (reading, events, s', input) := hn
    simp only [readLine_reliable h.out, ask_reliable h.out, take, hworld, Source.next, hn]
    rfl
  · rw [ha₂, he, List.append_nil]; exact ha

/-- One round of a session. -/
theorem run_round (h : sh.Steady) (prompt : String) (s : Stream) :
    let round := Round.of programs (sh.account.world.putOutput (utf8 prompt)) s
    ∃ sh', sh'.Steady ∧ sh'.account = (sh.account.prompted prompt).add round.turn ∧
      match round.ending with
      | none =>
        run programs prompt sh (.stream s) = run programs prompt sh' (.stream round.source)
      | some ending =>
        run programs prompt sh (.stream s) =
          (ending.mapError .io, .stream round.source, sh') ∧ sh'.out.held = [] := by
  intro round
  rcases hn : s.next (sh.account.world.putOutput (utf8 prompt)).input with
    ⟨reading, events, s', input⟩
  obtain ⟨sh₁, hread, h₁, hheld, ha⟩ := readLine_steady h prompt s hn
  let w : World := { sh.account.world.putOutput (utf8 prompt) with input }
  have hw : sh₁.account.world = w := by rw [ha]; rfl
  have hadd (t : Turn) : sh₁.account.add t = (sh.account.prompted prompt).add t := by rw [ha]; rfl
  have hround : round = Round.after programs w s' reading := by simp only [round, Round.of, hn, w]
  rw [hround]
  rcases reading with cause | ⟨line⟩ | _
  · refine ⟨sh₁, h₁, ?_, run_failed hread, hheld⟩
    rw [← hadd, Round.after, Account.add_idle, ← hw]
  · obtain ⟨sh₂, hx, ht⟩ := executeLine_steady programs h₁ line
    rw [hw] at hx ht
    simp only [Round.after]
    cases hsignal : (Turn.of programs w (Token.words line)).signal with
    | «continue» =>
      rw [hsignal] at hx
      exact ⟨sh₂, ht.steady, by rw [ht.account, hadd], run_continued hread hx⟩
    | terminate =>
      rw [hsignal] at hx
      obtain ⟨h₃, ha₃⟩ := account_emit (e := .exitRequested) ht.steady rfl
      refine ⟨sh₂.emit .exitRequested, h₃, ?_, run_terminated hread hx, ?_⟩
      · rw [ha₃, ht.account, ← hadd, Account.add_noting]
      · have hout := Turn.output_terminate programs w hsignal
        rcases ht.held with hh | hh
        · exact hh
        · exact hh.trans (by rw [hheld, hout]; rfl)
  · obtain ⟨h₂, ha₂⟩ := account_emit (e := .endOfInput) h₁ rfl
    refine ⟨sh₁.emit .endOfInput, h₂, ?_, run_ended hread, hheld⟩
    rw [ha₂, ← hadd, Round.after, Account.add_noting, Account.add_idle, ← hw]

variable (programs) in
/-- While its streams never fail, a shell runs the course of its session, and it ends with
nothing held back. -/
theorem run_course (h : sh.Steady) (prompt : String) (s : Stream) :
    let course := Course.of programs prompt sh.account.world s
    ∃ sh', run programs prompt sh (.stream s) =
        (course.ending.mapError .io, .stream course.source, sh') ∧
      sh'.Steady ∧ sh'.out.held = [] ∧ sh'.account = sh.account.through prompt course.turns := by
  generalize hw : sh.account.world = w
  fun_induction Course.of programs prompt w s generalizing sh with
  | case1 w s round ending =>
    obtain ⟨sh', h', ha, hrun⟩ := run_round h prompt s
    rw [hw, show (Round.of programs (w.putOutput (utf8 prompt)) s).ending = _ from ‹_›] at hrun
    rw [hw] at ha
    exact ⟨sh', hrun.1, h', hrun.2, ha⟩
  | case2 w s round he =>
    rename_i ih
    obtain ⟨sh₁, h₁, ha, hrun⟩ := run_round h prompt s
    rw [hw, show (Round.of programs (w.putOutput (utf8 prompt)) s).ending = _ from he] at hrun
    rw [hw] at ha
    have hleft : sh₁.account.world = round.turn.left := by rw [ha]; rfl
    obtain ⟨sh', hrest, h', hheld, ha'⟩ := ih h₁ hleft
    exact ⟨sh', hrun.trans hrest, h', hheld, ha'.trans (by rw [ha]; rfl)⟩

end Shell

end TinyShell
