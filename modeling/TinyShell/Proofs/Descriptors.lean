import TinyShell.Proofs.Course

/-!
# What arrives on the descriptors

A `Course` has a transcript: the prompts, and what the commands and the programs write, in
the order in which they are written. `Shell.run_transcript`: while its writers never fail,
a session leaves the transcript on the descriptors, and no program is started while the
shell holds anything back.
-/

namespace TinyShell

/-- All that is written, in order. -/
def Course.transcript (prompt : String) (c : Course) : List (Outlet × Bytes) :=
  c.turns.flatMap fun t => (.output, utf8 prompt) :: t.written

variable (programs : Programs)

namespace Round

theorem received_after (w : World) (s : Stream) (reading : Except IoError Reading) :
    w.Received (after programs w s reading).turn.written
      (after programs w s reading).turn.left := by
  rcases reading with _ | ⟨line⟩ | _
  · exact .writes _ _
  · have h := Turn.received_left programs w (Token.words line)
    simp only [after]
    cases (Turn.of programs w (Token.words line)).signal <;> exact h
  · exact .writes _ _

theorem received_of (w : World) (s : Stream) :
    w.Received (of programs w s).turn.written (of programs w s).turn.left := by
  rcases h : s.next w.input with ⟨reading, events, s', input⟩
  have hread : w.Received [] { w with input } := .none rfl rfl rfl
  simp only [of, h]
  exact hread.trans (received_after programs _ s' reading)

theorem children_unheld (w : World) (s : Stream) :
    ∀ c ∈ (of programs w s).turn.children, c.heldOutput = [] ∧ c.heldErrors = [] := by
  rcases h : s.next w.input with ⟨_ | ⟨line⟩ | _, events, s', input⟩
  · simp [of, h, after]
  · have hc := Turn.children_unheld programs { w with input } (Token.words line)
    simp only [of, h, after]
    cases (Turn.of programs { w with input } (Token.words line)).signal <;> exact hc
  · simp [of, h, after, Turn.noting]

end Round

namespace Course

theorem received_through (prompt : String) (a : Account) (s : Stream) :
    let course := of programs prompt a.world s
    a.world.Received (course.transcript prompt) (a.through prompt course.turns).world := by
  generalize hw : a.world = w
  fun_induction of programs prompt w s generalizing a with
  | case1 w s round ending =>
    have h := (World.Received.write w (.output, utf8 prompt)).trans
      (Round.received_of programs (w.putOutput (utf8 prompt)) s)
    simpa [transcript, Account.through, Account.add, hw] using h
  | case2 w s round he =>
    rename_i ih
    have h := (World.Received.write w (.output, utf8 prompt)).trans
      (Round.received_of programs (w.putOutput (utf8 prompt)) s)
    have hrest := ih ((a.prompted prompt).add round.turn) rfl
    simpa [transcript, cons, Account.through] using h.trans hrest

theorem children_unheld (prompt : String) (w : World) (s : Stream) :
    ∀ t ∈ (of programs prompt w s).turns, ∀ c ∈ t.children,
      c.heldOutput = [] ∧ c.heldErrors = [] := by
  fun_induction of programs prompt w s with
  | case1 w s round ending =>
    simpa using Round.children_unheld programs (w.putOutput (utf8 prompt)) s
  | case2 w s round he =>
    rename_i ih
    exact List.forall_mem_cons.2 ⟨Round.children_unheld programs _ s, ih⟩

end Course

namespace Shell

/-- A session with new writers that never fail. -/
theorem run_transcript (prompt : String) (w : World) (s : Stream) :
    let course := Course.of programs prompt w s
    ∃ sh', run programs prompt { world := w } (.stream s) =
        (course.ending.mapError .io, .stream course.source, sh') ∧
      sh'.out.held = [] ∧ sh'.err.held = [] ∧
      (∀ c ∈ sh'.children, c.heldOutput = [] ∧ c.heldErrors = []) ∧
      w.Received (course.transcript prompt) sh'.world := by
  intro course
  have ha : ({ world := w } : Shell).account = { world := w } := by
    simp [account, settle, Writer.drain]
  obtain ⟨sh', hrun, h', hheld, hacc⟩ := run_course programs (steady_new w) prompt s
  rw [ha] at hrun hacc
  refine ⟨sh', hrun, hheld, h'.held, fun c hc => ?_, ?_⟩
  · have hchildren : sh'.children = course.turns.flatMap (·.children) := by
      have hall := congrArg Account.children hacc
      rw [Account.children_through] at hall
      exact hall
    rw [hchildren] at hc
    obtain ⟨t, ht, hc⟩ := List.mem_flatMap.1 hc
    exact Course.children_unheld programs prompt w s t ht c hc
  · rw [← world_unheld h' hheld, hacc]
    exact Course.received_through programs prompt { world := w } s

end Shell

end TinyShell
