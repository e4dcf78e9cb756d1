import TinyShell.Proofs.Course
import TinyShell.Proofs.Executions

/-!
# The rows of a steady session

While the streams of a shell never fail, each of the lines it executes is a turn
(`Execution.of_steady`), and comes to that turn whatever has been heard (`Execution.takes_of`).
What it writes on its output only grows: each prompt is shown after all that is there, and before
all that follows (`Runs.grows`).
-/

namespace TinyShell

variable {programs : Programs} {prompt : String} {sh : Shell}

@[simp] theorem Execution.written_before (line : Bytes) :
    (of programs sh line).before.out.written = sh.out.written := by
  simp [of]

/-- A line that is executed is a turn. -/
theorem Execution.of_steady (programs : Programs) (h : sh.Steady) (line : Bytes) :
    let x := of programs sh line
    let t := Turn.of programs x.before.account.world x.argv
    x.before.Steady ∧ x.outcome = .ok t.signal ∧ x.before.Took t x.after := by
  intro x t
  have hbefore := (Shell.account_tokens h line).1
  obtain ⟨sh', hx, ht⟩ := Shell.execute_steady programs hbefore (Token.words line)
  have hafter : x.after = sh' := congrArg Prod.snd hx
  exact ⟨hbefore, congrArg Prod.fst hx, by rw [hafter]; exact ht⟩

/-! ## What a line comes to -/

/-- What arrives of a turn here, if the descriptor takes it. -/
def Turn.arrival (t : Turn) : Outlet → Bytes
  | .output => if t.world.outputFull then [] else Outlet.output.share t.written
  | .errors => Outlet.errors.share t.written

namespace Execution

/-- The programs that are started in the course of it. -/
def started (x : Execution) : List Child := x.after.children.drop x.before.children.length

/-- What arrives on a descriptor in the course of it, what the shell still holds counted in. -/
def arrived (x : Execution) : Outlet → Bytes
  | .output => x.after.account.world.output.drop x.before.account.world.output.length
  | .errors => x.after.account.world.errors.drop x.before.account.world.errors.length

def arrivals (x : Execution) : List (Outlet × Bytes) :=
  [(.output, x.arrived .output), (.errors, x.arrived .errors)]

/-- `x` comes to the turn `t`. -/
structure Takes (x : Execution) (t : Turn) : Prop where
  outcome : x.outcome = .ok t.signal
  printed : x.printed = t.output
  told : x.told = t.errors
  started : x.started = t.children
  arrived : ∀ o, x.arrived o = t.arrival o

variable {x : Execution} {t : Turn}

/-- What has arrived on the descriptors has no say. -/
theorem Takes.of_heard {output errors : Bytes}
    (h : x.Takes { t with world := t.world.heard output errors }) : x.Takes t :=
  ⟨h.outcome, h.printed, h.told, h.started, h.arrived⟩

theorem takes_of_took (houtcome : x.outcome = .ok t.signal) (h : x.before.Took t x.after)
    (hreceived : x.before.account.world.Received t.written t.left) : x.Takes t where
  outcome := houtcome
  printed := by rw [Execution.printed, h.written, List.drop_left]
  told := by rw [Execution.told, h.told, List.drop_left]
  started := by rw [Execution.started, h.children, List.drop_left]
  arrived o := by
    have hleft : x.after.account.world = t.left := by rw [h.account]; rfl
    have hfull : t.world.outputFull = x.before.account.world.outputFull :=
      (congrArg World.outputFull t.hushed_left).symm.trans hreceived.outputFull
    cases o with
    | output =>
      simp only [Execution.arrived, Turn.arrival, hleft, hreceived.output, hfull]
      split <;> simp
    | errors => simp only [Execution.arrived, Turn.arrival, hleft, hreceived.errors, List.drop_left]

variable {w : World}

/-- A line that is executed comes to its turn in any world that differs from that of the shell in
what was heard only. -/
theorem takes_of (programs : Programs) (h : sh.Steady) (hw : sh.world.hushed = w.hushed)
    (line : Bytes) :
    let x := of programs sh line
    let t := Turn.of programs w x.argv
    x.Takes t ∧ x.after.Steady ∧ x.after.world.hushed = t.world.hushed := by
  intro x t
  obtain ⟨hbefore, houtcome, htook⟩ := of_steady programs h line
  have hworld : x.before.account.world =
      w.heard x.before.account.world.output x.before.account.world.errors :=
    World.eq_heard (by rw [Shell.hushed_account hbefore, ← hw]; exact Shell.hushed_emitAll _ _)
  have htakes := takes_of_took houtcome htook (Turn.received_left programs _ _)
  have hhushed := htook.hushed
  rw [hworld, Turn.of_heard] at htakes hhushed
  exact ⟨htakes.of_heard, htook.steady, hhushed⟩

/-- What there is between the two accounts is what `x` brought. -/
structure Brings (x : Execution) (a a' : Account) : Prop where
  output : a'.output = a.output ++ x.printed
  errors : a'.errors = a.errors ++ x.told
  children : a'.children = a.children ++ x.started
  received : a.world.Received x.arrivals a'.world

theorem brings_of (programs : Programs) (h : sh.Steady) (line : Bytes) :
    let x := of programs sh line
    x.Brings sh.account x.after.account := by
  intro x
  obtain ⟨-, houtcome, htook⟩ := of_steady programs h line
  have hreceived := Turn.received_left programs x.before.account.world x.argv
  have htakes := takes_of_took houtcome htook hreceived
  have hbefore : x.before.account = sh.account := (Shell.account_tokens h line).2
  have hafter := htook.account
  rw [← hbefore]
  refine ⟨?_, ?_, ?_, ?_⟩
  · rw [htakes.printed, hafter]; rfl
  · rw [htakes.told, hafter]; rfl
  · rw [htakes.started, hafter]; rfl
  · have hleft : x.after.account.world = (Turn.of programs x.before.account.world x.argv).left :=
      congrArg Account.world hafter
    exact World.Received.summary (hleft ▸ hreceived)

end Execution

/-! ## What is written only grows -/

theorem Execution.grows (programs : Programs) (h : sh.Steady) (line : Bytes) :
    sh.out.written <+: (of programs sh line).after.out.written := by
  obtain ⟨-, -, ht⟩ := of_steady programs h line
  rw [ht.written, written_before]
  exact List.prefix_append _ _

/-- Reading shows the prompt and takes from descriptor 0, and is the beginning of another. -/
theorem Shell.account_readLine (h : sh.Steady) {s : Stream} {reading : Except ShellError Reading}
    {source : Source} {sh' : Shell}
    (hread : sh.readLine prompt (.stream s) = (reading, source, sh')) :
    let a := sh.account.prompted prompt
    sh'.Steady ∧ (∃ s', source = .stream s') ∧
      ∃ input, sh'.account = { a with world := { a.world with input } } := by
  rcases hn : s.next (sh.account.world.putOutput (utf8 prompt)).input with
    ⟨reading, events, s', input⟩
  obtain ⟨sh₁, hr, hs, -, ha⟩ := readLine_steady h prompt s hn
  rw [hread] at hr
  cases hr
  exact ⟨hs, ⟨s', rfl⟩, input, ha⟩

theorem Shell.written_readLine (h : sh.Steady) {s : Stream} {reading : Except ShellError Reading}
    {source : Source} {sh' : Shell}
    (hread : sh.readLine prompt (.stream s) = (reading, source, sh')) :
    sh'.Steady ∧ (∃ s', source = .stream s') ∧
      sh'.out.written = sh.out.written ++ utf8 prompt := by
  obtain ⟨hs, hsource, input, ha⟩ := account_readLine h hread
  exact ⟨hs, hsource, congrArg Account.output ha⟩

/-- What is written stays written, and the prompt comes before all else. -/
theorem Runs.grows {source : Source} {xs : List Execution}
    {result : Except ShellError Shutdown × Source × Shell}
    (hruns : Runs programs prompt sh source xs result) (h : sh.Steady)
    (hs : ∃ s, source = .stream s) :
    sh.out.written ++ utf8 prompt <+: result.2.2.out.written ∧
      ∀ x ∈ xs, sh.out.written ++ utf8 prompt <+: x.before.out.written := by
  induction hruns with
  | failed read =>
    obtain ⟨s, rfl⟩ := hs
    obtain ⟨-, -, hw⟩ := Shell.written_readLine h read
    rw [← hw]
    exact ⟨List.prefix_rfl, by simp⟩
  | ended read =>
    obtain ⟨s, rfl⟩ := hs
    obtain ⟨-, -, hw⟩ := Shell.written_readLine h read
    rw [← hw]
    exact ⟨List.prefix_rfl, by simp⟩
  | @stopped _ sh₁ _ _ line _ read _ =>
    obtain ⟨s, rfl⟩ := hs
    obtain ⟨h₁, -, hw⟩ := Shell.written_readLine h read
    rw [← hw]
    exact ⟨Execution.grows programs h₁ line, by simp⟩
  | @exited _ sh₁ _ _ line read _ =>
    obtain ⟨s, rfl⟩ := hs
    obtain ⟨h₁, -, hw⟩ := Shell.written_readLine h read
    rw [← hw]
    exact ⟨Execution.grows programs h₁ line, by simp⟩
  | @continued _ sh₁ _ _ line _ _ read _ _ ih =>
    obtain ⟨s, rfl⟩ := hs
    obtain ⟨h₁, hs', hw⟩ := Shell.written_readLine h read
    obtain ⟨-, -, ht⟩ := Execution.of_steady programs h₁ line
    obtain ⟨hresult, hrows⟩ := ih ht.steady hs'
    have hstep := (Execution.grows programs h₁ line).trans (List.prefix_append _ (utf8 prompt))
    rw [← hw]
    exact ⟨hstep.trans hresult,
      List.forall_mem_cons.2 ⟨by simp, fun x hx => hstep.trans (hrows x hx)⟩⟩

end TinyShell
