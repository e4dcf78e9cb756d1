import TinyShell.Proofs.Effects
import TinyShell.Proofs.Failures
import TinyShell.Proofs.Growth
import TinyShell.Proofs.OneLine
import TinyShell.Proofs.Started

/-!
# One line for each failure

A shell whose streams never fail tells of a command that fails in one line, and of no other.
`Execution.Reported` is that for one line that is executed; `Execution.reported_each` is that
it holds of all that are executed one after another.
-/

namespace TinyShell

/-- What stands in a diagnostic after the name of the shell. -/
structure IsMessage (text : Bytes) : Prop where
  ne_nil : text ≠ []
  plain : newline ∉ text
  valid : text.toByteArray.IsValidUTF8

theorem isMessage_utf8 {text : String} (h : OneLine text) (hne : text ≠ "") :
    IsMessage (utf8 text) :=
  ⟨mt utf8_eq_nil_iff.1 hne, newline_not_mem_utf8 h, .intro text.toList rfl⟩

/-! ## What there is to tell -/

namespace Builtin

variable {w : World} {path target : Bytes} {cause : IoError}

theorem makeDirectory_error (h : makeDirectory w path = .error cause) (text : String) :
    cause ≠ .stream text := by
  rintro rfl
  unfold makeDirectory at h
  split at h
  · cases h
  · split at h <;> cases h

theorem changeDirectory_error (h : changeDirectory w target = .error cause) (text : String) :
    cause ≠ .stream text := by
  rintro rfl
  unfold changeDirectory at h
  split at h
  · cases h
  · split at h <;> cases h

theorem oneLine_pair {context : String} (hcontext : OneLine context)
    (hcause : ∀ text, cause ≠ .stream text) :
    OneLine (": ".intercalate [context, cause.message]) ∧
      ": ".intercalate [context, cause.message] ≠ "" := by
  have hpair : ": ".intercalate [context, cause.message] = context ++ ": " ++ cause.message := rfl
  rw [hpair]
  refine ⟨?_, by simp⟩
  simp only [oneLine_append, hcontext, IoError.oneLine_message hcause, true_and, and_true]
  decide

/-- With a writer that never fails, a built-in command has only the system to complain of. -/
theorem oneLine_complaint (b : Builtin) {argv : List Bytes}
    (hargv : ∀ token ∈ argv, newline ∉ token) {out : Writer} (hout : out.policy = .reliable)
    {complaint : Complaint} (h : (b.execute argv w out).outcome = .error complaint) :
    OneLine complaint.message ∧ complaint.message ≠ "" := by
  have hlossy (context : String) (hcontext : OneLine context) {name argument : Bytes}
      {args : List Bytes} (hargs : argv = name :: argument :: args) :
      OneLine (context ++ Utf8.lossy argument) :=
    oneLine_append.2 ⟨hcontext, Utf8.oneLine_lossy (hargv argument (by simp [hargs]))⟩
  cases b with
  | echo => rw [execute, print_reliable w hout] at h; cases h
  | help => rw [execute, print_reliable w hout] at h; cases h
  | exit => cases h
  | pwd =>
    simp only [execute] at h
    split at h
    · rw [print_reliable w hout] at h; cases h
    · cases h; exact oneLine_pair (by decide) fun _ h => by cases h
  | ls =>
    simp only [execute] at h
    split at h
    · rw [print_reliable w hout] at h; cases h
    · cases h; exact oneLine_pair (by decide) fun _ h => by cases h
  -- Of a missing argument it complains in a fixed text, of any other in that of the argument.
  | mkdir =>
    rcases argv with _ | ⟨_, _ | ⟨path, _⟩⟩
    · cases h; decide
    · cases h; decide
    · simp only [execute, withArgument] at h
      split at h
      · cases h
      · next e he => cases h; exact oneLine_pair (hlossy _ (by decide) rfl) (makeDirectory_error he)
  | cd =>
    rcases argv with _ | ⟨_, _ | ⟨target, _⟩⟩
    · cases h; decide
    · cases h; decide
    · simp only [execute, withArgument] at h
      split at h
      · cases h
      · next e he =>
        cases h; exact oneLine_pair (hlossy _ (by decide) rfl) (changeDirectory_error he)

end Builtin

theorem Command.Refusal.oneLine {programs : Programs} {w : World} {argv : List Bytes}
    {reason : String} (h : Refusal programs w argv reason) : OneLine reason := by
  cases h with
  | unknown => decide
  | unfit => exact IoError.oneLine_message fun _ h => by cases h
  | refused => exact IoError.oneLine_message fun _ h => by cases h

namespace Turn

variable (programs : Programs) {w : World} {argv : List Bytes}

/-- A program is started and nothing is told, or it is told why none is. -/
theorem errors_ofProgram (hwait : w.waitFailure = none) (hargv : ∀ token ∈ argv, newline ∉ token) :
    let t := ofProgram programs w argv
    (t.errors = [] ∧ ∃ child, t.children = [child]) ∨
      t.children = [] ∧ ∃ text, OneLine text ∧ text ≠ "" ∧ t.errors = Shell.diagnostic text := by
  rcases ofProgram_cases programs w argv with
    ⟨path, started, -, ht⟩ | ⟨e, reason, hrefusal, ht, hmessage⟩
  · rw [ht, ofStarted_eq hwait]
    exact .inl ⟨rfl, _, rfl⟩
  · have hname : newline ∉ Command.nameOf argv := by
      cases argv with
      | nil => simp [Command.nameOf]
      | cons name args => exact hargv name List.mem_cons_self
    rw [ht]
    refine .inr ⟨rfl, e.message, ?_, by simp [hmessage], rfl⟩
    rw [hmessage]
    simp only [oneLine_append, Utf8.oneLine_lossy hname, hrefusal.oneLine, true_and, and_true]
    decide

/-- What a built-in command complains of is told. -/
theorem errors_ofBuiltin (b : Builtin) {out : Writer} (hout : out.policy = .reliable) :
    (ofBuiltin w b argv).errors =
      match (b.execute argv w out).outcome with
      | .ok _ => []
      | .error complaint => Shell.diagnostic complaint.message := by
  rw [b.execute_reliable argv w hout, ofBuiltin]
  simp only
  cases (b.execute argv w { policy := .reliable }).outcome <;> rfl

theorem errors_of (hwait : w.waitFailure = none) (hargv : ∀ token ∈ argv, newline ∉ token) :
    (of programs w argv).errors = [] ∨
      ∃ text, OneLine text ∧ text ≠ "" ∧ (of programs w argv).errors = Shell.diagnostic text := by
  cases argv with
  | nil => exact .inl rfl
  | cons name args =>
    simp only [of]
    cases Builtin.find? name with
    | none => exact (errors_ofProgram programs hwait hargv).imp (·.1) (·.2)
    | some b =>
      let out : Writer := { policy := .reliable }
      have hout : out.policy = .reliable := rfl
      simp only [errors_ofBuiltin b hout]
      cases houtcome : (b.execute (name :: args) w out).outcome with
      | ok signal => exact .inl rfl
      | error complaint =>
        obtain ⟨hline, hne⟩ := b.oneLine_complaint hargv hout houtcome
        exact .inr ⟨_, hline, hne, rfl⟩

/-- No command has a say in whether waiting for a program succeeds. -/
theorem waitFailure_of (w : World) (argv : List Bytes) :
    (of programs w argv).world.waitFailure = w.waitFailure := by
  refine of_cases programs w argv ?_ ?_ ?_ ?_
  · exact fun _ => rfl
  · intro b name args _ _
    rw [ofBuiltin_world, World.waitFailure_eq (b.frame_execute argv w _).rest]
  · exact fun _ _ _ _ _ => rfl
  · exact fun _ _ _ _ _ _ => by rw [ofStarted, awaited_world]

end Turn

/-! ## What is told -/

namespace Execution

/-- Nothing is told, or one line is, and that only of a command that failed. -/
structure Reported (x : Execution) : Prop where
  written : x.after.err.written = x.before.err.written ++ x.told
  line : x.told = [] ∨ ∃ text, IsMessage text ∧ x.told = utf8 "minish: " ++ text ++ [newline]
  blank : x.argv = [] → x.told = []
  builtin {name : Bytes} {args : List Bytes} {b : Builtin} (hargv : x.argv = name :: args)
    (hname : Builtin.find? name = some b) :
    x.after.children = x.before.children ∧
      match (b.execute x.argv x.before.world x.before.out).outcome with
      | .ok _ => x.told = []
      | .error complaint =>
        x.told = utf8 "minish: " ++ utf8 (": ".intercalate complaint.chain) ++ [newline]
  program (foreign : IsForeign x.argv) :
    (x.told = [] ∧ ∃ child, x.after.children = x.before.children ++ [child]) ∨
      x.told ≠ [] ∧ x.after.children = x.before.children

variable (programs : Programs)

/-- The lines are executed one after another, each in the shell that the one before left. -/
def each : Shell → List Bytes → List Execution
  | _, [] => []
  | sh, line :: lines =>
    let x := of programs sh line
    x :: each x.after lines

variable {sh : Shell}

theorem reported_of (h : sh.Steady) (hwait : sh.world.waitFailure = none) (line : Bytes) :
    let x := of programs sh line
    x.Reported ∧ x.after.Steady ∧ x.after.world.waitFailure = none := by
  intro x
  obtain ⟨htakes, hafter, hworld⟩ := takes_of programs h rfl line
  obtain ⟨-, hwritten, hchildren, -⟩ := brings_of programs h line
  have hbefore : x.before = { sh with trace := sh.trace ++ (Token.split line).events } :=
    Shell.emitAll_silent h.log _
  have hplain : ∀ token ∈ x.argv, newline ∉ token := fun _ => Token.newline_not_mem_words
  have htold : x.told = (Turn.of programs sh.world x.argv).errors := htakes.told
  have hstarted : x.after.children =
      x.before.children ++ (Turn.of programs sh.world x.argv).children := by
    rw [← htakes.started, hbefore]; exact hchildren
  refine ⟨⟨?_, ?_, fun hnil => ?_, fun {name args b} hcons hname => ?_, ?_⟩, hafter, ?_⟩
  · rw [hbefore]; exact hwritten
  · rw [htold]
    rcases Turn.errors_of programs hwait hplain with herr | ⟨text, hline, hne, herr⟩
    · exact .inl herr
    · exact .inr ⟨utf8 text, isMessage_utf8 hline hne, herr⟩
  · rw [htold, hnil]; rfl
  · have hturn : Turn.of programs sh.world x.argv = Turn.ofBuiltin sh.world b x.argv := by
      rw [hcons, Turn.of_builtin _ _ hname]
    have hout : x.before.out.policy = .reliable := by rw [hbefore]; exact h.out
    have hw : sh.world = x.before.world := by rw [hbefore]
    refine ⟨by rw [hstarted, hturn, Turn.ofBuiltin_children, List.append_nil], ?_⟩
    rw [htold, hturn, Turn.errors_ofBuiltin b hout, hw]
    split <;> rfl
  · rintro ⟨name, args, hcons, hname⟩
    have hturn : Turn.of programs sh.world x.argv = Turn.ofProgram programs sh.world x.argv := by
      rw [hcons, Turn.of_foreign _ _ hname]
    rw [htold, hstarted, hturn]
    rcases Turn.errors_ofProgram programs hwait hplain with
      ⟨herr, child, hchild⟩ | ⟨hchild, text, -, -, herr⟩
    · exact .inl ⟨herr, child, by rw [hchild]⟩
    · exact .inr ⟨by rw [herr]; simp [Shell.diagnostic], by rw [hchild, List.append_nil]⟩
  · rw [World.waitFailure_eq hworld, Turn.waitFailure_of, hwait]

/-- Whatever the lines hold, each of them tells nothing, or of its failure in one line. -/
theorem reported_each (h : sh.Steady) (hwait : sh.world.waitFailure = none) (lines : List Bytes) :
    ∀ x ∈ each programs sh lines, x.Reported := by
  induction lines generalizing sh with
  | nil => exact List.forall_mem_nil _
  | cons line lines ih =>
    obtain ⟨hx, hafter, hwait'⟩ := reported_of programs h hwait line
    exact List.forall_mem_cons.2 ⟨hx, ih hafter hwait'⟩

/-- A blank line, a command that lacks its argument, one whose argument is no UTF-8, and a
program that ends with a failure. -/
theorem reported_each_cd :
    let programs : Programs := fun _ => some fun p => { files := p.files, status := .exited 1 }
    let sh : Shell := { world := Command.namesakes }
    let xs := each programs sh [utf8 " \r", utf8 "cd", utf8 "cd\n" ++ [0xFF, 0x0A], utf8 "true"]
    sh.world.waitFailure = none ∧ xs.map told =
      [[], utf8 "minish: expected argument to \"cd\"\n",
        utf8 "minish: cd: \uFFFD: No such file or directory (os error 2)\n", []] ∧
      ∀ x ∈ xs, x.Reported := by
  intro programs sh xs
  have htold : xs.map told =
      [[], utf8 "minish: expected argument to \"cd\"\n",
        utf8 "minish: cd: \uFFFD: No such file or directory (os error 2)\n", []] := by decide
  have hxs := reported_each programs (Shell.steady_new Command.namesakes) rfl
    [utf8 " \r", utf8 "cd", utf8 "cd\n" ++ [0xFF, 0x0A], utf8 "true"]
  exact ⟨rfl, htold, hxs⟩

end Execution

end TinyShell
