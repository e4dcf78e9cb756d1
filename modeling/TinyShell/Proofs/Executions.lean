import TinyShell.Session

/-!
# The lines a session executes

`Runs` tells a session as the row of lines that it executes, each from the shell before it to
the shell after it, and what it comes to in the end. Whatever the streams of the shell do,
`Shell.run` is such a row (`Runs.run`).
-/

namespace TinyShell

/-- A line that was executed. -/
structure Execution where
  line : Bytes
  /-- The shell once the line was cut into tokens. -/
  before : Shell
  outcome : Except ShellError Continuation
  after : Shell

namespace Execution

def argv (x : Execution) : List Bytes := Token.words x.line

def of (programs : Programs) (sh : Shell) (line : Bytes) : Execution :=
  let before := sh.emitAll (Token.split line).events
  let result := before.execute programs (Token.words line)
  { line, before, outcome := result.1, after := result.2 }

/-- What the shell writes on its output in the course of it. -/
def printed (x : Execution) : Bytes := x.after.out.written.drop x.before.out.written.length

/-- What the shell writes on its error stream in the course of it. -/
def told (x : Execution) : Bytes := x.after.err.written.drop x.before.err.written.length

variable {programs : Programs} {sh sh' : Shell} {line : Bytes}

theorem executeLine_eq :
    sh.executeLine programs line =
      ((of programs sh line).outcome, (of programs sh line).after) := by
  rw [Shell.executeLine, Token.split_tokens]; rfl

theorem of_executeLine {outcome : Except ShellError Continuation}
    (h : sh.executeLine programs line = (outcome, sh')) :
    (of programs sh line).outcome = outcome ∧ (of programs sh line).after = sh' :=
  Prod.mk.inj (executeLine_eq.symm.trans h)

end Execution

variable (programs : Programs) (prompt : String)

/-- The session of a shell on a source: the lines it executes, and how it ends. -/
inductive Runs : Shell → Source → List Execution →
    Except ShellError Shutdown × Source × Shell → Prop where
  | failed {sh sh₁ : Shell} {source source₁ : Source} {e : ShellError}
      (read : sh.readLine prompt source = (.error e, source₁, sh₁)) :
      Runs sh source [] (.error e, source₁, sh₁)
  | ended {sh sh₁ : Shell} {source source₁ : Source}
      (read : sh.readLine prompt source = (.ok .endOfInput, source₁, sh₁)) :
      Runs sh source [] (.ok .endOfInput, source₁, sh₁.emit .endOfInput)
  | stopped {sh sh₁ : Shell} {source source₁ : Source} {line : Bytes} {e : ShellError}
      (read : sh.readLine prompt source = (.ok (.line line), source₁, sh₁))
      (executed : (Execution.of programs sh₁ line).outcome = .error e) :
      Runs sh source [.of programs sh₁ line]
        (.error e, source₁, (Execution.of programs sh₁ line).after)
  | exited {sh sh₁ : Shell} {source source₁ : Source} {line : Bytes}
      (read : sh.readLine prompt source = (.ok (.line line), source₁, sh₁))
      (executed : (Execution.of programs sh₁ line).outcome = .ok .terminate) :
      Runs sh source [.of programs sh₁ line]
        (.ok .exit, source₁, (Execution.of programs sh₁ line).after.emit .exitRequested)
  | continued {sh sh₁ : Shell} {source source₁ : Source} {line : Bytes} {xs : List Execution}
      {result : Except ShellError Shutdown × Source × Shell}
      (read : sh.readLine prompt source = (.ok (.line line), source₁, sh₁))
      (executed : (Execution.of programs sh₁ line).outcome = .ok .continue)
      (rest : Runs (Execution.of programs sh₁ line).after source₁ xs result) :
      Runs sh source (.of programs sh₁ line :: xs) result

namespace Runs

theorem run (sh : Shell) (source : Source) :
    ∃ xs, Runs programs prompt sh source xs (Shell.run programs prompt sh source) := by
  fun_induction Shell.run programs prompt sh source with
  | case1 sh source e source₁ sh₁ hread => exact ⟨[], .failed hread⟩
  | case2 sh source source₁ sh₁ hread => exact ⟨[], .ended hread⟩
  | case3 sh source source₁ sh₁ line hread e sh₂ hx =>
    obtain ⟨houtcome, rfl⟩ := Execution.of_executeLine hx
    exact ⟨_, .stopped hread houtcome⟩
  | case4 sh source source₁ sh₁ line hread sh₂ hx =>
    obtain ⟨houtcome, rfl⟩ := Execution.of_executeLine hx
    exact ⟨_, .exited hread houtcome⟩
  | case5 sh source source₁ sh₁ line hread sh₂ hx ih =>
    obtain ⟨houtcome, rfl⟩ := Execution.of_executeLine hx
    obtain ⟨xs, hxs⟩ := ih
    exact ⟨_, .continued hread houtcome hxs⟩

variable {programs prompt}

variable {sh : Shell} {source : Source} {xs : List Execution}
  {result : Except ShellError Shutdown × Source × Shell}

theorem eq_run (h : Runs programs prompt sh source xs result) :
    Shell.run programs prompt sh source = result := by
  induction h with
  | failed read => exact Shell.run_failed read
  | ended read => exact Shell.run_ended read
  | stopped read executed =>
    exact Shell.run_stopped read (Execution.executeLine_eq.trans (by rw [executed]))
  | exited read executed =>
    exact Shell.run_terminated read (Execution.executeLine_eq.trans (by rw [executed]))
  | continued read executed _ ih =>
    rw [Shell.run_continued read (Execution.executeLine_eq.trans (by rw [executed]))]
    exact ih

/-- A failure is the end of the session, and nothing is executed after it. -/
theorem stops (h : Runs programs prompt sh source xs result) {earlier later : List Execution}
    {x : Execution} (hxs : xs = earlier ++ x :: later) {e : ShellError}
    (hx : x.outcome = .error e) : later = [] ∧ result.1 = .error e := by
  induction h generalizing earlier with
  | failed => simp at hxs
  | ended => simp at hxs
  | stopped _ executed =>
    cases earlier with
    | nil =>
      obtain ⟨rfl, rfl⟩ := List.cons.inj hxs
      rw [executed] at hx
      cases hx
      exact ⟨rfl, rfl⟩
    | cons y earlier => simp at hxs
  | exited _ executed =>
    cases earlier with
    | nil =>
      obtain ⟨rfl, -⟩ := List.cons.inj hxs
      rw [executed] at hx; cases hx
    | cons y earlier => simp at hxs
  | continued _ executed _ ih =>
    cases earlier with
    | nil =>
      obtain ⟨rfl, -⟩ := List.cons.inj hxs
      rw [executed] at hx; cases hx
    | cons y earlier => exact ih (List.cons.inj hxs).2

end Runs

end TinyShell
