import TinyShell.Proofs.Diagnostics
import TinyShell.Proofs.Script

/-!
# What a session notes

The journal of a shell is what it noted of what it did, details of reading left out, as it is
shown. Each line that is executed adds to it what `Execution.Logged` says, and the end of the
session one entry more (`Shell.run_journal`). No entry of a program that was started goes without
that of its end (`Answered`).
-/

namespace TinyShell

/-- An event as it is shown: its message and its fields. -/
structure Entry where
  message : String
  fields : List (String × String) := []
  deriving DecidableEq, Repr

def Event.entry (e : Event) : Entry := ⟨e.message, e.fields⟩

/-- What was noted, without the details of reading lines and cutting them into tokens. -/
def Shell.journal (sh : Shell) : List Entry :=
  (sh.trace.filter (·.level = .debug)).map Event.entry

/-- What is noted in the course of it. -/
def Execution.entries (x : Execution) : List Entry :=
  x.after.journal.drop x.before.journal.length

namespace Entry

def running (name : Bytes) : Entry := ⟨"running builtin", [("name", Utf8.lossy name)]⟩

def launching (name : Bytes) : Entry :=
  ⟨"launching external command", [("name", Utf8.lossy name)]⟩

def spawned (program : Bytes) : Entry := ⟨"spawned child", [("program", Utf8.lossy program)]⟩

def ended : ExitStatus → Entry
  | .exited code => ⟨"child exited", [("code", toString code)]⟩
  | .killed signal => ⟨"child killed", [("signal", "Some(" ++ toString signal ++ ")")]⟩

/-- What is noted at the end of a session. -/
def closing : Except ShellError Shutdown → List Entry
  | .ok .exit => [⟨"exit requested", []⟩]
  | .ok .endOfInput => [⟨"end of input", []⟩]
  | .error _ => []

end Entry

/-- What a built-in command notes of what it has done with its arguments. -/
def Builtin.deed (b : Builtin) (args : List Bytes) : Except Complaint Continuation → List Entry
  | .error _ => []
  | .ok _ =>
    match b, args with
    | mkdir, path :: _ => [⟨"created directory", [("path", Utf8.lossy path)]⟩]
    | cd, target :: _ => [⟨"changed directory", [("target", Utf8.lossy target)]⟩]
    | _, _ => []

/-! ## One line -/

namespace Builtin

variable {b : Builtin} (args : List Bytes)

/-- Only two commands have anything to note. -/
theorem deed_eq_nil (hmkdir : b ≠ mkdir) (hcd : b ≠ cd) (outcome : Except Complaint Continuation) :
    b.deed args outcome = [] := by
  cases outcome with
  | error complaint => rfl
  | ok signal => cases b <;> first | rfl | contradiction

variable (b) in
theorem entries_execute (name : Bytes) (w : World) (out : Writer) :
    let result := b.execute (name :: args) w out
    result.events.map Event.entry = b.deed args result.outcome := by
  intro result
  cases b with
  | mkdir =>
    rcases args with _ | ⟨path, _⟩
    · rfl
    · simp only [result, execute, withArgument]
      split <;> rfl
  | cd =>
    rcases args with _ | ⟨target, _⟩
    · rfl
    · simp only [result, execute, withArgument]
      split <;> rfl
  | echo => rw [deed_eq_nil args (by decide) (by decide)]; rfl
  | help => rw [deed_eq_nil args (by decide) (by decide)]; rfl
  | exit => rfl
  | pwd =>
    rw [deed_eq_nil args (by decide) (by decide)]
    simp only [result, execute]
    split <;> rfl
  | ls =>
    rw [deed_eq_nil args (by decide) (by decide)]
    simp only [result, execute]
    split <;> rfl

end Builtin

namespace Execution

/-- What is noted is what was done. -/
structure Logged (programs : Programs) (x : Execution) : Prop where
  blank : x.argv = [] → x.entries = []
  builtin {name : Bytes} {args : List Bytes} {b : Builtin} (hargv : x.argv = name :: args)
    (hname : Builtin.find? name = some b) :
    x.entries =
      .running name :: b.deed args (b.execute x.argv x.before.world x.before.out).outcome
  program {name : Bytes} {args : List Bytes} (hargv : x.argv = name :: args)
    (hname : Builtin.find? name = none) :
    (∃ reason, Command.Refusal programs x.before.world x.argv reason ∧
      x.entries = [.launching name]) ∨
    ∃ path started, Command.Starts programs x.before.world x.argv path started ∧
      x.entries = [.launching name, .spawned path,
        .ended (started.program (x.before.world.process started.argv)).status]

variable (programs : Programs) {sh : Shell}

/-- A line adds the events of its turn. -/
theorem events_of (h : sh.Steady) (line : Bytes) :
    let x := of programs sh line
    x.after.account.events =
      x.before.account.events ++ (Turn.of programs x.before.world x.argv).events := by
  intro x
  obtain ⟨hbefore, -, htook⟩ := of_steady programs h line
  have hworld := World.eq_heard (Shell.hushed_account hbefore)
  rw [hworld, Turn.of_heard] at htook
  exact congrArg Account.events htook.account

theorem entries_of (h : sh.Steady) (line : Bytes) :
    let x := of programs sh line
    x.entries = (Turn.of programs x.before.world x.argv).events.map Event.entry ∧
      x.after.journal = sh.journal ++ x.entries := by
  intro x
  have hevents := congrArg (List.map Event.entry) (events_of programs h line)
  rw [List.map_append] at hevents
  have hafter : x.after.journal = x.before.journal ++ _ := hevents
  have hbefore : x.before.journal = sh.journal :=
    congrArg (fun a => a.events.map Event.entry) (Shell.account_tokens h line).2
  have hentries : x.entries = (Turn.of programs x.before.world x.argv).events.map Event.entry := by
    rw [entries, hafter, List.drop_left]
  exact ⟨hentries, by rw [hentries, ← hbefore, hafter]⟩

theorem logged_of (h : sh.Steady) (hwait : sh.world.waitFailure = none) (line : Bytes) :
    (of programs sh line).Logged programs := by
  have hbefore := (of_steady programs h line).1
  have hentries : (of programs sh line).entries = _ := (entries_of programs h line).1
  have hwait : (of programs sh line).before.world.waitFailure = none :=
    (World.waitFailure_eq (Shell.hushed_emitAll sh _)).trans hwait
  generalize of programs sh line = x at hentries hbefore hwait
  refine ⟨fun hargv => ?_, fun {name args b} hargv hname => ?_, fun {name args} hargv hname => ?_⟩
  · rw [hentries, hargv]; rfl
  · have hexecute := b.execute_reliable x.argv x.before.world hbefore.out
    have hdeed := b.entries_execute args name x.before.world { policy := .reliable }
    rw [hentries, hexecute, hargv, Turn.of_builtin _ _ hname, Turn.ofBuiltin]
    simp only
    rw [← hdeed]
    split <;> rfl
  · rw [hargv, Turn.of_foreign _ _ hname, ← hargv] at hentries
    rcases Turn.ofProgram_cases programs x.before.world x.argv with
      ⟨path, started, hstarts, ht⟩ | ⟨e, reason, hrefusal, ht, -⟩
    · rw [ht, Turn.ofStarted_eq hwait, hargv] at hentries
      refine .inr ⟨path, started, hstarts, hentries.trans ?_⟩
      cases (started.program (x.before.world.process started.argv)).status <;> rfl
    · rw [ht, hargv] at hentries
      exact .inl ⟨reason, hrefusal, hentries⟩

end Execution

/-! ## Sessions -/

/-- The program of each entry that tells of a start has its end in the entry after it. -/
def Answered (journal : List Entry) : Prop :=
  ∀ earlier fields later, journal = earlier ++ ⟨"spawned child", fields⟩ :: later →
    ∃ status rest, later = .ended status :: rest

namespace Answered

variable {journal journal' : List Entry}

theorem of_silent (h : ∀ entry ∈ journal, entry.message ≠ "spawned child") : Answered journal := by
  rintro earlier fields later rfl
  exact absurd rfl (h ⟨"spawned child", fields⟩ (by simp))

theorem append (h : Answered journal) (h' : Answered journal') :
    Answered (journal ++ journal') := by
  intro earlier fields later hcut
  rcases List.append_eq_append_iff.1 hcut with ⟨between, -, hcut'⟩ | ⟨between, hcut', hrest⟩
  · exact h' between fields later hcut'
  · cases between with
    | nil => exact h' [] fields later hrest.symm
    | cons entry between =>
      obtain ⟨rfl, rfl⟩ := List.cons.inj hrest
      obtain ⟨status, rest, rfl⟩ := h earlier fields between hcut'
      exact ⟨status, rest ++ journal', rfl⟩

theorem ended (program : Bytes) (status : ExitStatus) :
    Answered [.spawned program, .ended status] := by
  have hend : (Entry.ended status).message ≠ "spawned child" := by
    cases status <;> simp [Entry.ended]
  intro earlier fields later hcut
  cases earlier with
  | nil =>
    obtain ⟨-, rfl⟩ := List.cons.inj hcut
    exact ⟨status, [], rfl⟩
  | cons entry earlier =>
    have hmem : (⟨"spawned child", fields⟩ : Entry) ∈ [Entry.ended status] := by
      rw [(List.cons.inj hcut).2]; simp
    rw [← List.mem_singleton.1 hmem] at hend
    exact absurd rfl hend

theorem closing (result : Except ShellError Shutdown) : Answered (Entry.closing result) :=
  of_silent fun entry hmem => by
    rcases result with e | _ | _
    · cases hmem
    · rw [List.mem_singleton.1 hmem]; simp
    · rw [List.mem_singleton.1 hmem]; simp

theorem flatMap {α : Type} {entries : α → List Entry} {xs : List α}
    (h : ∀ x ∈ xs, Answered (entries x)) : Answered (xs.flatMap entries) := by
  induction xs with
  | nil => exact of_silent (List.forall_mem_nil _)
  | cons x xs ih =>
    obtain ⟨hx, hxs⟩ := List.forall_mem_cons.1 h
    exact hx.append (ih hxs)

end Answered

theorem Execution.Logged.answered {programs : Programs} {x : Execution} (h : x.Logged programs) :
    Answered x.entries := by
  cases hargv : x.argv with
  | nil => rw [h.blank hargv]; exact .of_silent (List.forall_mem_nil _)
  | cons name args =>
    cases hname : Builtin.find? name with
    | some b =>
      rw [h.builtin hargv hname]
      refine .of_silent (List.forall_mem_cons.2 ⟨by simp [Entry.running], ?_⟩)
      intro entry hmem
      unfold Builtin.deed at hmem
      split at hmem
      · cases hmem
      · split at hmem
        · rw [List.mem_singleton.1 hmem]; simp
        · rw [List.mem_singleton.1 hmem]; simp
        · cases hmem
    | none =>
      have hlaunching : Answered [.launching name] := .of_silent (by simp [Entry.launching])
      rcases h.program hargv hname with ⟨-, -, hentries⟩ | ⟨path, started, -, hentries⟩
      · rw [hentries]; exact hlaunching
      · rw [hentries]; exact hlaunching.append (.ended path _)

namespace Shell

variable {sh sh' : Shell} {prompt : String}

theorem journal_emit {e : Event} (h : e.level = .debug) :
    (sh.emit e).journal = sh.journal ++ [e.entry] := by
  simp [journal, emit, h]

theorem journal_readLine (h : sh.Steady) {s : Stream} {reading : Except ShellError Reading}
    {source : Source} (hread : sh.readLine prompt (.stream s) = (reading, source, sh')) :
    sh'.Steady ∧ (∃ s', source = .stream s') ∧ sh'.journal = sh.journal ∧
      sh'.world.waitFailure = sh.world.waitFailure := by
  obtain ⟨h', hsource, input, ha⟩ := account_readLine h hread
  refine ⟨h', hsource, congrArg (fun a => a.events.map Event.entry) ha, ?_⟩
  calc sh'.world.waitFailure
    _ = sh'.account.world.waitFailure := (World.waitFailure_eq (hushed_account h')).symm
    _ = (sh.account.world.putOutput (utf8 prompt)).waitFailure := by rw [ha]; rfl
    _ = sh.account.world.waitFailure := World.waitFailure_eq World.hushed_putOutput
    _ = sh.world.waitFailure := World.waitFailure_eq (hushed_account h)

end Shell

/-- What the lines of a session note, and its end. -/
theorem Runs.logged {programs : Programs} {prompt : String} {sh : Shell} {source : Source}
    {xs : List Execution} {result : Except ShellError Shutdown × Source × Shell}
    (hruns : Runs programs prompt sh source xs result) (h : sh.Steady)
    (hwait : sh.world.waitFailure = none) (hs : ∃ s, source = .stream s) :
    (∀ x ∈ xs, x.Logged programs) ∧
      result.2.2.journal = sh.journal ++ xs.flatMap (·.entries) ++ Entry.closing result.1 := by
  induction hruns with
  | failed read =>
    obtain ⟨s, rfl⟩ := hs
    obtain ⟨-, -, hjournal, -⟩ := Shell.journal_readLine h read
    simpa [Entry.closing] using hjournal
  | ended read =>
    obtain ⟨s, rfl⟩ := hs
    obtain ⟨-, -, hjournal, -⟩ := Shell.journal_readLine h read
    refine ⟨List.forall_mem_nil _, ?_⟩
    rw [Shell.journal_emit rfl, hjournal, List.flatMap_nil, List.append_nil]
    rfl
  | @stopped _ _ _ _ line e read executed =>
    obtain ⟨s, rfl⟩ := hs
    obtain ⟨h₁, -, -, -⟩ := Shell.journal_readLine h read
    rw [(Execution.of_steady programs h₁ line).2.1] at executed
    cases executed
  | @exited _ sh₁ _ _ line read executed =>
    obtain ⟨s, rfl⟩ := hs
    obtain ⟨h₁, -, hjournal, hwait₁⟩ := Shell.journal_readLine h read
    have hx := Execution.logged_of programs h₁ (hwait₁.trans hwait) line
    obtain ⟨-, hafter⟩ := Execution.entries_of programs h₁ line
    refine ⟨List.forall_mem_singleton.2 hx, ?_⟩
    rw [Shell.journal_emit rfl, hafter, hjournal, List.flatMap_singleton]
    rfl
  | @continued _ sh₁ _ _ line _ _ read executed _ ih =>
    obtain ⟨s, rfl⟩ := hs
    obtain ⟨h₁, hs', hjournal, hwait₁⟩ := Shell.journal_readLine h read
    have hx := Execution.logged_of programs h₁ (hwait₁.trans hwait) line
    obtain ⟨-, hafter⟩ := Execution.entries_of programs h₁ line
    obtain ⟨-, hsteady, hwait₂⟩ := Execution.reported_of programs h₁ (hwait₁.trans hwait) line
    obtain ⟨hxs, hrest⟩ := ih hsteady hwait₂ hs'
    refine ⟨List.forall_mem_cons.2 ⟨hx, hxs⟩, ?_⟩
    rw [hrest, hafter, hjournal, List.flatMap_cons]
    simp only [List.append_assoc]

namespace Shell

/-- A session notes what its lines do, one after another, and how it ends; each program that is
started is told of as ended before anything else is noted. -/
theorem run_journal (programs : Programs) (prompt : String) {w : World}
    (hwait : w.waitFailure = none) (s : Stream) :
    let result := run programs prompt { world := w } (.stream s)
    ∃ xs, Runs programs prompt { world := w } (.stream s) xs result ∧
      (∀ x ∈ xs, x.Logged programs) ∧
      result.2.2.journal = xs.flatMap (·.entries) ++ Entry.closing result.1 ∧
      Answered result.2.2.journal := by
  intro result
  obtain ⟨xs, hruns⟩ := Runs.run programs prompt { world := w } (.stream s)
  obtain ⟨hlogged, hjournal⟩ := hruns.logged (steady_new w) hwait ⟨s, rfl⟩
  have hjournal : result.2.2.journal = xs.flatMap (·.entries) ++ Entry.closing result.1 := hjournal
  refine ⟨xs, hruns, hlogged, hjournal, ?_⟩
  rw [hjournal]
  exact .append (.flatMap fun x hx => (hlogged x hx).answered) (.closing _)

/-- A program, a command that cannot be run, and a directory that is made. -/
theorem run_journal_mkdir :
    let programs : Programs := fun image =>
      if image = utf8 "there" then some fun p => { files := p.files, status := .killed 9 } else none
    let s : Stream := { feed := .scripted [.chunk (utf8 "true\n\nnone\nmkdir d\nexit 1\nls\n")] }
    let result := run programs "" { world := Command.namesakes } (.stream s)
    Command.namesakes.waitFailure = none ∧
      result.2.2.journal =
        [.launching (utf8 "true"), .spawned (utf8 "/bin/true"), .ended (.killed 9),
          .launching (utf8 "none"), .running (utf8 "mkdir"),
          ⟨"created directory", [("path", "d")]⟩, .running (utf8 "exit"), ⟨"exit requested", []⟩] ∧
      Answered result.2.2.journal := by
  intro programs s result
  have hplain : ∀ line ∈ [] :: [utf8 "true", [], utf8 "none", utf8 "mkdir d", utf8 "exit 1",
    utf8 "ls"], newline ∉ line := by decide
  have haccount := account_run programs "" Command.namesakes hplain (s := s) ⟨_, rfl⟩ fun _ => rfl
  have hjournal : result.2.2.journal = result.2.2.account.events.map Event.entry := rfl
  obtain ⟨-, -, -, -, hanswered⟩ := run_journal programs "" (w := Command.namesakes) rfl s
  refine ⟨rfl, ?_, hanswered⟩
  rw [hjournal, haccount]
  decide

end Shell

end TinyShell
