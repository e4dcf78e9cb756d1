import Mathlib.Data.List.Forall2
import TinyShell.Proofs.Growth
import TinyShell.Proofs.Script

/-!
# Scripts in other words

Two scripts that come to the same rows of tokens are the same commands: the delimiters in their
lines, their blank lines and their tails have no say in what is done, only in how often the
prompt is shown. `Follows` ties a row of lines to the world they start in, and
`Shell.run_reworded` compares two sessions.
-/

namespace TinyShell

/-! ## Commands -/

/-- What the lines ask for, blank lines left out. -/
def commands (lines : List Bytes) : List (List Bytes) :=
  (lines.map Token.words).filter (· ≠ [])

/-- The lines that are executed: those up to the first that starts with `exit`. -/
def reached (lines : List Bytes) : List Bytes := lines.take (lines.findIdx isExit + 1)

/-- The tokens start with `exit`. -/
def asksExit (argv : List Bytes) : Bool := argv.head? = some (utf8 "exit")

section Commands

variable {line : Bytes} (lines : List Bytes)

theorem reached_exit (h : isExit line) : reached (line :: lines) = [line] := by
  simp [reached, List.findIdx_cons, h]

theorem reached_line (h : ¬ isExit line) : reached (line :: lines) = line :: reached lines := by
  simp [reached, List.findIdx_cons, h]

theorem commands_blank (h : Token.words line = []) : commands (line :: lines) = commands lines := by
  simp [commands, h]

theorem commands_cons (h : Token.words line ≠ []) :
    commands (line :: lines) = Token.words line :: commands lines := by
  simp [commands, h]

theorem any_isExit : lines.any isExit = (commands lines).any asksExit := by
  induction lines with
  | nil => rfl
  | cons line lines ih =>
    by_cases h : Token.words line = []
    · rw [List.any_cons, commands_blank lines h, ih]
      simp [isExit, h]
    · rw [List.any_cons, commands_cons lines h, List.any_cons, ih]
      rfl

/-- Which commands are executed is settled by the commands. -/
theorem commands_reached :
    commands (reached lines) = (commands lines).take ((commands lines).findIdx asksExit + 1) := by
  induction lines with
  | nil => rfl
  | cons line lines ih =>
    by_cases h : Token.words line = []
    · rw [reached_line lines (by simp [isExit, h]), commands_blank _ h, commands_blank _ h, ih]
    · rw [commands_cons lines h]
      by_cases he : isExit line
      · have hasks : asksExit (Token.words line) = true := he
        rw [reached_exit lines he, commands_cons _ h]
        simp [List.findIdx_cons, hasks, commands]
      · have hasks : asksExit (Token.words line) = false := Bool.eq_false_iff.2 he
        rw [reached_line lines he, commands_cons _ h, ih]
        simp [List.findIdx_cons, hasks]

end Commands

/-! ## Lines that do the same -/

namespace Execution

variable {x y : Execution} {t : Turn}

/-- The same is done in both, however the lines were written. -/
structure Same (x y : Execution) : Prop where
  argv : x.argv = y.argv
  outcome : x.outcome = y.outcome
  printed : x.printed = y.printed
  told : x.told = y.told
  started : x.started = y.started
  arrived : x.arrived = y.arrived

theorem Takes.same (hx : x.Takes t) (hy : y.Takes t) (h : x.argv = y.argv) : x.Same y where
  argv := h
  outcome := hx.outcome.trans hy.outcome.symm
  printed := hx.printed.trans hy.printed.symm
  told := hx.told.trans hy.told.symm
  started := hx.started.trans hy.started.symm
  arrived := funext fun o => (hx.arrived o).trans (hy.arrived o).symm

/-- Nothing is done. -/
structure Idle (x : Execution) : Prop where
  outcome : x.outcome = .ok .continue
  printed : x.printed = []
  told : x.told = []
  started : x.started = []
  arrived : ∀ o, x.arrived o = []

theorem Takes.idle {w : World} (hx : x.Takes { world := w }) : x.Idle where
  outcome := hx.outcome
  printed := hx.printed
  told := hx.told
  started := hx.started
  arrived o := by
    rw [hx.arrived]
    cases o
    · simp [Turn.arrival, Turn.written, Outlet.share]
    · simp [Turn.arrival, Turn.written, Outlet.share]

end Execution

/-! ## Rows of lines -/

/-- The lines are executed one after another, each in the world that the one before left. -/
def Follows (programs : Programs) : World → List Execution → World → Prop
  | w, [], w' => w'.hushed = w.hushed
  | w, x :: xs, w' =>
    x.Takes (Turn.of programs w x.argv) ∧ Follows programs (Turn.of programs w x.argv).world xs w'

namespace Follows

variable {programs : Programs} {w w₁ w₂ : World} {xs ys : List Execution}

theorem idle (h : Follows programs w xs w₁) : ∀ x ∈ xs, x.argv = [] → x.Idle := by
  induction xs generalizing w with
  | nil => exact List.forall_mem_nil _
  | cons x xs ih =>
    refine List.forall_mem_cons.2 ⟨fun hx => ?_, ih h.2⟩
    have htakes := h.1
    rw [hx] at htakes
    exact htakes.idle

/-- A blank line leaves the world to the next one as it is. -/
theorem nonblank (h : Follows programs w xs w₁) :
    Follows programs w (xs.filter (·.argv ≠ [])) w₁ := by
  induction xs generalizing w with
  | nil => exact h
  | cons x xs ih =>
    by_cases hx : x.argv = []
    · have hrest := h.2
      rw [hx] at hrest
      rw [List.filter_cons_of_neg (by simpa using hx)]
      exact ih hrest
    · rw [List.filter_cons_of_pos (by simpa using hx)]
      exact ⟨h.1, ih h.2⟩

/-- The same tokens in the same world come to the same. -/
theorem same (hx : Follows programs w xs w₁) (hy : Follows programs w ys w₂)
    (h : xs.map (·.argv) = ys.map (·.argv)) :
    List.Forall₂ Execution.Same xs ys ∧ w₁.hushed = w₂.hushed := by
  induction xs generalizing w ys with
  | nil =>
    obtain rfl : ys = [] := by simpa using h.symm
    exact ⟨.nil, hx.trans hy.symm⟩
  | cons x xs ih =>
    obtain ⟨y, ys, rfl⟩ : ∃ y ys', ys = y :: ys' := by
      cases ys with
      | nil => simp at h
      | cons y ys => exact ⟨y, ys, rfl⟩
    obtain ⟨hargv, hrest⟩ : x.argv = y.argv ∧ xs.map (·.argv) = ys.map (·.argv) :=
      List.cons.inj h
    rw [Follows, ← hargv] at hy
    obtain ⟨hsame, hworld⟩ := ih hx.2 hy.2 hrest
    exact ⟨.cons (hx.1.same hy.1 hargv) hsame, hworld⟩

end Follows

/-- What is shown before a session ends: a prompt at which no line came, or nothing. -/
def lastPrompt (prompt : String) : Shutdown → Bytes
  | .exit => []
  | .endOfInput => utf8 prompt

/-- What there is between two accounts is what the lines brought, a prompt before each. -/
structure Recount (prompt : String) (a : Account) (xs : List Execution) (shutdown : Shutdown)
    (a' : Account) : Prop where
  output : a'.output =
    a.output ++ xs.flatMap (utf8 prompt ++ ·.printed) ++ lastPrompt prompt shutdown
  errors : a'.errors = a.errors ++ xs.flatMap (·.told)
  children : a'.children = a.children ++ xs.flatMap (·.started)
  received : a.world.Received
    ((xs.flatMap fun x => (.output, utf8 prompt) :: x.arrivals) ++
      [(.output, lastPrompt prompt shutdown)]) a'.world

namespace Recount

variable {prompt : String} {a a' : Account} {xs : List Execution} {shutdown : Shutdown}

theorem exit (a : Account) : Recount prompt a [] .exit (a.noting .exitRequested) where
  output := by simp [Account.noting, lastPrompt]
  errors := by simp [Account.noting]
  children := by simp [Account.noting]
  received := by
    simpa [World.write, lastPrompt, Account.noting] using World.Received.write a.world (.output, [])

theorem ended (prompt : String) (a : Account) :
    Recount prompt a [] .endOfInput ((a.prompted prompt).noting .endOfInput) where
  output := by simp [Account.noting, Account.prompted, lastPrompt]
  errors := by simp [Account.noting, Account.prompted]
  children := by simp [Account.noting, Account.prompted]
  received := .write a.world (.output, utf8 prompt)

theorem cons {x : Execution} {a₁ : Account} (hx : x.Brings (a.prompted prompt) a₁)
    (h : Recount prompt a₁ xs shutdown a') : Recount prompt a (x :: xs) shutdown a' where
  output := by rw [h.output, hx.output]; simp [Account.prompted]
  errors := by rw [h.errors, hx.errors]; simp [Account.prompted]
  children := by rw [h.children, hx.children]; simp [Account.prompted]
  received := (World.Received.write a.world (.output, utf8 prompt)).trans
    (hx.received.trans h.received)

end Recount

/-! ## Sessions -/

namespace Shell

variable {sh : Shell}

/-- What is read from a script is settled by the next symbols, and the prompt is shown. -/
theorem readLine_script (h : sh.Steady) (prompt : String) {s : Stream} (hscripted : s.IsScripted)
    {row : List Symbol} (hs : ∀ input, s.symbols input = row) :
    ∃ s' sh', sh.readLine prompt (.stream s) =
        ((Symbol.next row).1.mapError .io, .stream s', sh') ∧
      s'.IsScripted ∧ (∀ input, s'.symbols input = (Symbol.next row).2) ∧
      sh'.Steady ∧ sh'.account = sh.account.prompted prompt ∧
      sh'.world.hushed = sh.world.hushed := by
  obtain ⟨events, s', hscripted', hs', hn⟩ :=
    Stream.next_script hscripted hs (sh.account.world.putOutput (utf8 prompt)).input
  obtain ⟨sh', hread, hsteady, -, haccount⟩ := readLine_steady h prompt s hn
  have haccount : sh'.account = sh.account.prompted prompt := haccount
  refine ⟨s', sh', hread, hscripted', hs', hsteady, haccount, ?_⟩
  rw [← hushed_account hsteady, ← hushed_account h, haccount]
  exact World.hushed_putOutput

variable (programs : Programs)

/-- The rows of a session over a script: what is read, in the order of the lines. -/
theorem runs_script (prompt : String) {lines : List Bytes} {tail : Bytes}
    (hn : ∀ line ∈ tail :: lines, newline ∉ line) (h : sh.Steady) {w : World}
    (hw : sh.world.hushed = w.hushed) {s : Stream} (hscripted : s.IsScripted)
    (hs : ∀ input, s.symbols input = (terminated lines ++ tail).map .byte) :
    let shutdown : Shutdown := if lines.any isExit then .exit else .endOfInput
    ∃ xs s' sh', Runs programs prompt sh (.stream s) xs (.ok shutdown, .stream s', sh') ∧
      xs.map (·.line) = reached lines ∧ sh'.Steady ∧ Follows programs w xs sh'.world ∧
      Recount prompt sh.account xs shutdown sh'.account := by
  -- `w` is the world in which the turns are told. It differs from that of the shell in what has
  -- been heard, since no prompt is shown in it.
  induction lines generalizing sh w s with
  | nil =>
    obtain ⟨s', sh₁, hread, -, -, h₁, ha₁, hw₁⟩ := readLine_script h prompt hscripted hs
    rw [Symbol.next_tail (hn tail List.mem_cons_self)] at hread
    obtain ⟨h₂, ha₂⟩ := account_emit (e := .endOfInput) h₁ rfl
    refine ⟨[], s', sh₁.emit .endOfInput, .ended hread, rfl, h₂, ?_, ?_⟩
    · exact (hushed_emitAll sh₁ [.endOfInput]).trans (hw₁.trans hw)
    · rw [ha₂, ha₁]
      exact .ended prompt sh.account
  | cons line lines ih =>
    obtain ⟨s', sh₁, hread, hscripted', hs', h₁, ha₁, hw₁⟩ := readLine_script h prompt hscripted hs
    rw [Symbol.next_line (hn line (by simp))] at hread hs'
    have hn' : ∀ l ∈ tail :: lines, newline ∉ l := fun l hl => hn l (by
      rcases List.mem_cons.1 hl with rfl | hl <;> simp [*])
    obtain ⟨htakes, hafter, hworld⟩ := Execution.takes_of programs h₁ (hw₁.trans hw) line
    have hbrings := Execution.brings_of programs h₁ line
    rw [ha₁] at hbrings
    have hexit : (Turn.of programs w (Token.words line)).signal = .terminate ↔ isExit line := by
      simp [Turn.signal_terminate, isExit]
    cases hsignal : (Turn.of programs w (Token.words line)).signal with
    | terminate =>
      have he : isExit line := hexit.1 hsignal
      have hexits : (line :: lines).any isExit = true := by simp [he]
      have houtcome : (Execution.of programs sh₁ line).outcome = .ok .terminate :=
        htakes.outcome.trans (congrArg _ hsignal)
      obtain ⟨h₂, ha₂⟩ := account_emit (e := .exitRequested) hafter rfl
      simp only [hexits, if_true]
      refine ⟨_, s', _, .exited hread houtcome, ?_, h₂, ⟨htakes, hworld⟩, ?_⟩
      · rw [reached_exit lines he]; rfl
      · rw [ha₂]
        exact .cons hbrings (.exit _)
    | «continue» =>
      have he : ¬ isExit line := fun he => by
        rw [hexit.2 he] at hsignal; cases hsignal
      have hexits : (line :: lines).any isExit = lines.any isExit := by simp [he]
      have houtcome : (Execution.of programs sh₁ line).outcome = .ok .continue :=
        htakes.outcome.trans (congrArg _ hsignal)
      obtain ⟨xs, s'', sh', hruns, hlines, hsteady, hfollows, hrecount⟩ :=
        ih hn' hafter hworld hscripted' hs'
      rw [hexits]
      refine ⟨_, s'', sh', .continued hread houtcome hruns, ?_, hsteady, ⟨htakes, hfollows⟩,
        .cons hbrings hrecount⟩
      rw [reached_line lines he, ← hlines]; rfl

end Shell

/-- A text as a stream delivers it, cut into chunks in whatever way, and its lines. -/
structure Script where
  deliveries : List Delivery
  lines : List Bytes
  /-- What no newline ends. -/
  tail : Bytes
  plain : ∀ line ∈ tail :: lines, newline ∉ line
  delivered : deliveries.flatMap Delivery.symbols = (terminated lines ++ tail).map .byte

namespace Script

def source (script : Script) : Source := .stream { feed := .scripted script.deliveries }

variable (programs : Programs) (prompt : String) (w : World)

/-- A session of a shell with new writers over a script: the lines it executes, how it ends and
what it leaves behind. -/
structure Session (script : Script) (xs : List Execution) (shutdown : Shutdown) (sh : Shell) :
    Prop where
  run : ∃ s, Shell.run programs prompt { world := w } script.source = (.ok shutdown, .stream s, sh)
  runs : Runs programs prompt { world := w } script.source xs
    (Shell.run programs prompt { world := w } script.source)
  lines : xs.map (·.line) = reached script.lines
  blank : ∀ x ∈ xs, x.argv = [] → x.Idle
  output : sh.out.written =
    xs.flatMap (utf8 prompt ++ ·.printed) ++ lastPrompt prompt shutdown
  errors : sh.err.written = xs.flatMap (·.told)
  children : sh.children = xs.flatMap (·.started)
  received : w.Received ((xs.flatMap fun x => (.output, utf8 prompt) :: x.arrivals) ++
    [(.output, lastPrompt prompt shutdown)]) sh.world

theorem exists_session (script : Script) :
    let shutdown : Shutdown := if script.lines.any isExit then .exit else .endOfInput
    ∃ xs sh, script.Session programs prompt w xs shutdown sh ∧
      Follows programs w xs sh.world := by
  intro shutdown
  have hs : ∀ input, Stream.symbols { feed := .scripted script.deliveries } input =
      (terminated script.lines ++ script.tail).map .byte := fun input => by
    rw [← script.delivered]; simp [Stream.symbols, Feed.symbols]
  obtain ⟨xs, s, sh, hruns, hlines, hsteady, hfollows, hrecount⟩ :=
    Shell.runs_script programs prompt script.plain (Shell.steady_new w) rfl
      ⟨script.deliveries, rfl⟩ hs
  obtain ⟨sh', hrun, -, hheld, -⟩ :=
    Shell.run_course programs (Shell.steady_new w) prompt { feed := .scripted script.deliveries }
  -- The two runs are one, so nothing is held back at the end.
  have heq := hruns.eq_run
  obtain rfl : sh = sh' := by
    rw [hrun] at heq
    exact (congrArg (·.2.2) heq).symm
  have hworld := Shell.world_unheld hsteady hheld
  refine ⟨xs, sh, ⟨⟨s, heq⟩, ?_, hlines, hfollows.idle, ?_, ?_, ?_, ?_⟩, hfollows⟩
  · rw [show script.source = .stream { feed := .scripted script.deliveries } from rfl, heq]
    exact hruns
  · exact hrecount.output
  · exact hrecount.errors
  · exact hrecount.children
  · have hreceived := hrecount.received
    rw [hworld, Account.new] at hreceived
    exact hreceived

variable {programs prompt w}

variable {a b : Script} {xs ys : List Execution} {shutdown shutdown' : Shutdown} {sh sh' : Shell}

namespace Session

theorem argvs (h : a.Session programs prompt w xs shutdown sh) :
    (xs.filter (·.argv ≠ [])).map (·.argv) = commands (reached a.lines) := by
  rw [commands, ← h.lines, List.map_map, List.filter_map]
  rfl

variable {α : Type} (f : Execution → List α)

/-- What blank lines bring is nothing. -/
theorem flatMap_nonblank (blank : ∀ x ∈ xs, x.argv = [] → x.Idle)
    (idle : ∀ x : Execution, x.Idle → f x = []) :
    (xs.filter (·.argv ≠ [])).flatMap f = xs.flatMap f := by
  induction xs with
  | nil => rfl
  | cons x xs ih =>
    obtain ⟨hx, hxs⟩ := List.forall_mem_cons.1 blank
    by_cases hblank : x.argv = []
    · rw [List.filter_cons_of_neg (by simpa using hblank), List.flatMap_cons, idle x (hx hblank),
        ih hxs, List.nil_append]
    · rw [List.filter_cons_of_pos (by simpa using hblank), List.flatMap_cons, List.flatMap_cons,
        ih hxs]

theorem flatMap_of_same (same : List.Forall₂ Execution.Same xs ys)
    (hsame : ∀ x y : Execution, x.Same y → f x = f y) : xs.flatMap f = ys.flatMap f := by
  induction same with
  | nil => rfl
  | cons h _ ih => rw [List.flatMap_cons, List.flatMap_cons, hsame _ _ h, ih]

/-- Sessions whose commands do the same bring the same, whatever blank lines there are. -/
theorem flatMap_same (hx : a.Session programs prompt w xs shutdown sh)
    (hy : b.Session programs prompt w ys shutdown' sh')
    (same : List.Forall₂ Execution.Same (xs.filter (·.argv ≠ [])) (ys.filter (·.argv ≠ [])))
    (hsame : ∀ x y : Execution, x.Same y → f x = f y)
    (idle : ∀ x : Execution, x.Idle → f x = []) : xs.flatMap f = ys.flatMap f := by
  rw [← flatMap_nonblank f hx.blank idle, ← flatMap_nonblank f hy.blank idle,
    flatMap_of_same f same hsame]

/-- On descriptor 2 there is what arrives in the course of the lines. -/
theorem alarms (h : a.Session programs prompt w xs shutdown sh) :
    sh.world.errors = w.errors ++ xs.flatMap (·.arrived .errors) := by
  have hshare (xs : List Execution) :
      Outlet.errors.share (xs.flatMap fun x => (.output, utf8 prompt) :: x.arrivals) =
        xs.flatMap (·.arrived .errors) := by
    induction xs with
    | nil => rfl
    | cons x xs ih =>
      rw [List.flatMap_cons, Outlet.share_append, ih]
      simp [Outlet.share, Execution.arrivals]
  rw [h.received.errors, Outlet.share_append, hshare]
  simp [Outlet.share]

end Session

end Script

namespace Shell

/-- Scripts of the same commands come to the same, line by line and in the end. What they show
differs by the prompts that their blank lines are read at. -/
theorem run_reworded (programs : Programs) (prompt : String) (w : World) (a b : Script)
    (h : commands a.lines = commands b.lines) :
    ∃ xs ys shutdown sh sh', a.Session programs prompt w xs shutdown sh ∧
      b.Session programs prompt w ys shutdown sh' ∧
      List.Forall₂ Execution.Same (xs.filter (·.argv ≠ [])) (ys.filter (·.argv ≠ [])) ∧
      sh.children = sh'.children ∧ sh.err.written = sh'.err.written ∧
      sh.world.errors = sh'.world.errors ∧
      sh.world.files = sh'.world.files ∧ sh.world.cwd = sh'.world.cwd := by
  obtain ⟨xs, sh, hx, hfollows⟩ := a.exists_session programs prompt w
  obtain ⟨ys, sh', hy, hfollows'⟩ := b.exists_session programs prompt w
  have hexits : a.lines.any isExit = b.lines.any isExit := by
    rw [any_isExit, any_isExit, h]
  have hargvs : (xs.filter (·.argv ≠ [])).map (·.argv) =
      (ys.filter (·.argv ≠ [])).map (·.argv) := by
    rw [hx.argvs, hy.argvs, commands_reached, commands_reached, h]
  -- Without their blank lines the two rows are turns of the same tokens in the same worlds.
  obtain ⟨hsame, hworld⟩ := hfollows.nonblank.same hfollows'.nonblank hargvs
  rw [← hexits] at hy
  refine ⟨xs, ys, _, sh, sh', hx, hy, hsame, ?_, ?_, ?_, World.files_eq hworld,
    World.cwd_eq hworld⟩
  · rw [hx.children, hy.children]
    exact hx.flatMap_same _ hy hsame (fun _ _ h => h.started) fun _ h => h.started
  · rw [hx.errors, hy.errors]
    exact hx.flatMap_same _ hy hsame (fun _ _ h => h.told) fun _ h => h.told
  · rw [hx.alarms, hy.alarms, hx.flatMap_same _ hy hsame
      (fun _ _ h => congrFun h.arrived _) fun _ h => h.arrived _]

/-- A blank line more, the ends of the lines, and a tail. -/
theorem run_reworded_echo :
    let w : World := { files := ⟨#[]⟩, cwd := 0, environment := [] }
    let a : Script := {
      deliveries := [.chunk (utf8 "\r\n echo  hi\r"), .interrupted, .chunk (utf8 "\nexit\nls")]
      lines := [utf8 "\r", utf8 " echo  hi\r", utf8 "exit"], tail := utf8 "ls"
      plain := by decide, delivered := by decide }
    let b : Script := {
      deliveries := [.chunk (utf8 "echo\thi\nexit\n\n")]
      lines := [utf8 "echo\thi", utf8 "exit", []], tail := []
      plain := by decide, delivered := by decide }
    commands a.lines = commands b.lines ∧
      ∃ xs ys shutdown sh sh', a.Session (fun _ => none) "> " w xs shutdown sh ∧
        b.Session (fun _ => none) "> " w ys shutdown sh' ∧
        sh.out.written = utf8 "> " ++ sh'.out.written := by
  intro w a b
  have h : commands a.lines = commands b.lines := by decide
  obtain ⟨xs, ys, shutdown, sh, sh', hx, hy, hsame, -⟩ :=
    run_reworded (fun _ => none) "> " w a b h
  refine ⟨h, xs, ys, shutdown, sh, sh', hx, hy, ?_⟩
  have hxs : xs.map (·.line) = [utf8 "\r", utf8 " echo  hi\r", utf8 "exit"] :=
    hx.lines.trans (by decide)
  have hys : ys.map (·.line) = [utf8 "echo\thi", utf8 "exit"] := hy.lines.trans (by decide)
  obtain ⟨x₀, xs, rfl, hx₀, hxs⟩ := List.map_eq_cons_iff.1 hxs
  -- The first line of the one is blank, all the others are not.
  have hblank : x₀.argv = [] := by rw [Execution.argv, hx₀]; decide
  have hfilter (zs : List Execution) (h : ∀ line ∈ zs.map (·.line), Token.words line ≠ []) :
      zs.filter (·.argv ≠ []) = zs :=
    List.filter_eq_self.2 fun z hz => decide_eq_true (h z.line (List.mem_map_of_mem hz))
  rw [List.filter_cons_of_neg (by simpa using hblank), hfilter xs (by rw [hxs]; decide),
    hfilter ys (by rw [hys]; decide)] at hsame
  have hshown : xs.flatMap (utf8 "> " ++ ·.printed) = ys.flatMap (utf8 "> " ++ ·.printed) :=
    Script.Session.flatMap_of_same _ hsame fun _ _ h => by rw [h.printed]
  rw [hx.output, hy.output, List.flatMap_cons, hshown, (hx.blank x₀ (by simp) hblank).printed]
  simp

end Shell

end TinyShell
