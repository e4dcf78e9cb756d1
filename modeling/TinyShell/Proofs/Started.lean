import TinyShell.Proofs.Account
import TinyShell.Proofs.Lookup

/-!
# Programs that are started

A command that is not built in starts one program or none. `Command.Starts` says when one is
started and which, `Command.Refusal` why none is and what is said of it;
`Shell.executeLine_starts` is what either comes to.
-/

namespace TinyShell

namespace Exec

variable {programs : Programs} {w : World} {path : Bytes} {argv : List Bytes} {started : Started}

/-- What the system makes of a path: it looks for a bare name on its own. -/
def accept (programs : Programs) (w : World) (path : Bytes) (argv : List Bytes) :
    Except Errno Started :=
  if slash ∈ path then start programs w path argv
  else startFirst programs w argv .noEntry (attempts w.effectiveSearchPath path)

theorem spawn_eq :
    spawn programs w path argv =
      if ∃ text ∈ path :: argv, nul ∈ text then .error .nulInArgument
      else (accept programs w path argv).mapError .os := by
  simp only [spawn, accept, List.any_eq_true, List.contains_eq_mem, decide_eq_true_eq]

theorem content_of_openImage {files : Files} {cwd file : Inode} {image : Bytes}
    (h : openImage files cwd path = .ok (file, image)) : files.content file = image := by
  unfold openImage at h
  cases hf : files.find cwd path with
  | error e => rw [hf] at h; cases h
  | ok i =>
    simp only [hf, bind, Except.bind] at h
    split at h
    · next hnode =>
      split at h
      · cases h
        simp only [Files.content, hnode]
      · cases h
    · cases h

/-- What is started at a path is the program that the content of the file there stands for. -/
theorem interpret_of_start (h : start programs w path argv = .ok started) :
    interpret programs w.files w.cwd depthMax (w.files.content started.file) path argv =
      .ok (started.program, started.argv) := by
  rw [start_eq] at h
  split at h
  · cases h
  · next file image hopen =>
    have hcontent := content_of_openImage hopen
    split at h
    · cases hi : interpret programs w.files w.cwd depthMax image path argv with
      | error e => rw [hi] at h; cases h
      | ok p =>
        rw [hi] at h
        cases h
        rwa [hcontent]
    · cases h

theorem exists_start {failure : Errno} {paths : List Bytes}
    (h : startFirst programs w argv failure paths = .ok started) :
    ∃ path ∈ paths, start programs w path argv = .ok started := by
  fun_induction startFirst programs w argv failure paths with
  | case1 => cases h
  | case2 failure path paths _ ih | case3 failure path paths _ ih | case4 failure path paths _ ih =>
    obtain ⟨found, hmem, hstart⟩ := ih h
    exact ⟨found, List.mem_cons_of_mem _ hmem, hstart⟩
  | case5 failure path paths => exact ⟨path, List.mem_cons_self, h⟩

theorem exists_interpret (h : accept programs w path argv = .ok started) :
    ∃ path', interpret programs w.files w.cwd depthMax (w.files.content started.file) path' argv =
      .ok (started.program, started.argv) := by
  unfold accept at h
  split at h
  · exact ⟨path, interpret_of_start h⟩
  · obtain ⟨path', -, hstart⟩ := exists_start h
    exact ⟨path', interpret_of_start hstart⟩

section Interpret

variable {files : Files} {cwd : Inode} {depth : Nat} {image : Bytes} {program : Program}
  {argv' : List Bytes}

/-- What is no script is itself the program, and is given the arguments as they are. -/
theorem interpret_plain (h : interpret programs files cwd depth image path argv =
    .ok (program, argv')) (hplain : Header.parse? image = none) :
    programs image = some program ∧ argv' = argv := by
  cases depth with
  | zero => cases h
  | succ depth =>
    simp only [interpret, hplain] at h
    split at h
    · next hprogram => cases h; exact ⟨hprogram, rfl⟩
    · cases h

/-- However many scripts are read by each other, some image holds the program at the end, and it is
given all arguments but the first. -/
theorem interpret_ok (h : interpret programs files cwd depth image path argv =
    .ok (program, argv')) :
    (∃ image', programs image' = some program) ∧ argv.drop 1 <:+ argv' := by
  induction depth generalizing image path argv with
  | zero => cases h
  | succ depth ih =>
    simp only [interpret] at h
    split at h
    · next interpreter argument _ =>
      cases hopen : openInterpreter files cwd interpreter with
      | error e => rw [hopen] at h; cases h
      | ok image' =>
        rw [hopen] at h
        obtain ⟨himage, hargs⟩ := ih h
        refine ⟨himage, List.IsSuffix.trans ?_ hargs⟩
        exact ⟨argument.toList ++ [path], by simp⟩
    · split at h
      · next hprogram =>
        cases h
        exact ⟨⟨image, hprogram⟩, List.drop_suffix 1 _⟩
      · cases h

end Interpret

end Exec

namespace Command

variable {programs : Programs} {w : World} {argv : List Bytes} {path : Bytes} {started : Started}

/-- What the first token stands for on `PATH`, or on `/bin:/usr/bin` if that is not set. -/
def path? (w : World) (argv : List Bytes) : Option Bytes :=
  Search.find? w.files w.cwd (w.environment.searchPath.getD (utf8 "/bin:/usr/bin")) (nameOf argv)

/-- The first token stands for a path, and the system accepts that path with these tokens. -/
structure Starts (programs : Programs) (w : World) (argv : List Bytes) (path : Bytes)
    (started : Started) : Prop where
  found : path? w argv = some path
  plain : ∀ token ∈ argv, nul ∉ token
  accepted : Exec.accept programs w path argv = .ok started

/-- Why nothing is started, as it is told. -/
inductive Refusal (programs : Programs) (w : World) (argv : List Bytes) : String → Prop where
  | unknown (missing : path? w argv = none) : Refusal programs w argv "command not found"
  | unfit {path : Bytes} (found : path? w argv = some path)
      (holds : ∃ token ∈ argv, nul ∈ token) :
      Refusal programs w argv IoError.nulInArgument.message
  | refused {path : Bytes} {e : Errno} (found : path? w argv = some path)
      (plain : ∀ token ∈ argv, nul ∉ token)
      (refused : Exec.accept programs w path argv = .error e) :
      Refusal programs w argv (IoError.os e).message

theorem Refusal.not_starts {reason : String} (h : Refusal programs w argv reason) :
    ¬ Starts programs w argv path started := by
  rintro ⟨hfound, hplain, haccepted⟩
  cases h with
  | unknown missing => rw [missing] at hfound; cases hfound
  | unfit found holds =>
    obtain ⟨token, hmem, hnul⟩ := holds
    exact hplain token hmem hnul
  | refused found plain refused =>
    rw [found, Option.some.injEq] at hfound
    subst hfound
    rw [refused] at haccepted
    cases haccepted

theorem Starts.unique {path' : Bytes} {started' : Started} (h : Starts programs w argv path started)
    (h' : Starts programs w argv path' started') : path' = path ∧ started' = started := by
  obtain rfl := Option.some.inj (h'.found.symm.trans h.found)
  exact ⟨rfl, Except.ok.inj (h'.accepted.symm.trans h.accepted)⟩

theorem nul_not_mem_program {search : Bytes} {c : Command} (h : resolve w search argv = .ok c) :
    nul ∉ c.program := by
  obtain ⟨-, -, hsome, -⟩ := resolve_cases h
  intro hnul
  simp [Search.examine, hnul] at hsome

/-- A resolved path holds no NUL, so it is the tokens that settle whether anything does. -/
theorem spawn_resolved (programs : Programs) {search : Bytes} {c : Command}
    (h : resolve w search argv = .ok c) :
    c.spawn programs w =
      (if ∃ token ∈ argv, nul ∈ token then .error .nulInArgument
        else (Exec.accept programs w c.program argv).mapError IoError.os).mapError
          (.io (Utf8.lossy (nameOf argv))) := by
  have hnul := nul_not_mem_program h
  rw [spawn, Exec.spawn_eq, argv_of_resolve h]
  simp only [List.mem_cons, exists_eq_or_imp, hnul, false_or]

theorem resolve_path {c : Command} (h : resolve w w.effectiveSearchPath argv = .ok c) :
    path? w argv = some c.program ∧ c = { program := c.program, argv } := by
  unfold resolve at h
  split at h
  · next hfound => cases h; exact ⟨hfound, rfl⟩
  · cases h

end Command

theorem Builtin.find?_eq_none_iff {name : Bytes} :
    find? name = none ↔ ∀ b ∈ all, utf8 b.name ≠ name := by
  simp [find?, List.find?_eq_none]

namespace Turn

variable (programs : Programs) (w : World) (argv : List Bytes)

/-- A program is started, or there is a reason why none is. -/
theorem ofProgram_cases :
    (∃ path started, Command.Starts programs w argv path started ∧
      ofProgram programs w argv = ofStarted w argv { program := path, argv } started) ∨
    ∃ e reason, Command.Refusal programs w argv reason ∧
      ofProgram programs w argv = ofFailure w argv e ∧
      e.message = Utf8.lossy (Command.nameOf argv) ++ ": " ++ reason := by
  unfold ofProgram
  cases hresolve : Command.resolve w w.effectiveSearchPath argv with
  | error e =>
    obtain ⟨hmissing, rfl⟩ := Command.resolve_eq_error_iff.1 hresolve
    exact .inr ⟨_, _, .unknown hmissing, rfl, by rw [String.append_assoc]; rfl⟩
  | ok command =>
    obtain ⟨hfound, hcommand⟩ := Command.resolve_path hresolve
    have hspawn := Command.spawn_resolved programs hresolve
    by_cases hnul : ∃ token ∈ argv, nul ∈ token
    · rw [if_pos hnul] at hspawn
      simp only [hspawn]
      exact .inr ⟨_, _, .unfit hfound hnul, rfl, rfl⟩
    · rw [if_neg hnul] at hspawn
      have hplain : ∀ token ∈ argv, nul ∉ token := by simpa using hnul
      cases haccept : Exec.accept programs w command.program argv with
      | error e =>
        rw [haccept] at hspawn
        simp only [hspawn]
        exact .inr ⟨_, _, .refused hfound hplain haccept, rfl, rfl⟩
      | ok started =>
        rw [haccept] at hspawn
        simp only [hspawn]
        exact .inl ⟨_, _, ⟨hfound, hplain, haccept⟩, by rw [hcommand]; rfl⟩

/-- A program has no say in the session or in the working directory of the shell. -/
theorem ofProgram_stays :
    (ofProgram programs w argv).signal = .continue ∧
      (ofProgram programs w argv).world.cwd = w.cwd := by
  unfold ofProgram
  split
  · exact ⟨rfl, rfl⟩
  · split
    · exact ⟨rfl, rfl⟩
    · simp [ofStarted]

variable {programs w argv}

theorem ofProgram_of_starts {path : Bytes} {started : Started}
    (h : Command.Starts programs w argv path started) :
    ofProgram programs w argv = ofStarted w argv { program := path, argv } started := by
  rcases ofProgram_cases programs w argv with ⟨path', started', h', ht⟩ | ⟨_, _, h', -⟩
  · obtain ⟨rfl, rfl⟩ := h.unique h'
    exact ht
  · exact absurd h h'.not_starts

theorem ofStarted_eq (hwait : w.waitFailure = none) (command : Command) (started : Started) :
    let effect := started.program (w.process started.argv)
    ofStarted w argv command started = {
      world := { w with files := effect.files, input := w.input.drop effect.consumed }
      spoken := effect.written
      events := [.launching (Command.nameOf argv), .spawned command.program, .ended effect.status]
      children := [{
        file := started.file, argv, cwd := w.cwd, status := effect.status,
        heldOutput := [], heldErrors := [] }] } := by
  simp only [ofStarted, Command.wait, hwait]; rfl

end Turn

namespace Shell

variable (programs : Programs) {sh : Shell} {line name : Bytes} {args : List Bytes}

/-- A line that does not start with a built-in command is the turn of a program. -/
theorem executeLine_foreign (h : sh.Steady) (hline : Token.words line = name :: args)
    (hname : Builtin.find? name = none) :
    let t := Turn.ofProgram programs sh.world (name :: args)
    let result := sh.executeLine programs line
    result.1 = .ok t.signal ∧ result.2.err.written = sh.err.written ++ t.errors ∧
      result.2.children = sh.children ++ t.children ∧
      result.2.world.hushed = t.world.hushed := by
  have hturn := executeLine_turn programs h line
  rwa [hline, Turn.of_foreign _ _ hname] at hturn

theorem executeLine_started (h : sh.Steady) (hwait : sh.world.waitFailure = none)
    (hline : Token.words line = name :: args) (hname : Builtin.find? name = none) {path : Bytes}
    {started : Started} (hstarts : Command.Starts programs sh.world (name :: args) path started) :
    let effect := started.program (sh.world.process started.argv)
    let sh' := (sh.executeLine programs line).2
    sh'.children = sh.children ++ [{
        file := started.file, argv := name :: args, cwd := sh.world.cwd, status := effect.status,
        heldOutput := [], heldErrors := [] }] ∧
      sh'.world.hushed = { sh.world with
        files := effect.files, input := sh.world.input.drop effect.consumed }.hushed ∧
      sh'.err.written = sh.err.written := by
  intro effect sh'
  obtain ⟨-, htold, hchildren, hworld⟩ := executeLine_foreign programs h hline hname
  rw [Turn.ofProgram_of_starts hstarts, Turn.ofStarted_eq hwait] at htold hchildren hworld
  exact ⟨hchildren, hworld, htold.trans (List.append_nil _)⟩

theorem executeLine_refused (h : sh.Steady) (hline : Token.words line = name :: args)
    (hname : Builtin.find? name = none)
    (hnone : ∀ path started, ¬ Command.Starts programs sh.world (name :: args) path started) :
    let sh' := (sh.executeLine programs line).2
    sh'.children = sh.children ∧ sh'.world.files = sh.world.files ∧
      ∃ reason, Command.Refusal programs sh.world (name :: args) reason ∧
        sh'.err.written = sh.err.written ++
          utf8 ("minish: " ++ Utf8.lossy name ++ ": " ++ reason ++ "\n") := by
  intro sh'
  obtain ⟨-, htold, hchildren, hworld⟩ := executeLine_foreign programs h hline hname
  rcases Turn.ofProgram_cases programs sh.world (name :: args) with
    ⟨path, started, hstarts, -⟩ | ⟨e, reason, hrefusal, ht, hmessage⟩
  · exact absurd hstarts (hnone path started)
  · rw [ht] at htold hchildren hworld
    refine ⟨hchildren.trans (List.append_nil _), (World.files_eq hworld).trans rfl, reason,
      hrefusal, ?_⟩
    rw [htold, Turn.ofFailure, diagnostic_eq, hmessage]
    simp only [String.append_assoc]
    rfl

theorem executeLine_builtin (h : sh.Steady) (hline : Token.words line = name :: args)
    {b : Builtin} (hname : Builtin.find? name = some b) :
    (sh.executeLine programs line).2.children = sh.children ∧
      ∀ programs', sh.executeLine programs' line = sh.executeLine programs line := by
  obtain ⟨-, -, hchildren, -⟩ := executeLine_turn programs h line
  rw [hline, Turn.of_builtin _ _ hname, Turn.ofBuiltin_children, List.append_nil] at hchildren
  refine ⟨hchildren, fun programs' => ?_⟩
  simp only [executeLine, Token.split_tokens, hline, execute, hname]

/-- A name that no built-in command has stands for a program. One is started if the system
accepts it, with the tokens for arguments, in the working directory of the shell and with its
environment; a script has its interpreter started, which is given the tokens after the first. If
none is started, nothing happens but that the reason is told. For a built-in command none is,
whatever programs there are. -/
theorem executeLine_starts (h : sh.Steady) (hwait : sh.world.waitFailure = none)
    (hline : Token.words line = name :: args) :
    let w := sh.world
    let argv := name :: args
    let result := sh.executeLine programs line
    let sh' := result.2
    ((∀ b ∈ Builtin.all, utf8 b.name ≠ name) →
      result.1 = .ok .continue ∧ sh'.world.cwd = w.cwd ∧
      (∀ path started, Command.Starts programs w argv path started →
        let process : Process := {
          argv := started.argv, files := w.files, cwd := w.cwd, environment := w.environment,
          input := w.input, sink := if w.outputFull then .full else .taken,
          isInputClosed := false, mask := 0, ignored := [] }
        let effect := started.program process
        let content := w.files.content started.file
        sh'.children = sh.children ++ [{
          file := started.file, argv, cwd := w.cwd, status := effect.status,
          heldOutput := [], heldErrors := [] }] ∧
        (slash ∈ path → w.files.find w.cwd path = .ok started.file) ∧
        (Header.parse? content = none →
          programs content = some started.program ∧ process.argv = argv) ∧
        args <:+ process.argv ∧
        sh'.world.files = effect.files ∧ sh'.world.input = w.input.drop effect.consumed ∧
        sh'.world.environment = w.environment ∧ sh'.err.written = sh.err.written) ∧
      ((∀ path started, ¬ Command.Starts programs w argv path started) →
        sh'.children = sh.children ∧ sh'.world.files = w.files ∧
        ∃ reason, Command.Refusal programs w argv reason ∧ sh'.err.written = sh.err.written ++
          utf8 ("minish: " ++ Utf8.lossy name ++ ": " ++ reason ++ "\n"))) ∧
    ((∃ b ∈ Builtin.all, utf8 b.name = name) →
      sh'.children = sh.children ∧ ∀ programs', sh.executeLine programs' line = result) := by
  intro w argv result sh'
  constructor
  · intro hname
    have hfind : Builtin.find? name = none := Builtin.find?_eq_none_iff.2 hname
    obtain ⟨hsignal, -, -, hworld⟩ := executeLine_foreign programs h hline hfind
    obtain ⟨hcontinue, hcwd⟩ := Turn.ofProgram_stays programs w argv
    refine ⟨hsignal.trans (congrArg _ hcontinue), (World.cwd_eq hworld).trans hcwd,
      fun path started hstarts => ?_, executeLine_refused programs h hline hfind⟩
    obtain ⟨hchildren, hworld, htold⟩ := executeLine_started programs h hwait hline hfind hstarts
    obtain ⟨path', hinterpret⟩ := Exec.exists_interpret hstarts.accepted
    refine ⟨hchildren, fun hslash => ?_, fun hplain => Exec.interpret_plain hinterpret hplain,
      (Exec.interpret_ok hinterpret).2, World.files_eq hworld, (congrArg World.input hworld :),
      (congrArg World.environment hworld :), htold⟩
    have haccepted := hstarts.accepted
    rw [Exec.accept, if_pos hslash] at haccepted
    exact Exec.find_of_start haccepted
  · rintro ⟨b, hb, hname⟩
    obtain ⟨b', hfind⟩ := Option.ne_none_iff_exists'.1 fun hnone =>
      Builtin.find?_eq_none_iff.1 hnone b hb hname
    exact executeLine_builtin programs h hline hfind

/-- A program in `/bin` that names a file in its working directory after its arguments, a name that
differs from that of a built-in command in case only, and that command. -/
theorem executeLine_starts_bin :
    let programs : Programs := fun _ => some fun p => {
      files := p.files.place p.cwd (Builtin.joined p.argv) .null, status := .exited 7 }
    let sh : Shell := { world := { Command.namesakes with cwd := 2 } }
    let after (line : String) := (sh.executeLine programs (utf8 line)).2
    (after " true\tx ").children = [{
        file := 3, argv := [utf8 "true", utf8 "x"], cwd := 2, status := .exited 7,
        heldOutput := [], heldErrors := [] }] ∧ (after " true\tx ").err.written = [] ∧
      (after " true\tx ").world.files = sh.world.files.place 2 (utf8 "true x") .null ∧
      (after "Echo x").children = [] ∧
      (after "Echo x").err.written = utf8 "minish: Echo: command not found\n" ∧
      (after "echo x").children = [] := by
  intro programs sh after
  have hsteady : sh.Steady := steady_new _
  have htrue : Token.words (utf8 " true\tx ") = [utf8 "true", utf8 "x"] := by decide
  have hcase : Token.words (utf8 "Echo x") = [utf8 "Echo", utf8 "x"] := by decide
  have hecho : Token.words (utf8 "echo x") = [utf8 "echo", utf8 "x"] := by decide
  obtain ⟨started, haccept, hfile, hprogram⟩ : ∃ started,
      Exec.accept programs sh.world (utf8 "/bin/true") [utf8 "true", utf8 "x"] = .ok started ∧
        started.file = 3 ∧ ∀ p, started.program p = {
          files := p.files.place p.cwd (Builtin.joined p.argv) .null, status := .exited 7 } :=
    ⟨_, rfl, rfl, fun _ => rfl⟩
  have hstarts : Command.Starts programs sh.world [utf8 "true", utf8 "x"] (utf8 "/bin/true")
      started := ⟨by decide, by decide, haccept⟩
  have hmissing : Command.path? sh.world [utf8 "Echo", utf8 "x"] = none := by decide
  obtain ⟨-, -, hfound, -⟩ := (executeLine_starts programs hsteady rfl htrue).1 (by decide)
  obtain ⟨hchildren, -, hplain, -, hfiles, -, -, herr⟩ := hfound _ _ hstarts
  have hargv : started.argv = [utf8 "true", utf8 "x"] := (hplain (by rw [hfile]; decide)).2
  obtain ⟨-, -, -, hrefused⟩ := (executeLine_starts programs hsteady rfl hcase).1 (by decide)
  obtain ⟨hnone, -, reason, hrefusal, htold⟩ :=
    hrefused fun _ _ => (Command.Refusal.unknown hmissing).not_starts
  have hreason : reason = "command not found" := by
    cases hrefusal with
    | unknown => rfl
    | unfit found => rw [hmissing] at found; cases found
    | refused found => rw [hmissing] at found; cases found
  have hbuiltin := (executeLine_starts programs hsteady rfl hecho).2 ⟨.echo, by decide, rfl⟩
  refine ⟨?_, herr, ?_, hnone, ?_, hbuiltin.1⟩
  · rw [hchildren, hfile, hprogram]; rfl
  · rw [hfiles, hprogram, hargv]; rfl
  · rw [htold, hreason]; decide

end Shell

end TinyShell
