import TinyShell.Proofs.Reliable
import TinyShell.Proofs.Vacancy

/-!
# What built-in commands change

Two of the built-in commands leave something behind in the world: `mkdir` an empty directory,
`cd` another working directory. `Builtin.Frame` says so, for a command that succeeds and for one
that fails; `Builtin.execute_frame` is that it holds whatever the writers do.
-/

namespace TinyShell

namespace Files

theorem enter_ok {files : Files} {cwd i : Inode} {path : Bytes}
    (h : files.enter cwd path = .ok i) :
    files.find cwd path = .ok i ∧ (files.directory? i).isSome := by
  simp only [enter, bind, Except.bind] at h
  split at h
  · cases h
  · split at h
    · next hd =>
      split at h
      · cases h; exact ⟨‹_›, by rw [hd]; rfl⟩
      · cases h
    · cases h

/-- `files'` is `files` with an empty directory at `path`, which takes over the set-group-ID bit
of the one it is in. -/
def Makes (files : Files) (cwd : Inode) (path : Bytes) (files' : Files) : Prop :=
  ∃ base name parent d, Path.Cut path base name ∧ files.Leads cwd base parent ∧
    files.directory? parent = some d ∧
    files.Gains files' parent name (.directory {
      mode := 0o755 ||| (d.mode &&& 0o2000), parent, name, entries := [], removed := false })

end Files

namespace Builtin

/-- What may differ between the worlds before and after a built-in command. What arrives on the
descriptors is left out of account. -/
structure Frame (b : Builtin) (argv : List Bytes) (w w' : World) (succeeds : Prop) : Prop where
  failed : ¬ succeeds → w'.files = w.files ∧ w'.cwd = w.cwd
  files : b ≠ .mkdir → w'.files = w.files
  cwd : b ≠ .cd → w'.cwd = w.cwd
  made : b = .mkdir → succeeds → ∃ path, argv[1]? = some path ∧ w.files.Makes w.cwd path w'.files
  moved : b = .cd → succeeds → ∃ target, argv[1]? = some target ∧
    w.files.find w.cwd target = .ok w'.cwd ∧ (w.files.directory? w'.cwd).isSome
  rest : w'.hushed = { w with files := w'.files, cwd := w'.cwd }.hushed

namespace Frame

variable {b : Builtin} {argv : List Bytes} {w w₁ w₂ : World} {succeeds : Prop}

theorem still (w : World) (h : succeeds → b ≠ .mkdir ∧ b ≠ .cd) : b.Frame argv w w succeeds where
  failed _ := ⟨rfl, rfl⟩
  files _ := rfl
  cwd _ := rfl
  made hb hs := absurd hb (h hs).1
  moved hb hs := absurd hb (h hs).2
  rest := rfl

theorem complained (w : World) (out : Writer) (c : Complaint) :
    b.Frame argv w (complain w out c).world
      (∃ signal, (complain w out c).outcome = .ok signal) :=
  still w fun ⟨_, h⟩ => by cases h

theorem of_hushed (h : b.Frame argv w w₁ succeeds) (hw : w₂.hushed = w₁.hushed) :
    b.Frame argv w w₂ succeeds := by
  rw [World.eq_heard hw]
  exact ⟨h.failed, h.files, h.cwd, h.made, h.moved, h.rest⟩

end Frame

variable {w w' : World} {path target : Bytes}

theorem makeDirectory_ok (h : makeDirectory w path = .ok w') :
    w' = { w with files := w'.files } ∧ w.files.Makes w.cwd path w'.files := by
  unfold makeDirectory at h
  split at h
  · cases h
  · split at h
    · next hfiles =>
      cases h
      exact ⟨rfl, Files.makeDirectory_gains hfiles⟩
    · cases h

theorem changeDirectory_ok (h : changeDirectory w target = .ok w') :
    w' = { w with cwd := w'.cwd } ∧ w.files.find w.cwd target = .ok w'.cwd ∧
      (w.files.directory? w'.cwd).isSome := by
  unfold changeDirectory at h
  split at h
  · cases h
  · split at h
    · next henter =>
      cases h
      exact ⟨rfl, Files.enter_ok henter⟩
    · cases h

theorem frame_makeDirectory (argv : List Bytes) (w : World) (out : Writer) :
    let result := mkdir.execute argv w out
    mkdir.Frame argv w result.world (∃ signal, result.outcome = .ok signal) := by
  rcases argv with _ | ⟨name, _ | ⟨path, args⟩⟩
  · exact .complained w out _
  · exact .complained w out _
  · cases h : makeDirectory w path with
    | error e =>
      simp only [execute, withArgument, h]
      exact .complained w out _
    | ok world =>
      obtain ⟨hworld, hmakes⟩ := makeDirectory_ok h
      simp only [execute, withArgument, h]
      exact {
        failed := fun hfails => absurd ⟨_, rfl⟩ hfails
        files := fun h => absurd rfl h
        cwd := fun _ => by rw [hworld]
        made := fun _ _ => ⟨path, rfl, hmakes⟩
        moved := fun h => by cases h
        rest := by rw [hworld] }

theorem frame_changeDirectory (argv : List Bytes) (w : World) (out : Writer) :
    let result := cd.execute argv w out
    cd.Frame argv w result.world (∃ signal, result.outcome = .ok signal) := by
  rcases argv with _ | ⟨name, _ | ⟨target, args⟩⟩
  · exact .complained w out _
  · exact .complained w out _
  · cases h : changeDirectory w target with
    | error e =>
      simp only [execute, withArgument, h]
      exact .complained w out _
    | ok world =>
      obtain ⟨hworld, hfind⟩ := changeDirectory_ok h
      simp only [execute, withArgument, h]
      exact {
        failed := fun hfails => absurd ⟨_, rfl⟩ hfails
        files := fun _ => by rw [hworld]
        cwd := fun h => absurd rfl h
        made := fun h => by cases h
        moved := fun _ _ => ⟨target, rfl, hfind⟩
        rest := by rw [hworld] }

theorem frame_execute (b : Builtin) (argv : List Bytes) (w : World) (out : Writer) :
    let result := b.execute argv w out
    b.Frame argv w result.world (∃ signal, result.outcome = .ok signal) := by
  cases b with
  | mkdir => exact frame_makeDirectory argv w out
  | cd => exact frame_changeDirectory argv w out
  | echo => exact .still w fun _ => by decide
  | help => exact .still w fun _ => by decide
  | exit => exact .still w fun _ => by decide
  | pwd => simp only [execute]; split <;> exact .still w fun _ => by decide
  | ls => simp only [execute]; split <;> exact .still w fun _ => by decide

end Builtin

/-! ## Through the shell -/

namespace Shell

variable (sh : Shell)

@[simp] theorem hushed_carryOn (text : String) :
    (sh.carryOn text).2.world.hushed = sh.world.hushed := by
  unfold carryOn report flushErr
  rcases sh.err.writeAll (diagnosticPieces text) with ⟨_ | _, err⟩
  · rfl
  · rcases h : err.flush with ⟨_ | _, _⟩ <;> simp [h]

/-- Writers and logs have no say in what a built-in command does to the world. -/
theorem hushed_execute (programs : Programs) {name : Bytes} (args : List Bytes) {b : Builtin}
    (hname : Builtin.find? name = some b) :
    (sh.execute programs (name :: args)).2.world.hushed =
      (b.execute (name :: args) sh.world sh.out).world.hushed := by
  have hworld : (sh.emit (.runningBuiltin name)).world =
    sh.world.heard sh.world.output (sh.world.errors ++ sh.log (.runningBuiltin name)) := rfl
  simp only [execute, hname, runBuiltin, hworld, b.execute_heard]
  split
  · exact hushed_emitAll _ _
  · exact (hushed_carryOn _ _).trans (hushed_emitAll _ _)

theorem hushed_executeLine (programs : Programs) {line name : Bytes} {args : List Bytes}
    (hline : Token.words line = name :: args) {b : Builtin} (hname : Builtin.find? name = some b) :
    (sh.executeLine programs line).2.world.hushed =
      (b.execute (name :: args) sh.world sh.out).world.hushed := by
  have hworld := World.eq_heard (hushed_emitAll sh (Token.split line).events)
  rw [executeLine, Token.split_tokens, hline, hushed_execute _ _ _ hname, hworld, emitAll_out,
    b.execute_heard, World.hushed_heard]

end Shell

namespace Builtin

/-- `cd` and `mkdir` look at their first argument only. -/
theorem execute_first {b : Builtin} (hb : b = .mkdir ∨ b = .cd) (name argument : Bytes)
    (args : List Bytes) (w : World) (out : Writer) :
    b.execute (name :: argument :: args) w out = b.execute [name, argument] w out := by
  rcases hb with rfl | rfl <;> rfl

/-- Only `mkdir` changes the tree and only `cd` the working directory, each if it succeeds, and
they look at one argument. It is the same whether the shell runs the command or somebody else,
with whatever writers. -/
theorem execute_frame (programs : Programs) (b : Builtin) (argv : List Bytes) :
    (∀ (w : World) (out : Writer), b.Frame argv w (b.execute argv w out).world
      (∃ signal, (b.execute argv w out).outcome = .ok signal)) ∧
    (∀ (sh : Shell) (line name : Bytes), Token.words line = argv → argv.head? = some name →
      find? name = some b →
      b.Frame argv sh.world (sh.executeLine programs line).2.world
        (∃ signal, (b.execute argv sh.world sh.out).outcome = .ok signal)) ∧
    (b = .mkdir ∨ b = .cd → ∀ name argument args, argv = name :: argument :: args →
      (∀ w out, b.execute argv w out = b.execute [name, argument] w out) ∧
      (find? name = some b → ∀ sh : Shell,
        sh.execute programs argv = sh.execute programs [name, argument])) := by
  refine ⟨b.frame_execute argv, fun sh line name hline hhead hname => ?_, ?_⟩
  · obtain ⟨args, rfl⟩ := List.head?_eq_some_iff.1 hhead
    exact (b.frame_execute _ sh.world sh.out).of_hushed
      (sh.hushed_executeLine programs hline hname)
  · rintro hb name argument args rfl
    refine ⟨execute_first hb name argument args, fun hname sh => ?_⟩
    simp only [Shell.execute, hname, Shell.runBuiltin, execute_first hb name argument args]

/-- In a shell whose writers take nothing. -/
theorem execute_frame_mkdir :
    let sh : Shell := {
      world := {
        files := ⟨#[
          .directory { mode := 0o755, parent := 0, name := [], entries := [(utf8 "a", 1)] },
          .directory { mode := 0o700, parent := 0, name := utf8 "a" }]⟩
        cwd := 0, environment := [] }
      out := { policy := .limited 0 .notUtf8 }, err := { policy := .limited 0 .notUtf8 } }
    let after (line : String) := (sh.executeLine (fun _ => none) (utf8 line)).2.world
    (sh.world.files.Makes 0 (utf8 "a//b/") (after "mkdir a//b/ c").files ∧
      (after "mkdir a//b/ c").cwd = 0) ∧
    sh.execute (fun _ => none) [utf8 "mkdir", utf8 "a//b/", utf8 "c"] =
      sh.execute (fun _ => none) [utf8 "mkdir", utf8 "a//b/"] ∧
    sh.world.files.find 0 (utf8 "a") = .ok (after " cd\ta").cwd ∧
    (after "mkdir").files = sh.world.files := by
  intro sh after
  have hmkdir : find? (utf8 "mkdir") = some .mkdir := by decide
  have hcd : find? (utf8 "cd") = some .cd := by decide
  obtain ⟨-, hthrough, hfirst⟩ :=
    execute_frame (fun _ => none) .mkdir [utf8 "mkdir", utf8 "a//b/", utf8 "c"]
  have hmade := hthrough sh (utf8 "mkdir a//b/ c") _ (by decide) rfl hmkdir
  obtain ⟨path, hpath, hmakes⟩ := hmade.made rfl ⟨.continue, rfl⟩
  cases hpath
  have hmoved := (execute_frame (fun _ => none) .cd [utf8 "cd", utf8 "a"]).2.1
    sh (utf8 " cd\ta") _ (by decide) rfl hcd
  obtain ⟨target, htarget, hfind, -⟩ := hmoved.moved rfl ⟨.continue, rfl⟩
  cases htarget
  have hmissing := (execute_frame (fun _ => none) .mkdir [utf8 "mkdir"]).2.1
    sh (utf8 "mkdir") _ (by decide) rfl hmkdir
  exact ⟨⟨hmakes, hmade.cwd (by decide)⟩, (hfirst (.inl rfl) _ _ _ rfl).2 hmkdir sh, hfind,
    (hmissing.failed fun ⟨_, h⟩ => by cases h).1⟩

end Builtin

end TinyShell
