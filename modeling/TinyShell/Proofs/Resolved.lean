import TinyShell.Launch.Command

/-!
# From the path chosen to the program started

`Search.find?` chooses a path for a name, and `Exec.spawn` is given that path. A path with a
`/` is started as it is, any other is searched for again, in the directories of `PATH`. A
name found in an empty directory of a search list is such a path: `Command.spawn_direct_iff`
says when the program started is the one in the file that was chosen.
-/

namespace TinyShell

/-! ## Names and paths -/

theorem not_mem_of_mem_splitOn {b : UInt8} {text piece : Bytes} (h : piece ∈ text.splitOn b) :
    b ∉ piece := by
  induction text generalizing piece with
  | nil =>
    rw [List.splitOn_nil, List.mem_singleton] at h
    simp [h]
  | cons c text ih =>
    rw [List.splitOn_cons_eq_if_modifyHead] at h
    split at h
    · rcases List.mem_cons.1 h with rfl | h
      · simp
      · exact ih h
    · next hc =>
      obtain ⟨first, rest, hpieces⟩ := List.exists_cons_of_ne_nil (List.splitOn_ne_nil b text)
      rw [hpieces, List.modifyHead_cons] at h
      rw [hpieces] at ih
      rcases List.mem_cons.1 h with rfl | h
      · have hfirst := ih List.mem_cons_self
        have hne : c ≠ b := by simpa using hc
        exact List.not_mem_cons_of_ne_of_not_mem hne.symm hfirst
      · exact ih (List.mem_cons_of_mem _ h)

namespace Path

theorem slash_not_mem_names {path name : Bytes} (h : name ∈ names path) : slash ∉ name :=
  not_mem_of_mem_splitOn (List.mem_filter.1 h).1

/-- A relative path that is not empty has a name on it. -/
theorem names_ne_nil {path : Bytes} (h : isAbsolute path = false) (hne : path ≠ []) :
    names path ≠ [] := by
  obtain ⟨b, path, rfl⟩ := List.exists_cons_of_ne_nil hne
  have hb : b ≠ slash := by simpa [isAbsolute] using h
  obtain ⟨first, rest, hpieces⟩ := List.exists_cons_of_ne_nil (List.splitOn_ne_nil slash path)
  rw [names, List.splitOn_cons_eq_if_modifyHead, if_neg (by simpa using hb), hpieces]
  simp

theorem names_bare {name : Bytes} (h : slash ∉ name) (hne : name ≠ []) : names name = [name] := by
  simp [names, List.splitOn_eq_singleton h, hne]

theorem isAbsolute_bare {name : Bytes} (h : slash ∉ name) : isAbsolute name = false := by
  cases name with
  | nil => rfl
  | cons b name =>
    have hb : b ≠ slash := fun e => h (e ▸ List.mem_cons_self)
    simpa [isAbsolute] using hb

@[simp] theorem Component.text_ofName (name : Bytes) : (ofName name).text = name := by
  unfold ofName
  split
  · next h => exact h.symm
  · split
    · next h => exact h.symm
    · rfl

/-- Only in no directory at all does a bare name stay one. -/
theorem slash_mem_join (directory : Bytes) {name : Bytes} (h : slash ∉ name) :
    slash ∈ join directory name ↔ directory ≠ [] := by
  unfold join
  split
  · next hd =>
    simp only [Bool.or_eq_true, List.isEmpty_iff, endsWithSlash, beq_iff_eq] at hd
    rcases hd with rfl | hd
    · simp [h]
    · have hmem := List.mem_of_getLast? hd
      simp [hmem, List.ne_nil_of_mem hmem]
  · next hd =>
    have hne : directory ≠ [] := by
      rintro rfl
      simp at hd
    simp [hne]

end Path

namespace Search

variable (files : Files) (cwd : Inode)

/-- The first directory of a search path that has a program of this name. -/
def directory? (search name : Bytes) : Option Bytes :=
  (directories search).find? fun directory =>
    (examine files cwd (Path.join directory name)).any isProgram

theorem onPath_eq (search name : Bytes) :
    onPath files cwd search name = (directory? files cwd search name).map (Path.join · name) := by
  simp only [onPath, candidates, directory?, List.find?_map]
  rfl

theorem find_of_examine {files : Files} {cwd : Inode} {path : Bytes}
    (h : (examine files cwd path).isSome) : ∃ file, files.find cwd path = .ok file := by
  unfold examine at h
  split at h
  · cases h
  · split at h
    · next i hi => exact ⟨i, hi⟩
    · cases h

/-- A name with a `/` is a path, any other is searched for. -/
theorem find?_eq (search name : Bytes) :
    find? files cwd search name =
      if slash ∈ name then asPath files cwd name
      else if name = [] then none
      else onPath files cwd search name := by
  by_cases hslash : slash ∈ name
  · rw [if_pos hslash, find?]
    cases habs : Path.isAbsolute name with
    | true => rfl
    | false =>
      have hne : Path.names name ≠ [] := Path.names_ne_nil habs (List.ne_nil_of_mem hslash)
      obtain ⟨first, rest, hnames⟩ := List.exists_cons_of_ne_nil hne
      have hfirst : slash ∉ first := Path.slash_not_mem_names (hnames ▸ List.mem_cons_self)
      have htext : (Path.Component.ofName first).text ≠ name := by
        rw [Path.Component.text_ofName]
        exact fun e => hfirst (e ▸ hslash)
      simp only [Path.components, habs, hnames, List.map_cons, Bool.false_eq_true, if_false]
      split
      · contradiction
      · next h =>
        rw [List.cons.injEq] at h
        obtain ⟨rfl, -⟩ := h
        rw [if_neg htext]
      · rfl
  · rw [if_neg hslash]
    by_cases hne : name = []
    · subst hne; rfl
    · rw [if_neg hne, find?]
      simp [Path.isAbsolute_bare hslash, Path.components, Path.names_bare hslash hne]

end Search

/-! ## Starting what was chosen -/

namespace Exec

variable (programs : Programs)

/-- As `spawn`, but nothing is searched for: every path is started as it is. -/
def direct (w : World) (path : Bytes) (argv : List Bytes) : Except IoError Started :=
  if (path :: argv).any (·.contains nul) then .error .nulInArgument
  else (start programs w path argv).mapError .os

variable {programs} {w : World} {path : Bytes} {argv : List Bytes}

theorem find_of_openImage {files : Files} {cwd file : Inode} {image : Bytes}
    (h : openImage files cwd path = .ok (file, image)) : files.find cwd path = .ok file := by
  unfold openImage at h
  cases hf : files.find cwd path with
  | error e => rw [hf] at h; cases h
  | ok i =>
    simp only [hf, bind, Except.bind] at h
    split at h
    · split at h
      · cases h; rfl
      · cases h
    · cases h

theorem start_eq :
    start programs w path argv =
      match openImage w.files w.cwd path with
      | .error e => .error e
      | .ok (file, image) =>
        if fits (argv ++ w.environment.strings) then
          (interpret programs w.files w.cwd depthMax image path argv).map fun started =>
            { file, program := started.1, argv := started.2 }
        else .error .argumentsTooLong := by
  unfold start
  rcases openImage w.files w.cwd path with e | ⟨file, image⟩
  · rfl
  · cases hfits : fits (argv ++ w.environment.strings) with
    | false => simp [bind, Except.bind]; rfl
    | true =>
      simp only [bind, Except.bind]
      rcases interpret programs w.files w.cwd depthMax image path argv with e | ⟨program, args⟩ <;>
        rfl

theorem find_of_start {started : Started} (h : start programs w path argv = .ok started) :
    w.files.find w.cwd path = .ok started.file := by
  rw [start_eq] at h
  split at h
  · cases h
  · next file image ho =>
    rw [find_of_openImage ho]
    split at h
    · cases hi : interpret programs w.files w.cwd depthMax image path argv with
      | error e => rw [hi] at h; cases h
      | ok p => rw [hi] at h; cases h; rfl
    · cases h

theorem find_of_direct {started : Started} (h : direct programs w path argv = .ok started) :
    w.files.find w.cwd path = .ok started.file := by
  unfold direct at h
  split at h
  · cases h
  · cases hs : start programs w path argv with
    | error e => rw [hs] at h; cases h
    | ok s =>
      rw [hs] at h
      cases h
      exact find_of_start hs

theorem spawn_slash (h : slash ∈ path) :
    spawn programs w path argv = direct programs w path argv := by
  simp [spawn, direct, h]

theorem spawn_nul {argument : Bytes} (h : argument ∈ argv) (hnul : nul ∈ argument) :
    spawn programs w path argv = direct programs w path argv := by
  have hany : (path :: argv).any (·.contains nul) = true :=
    List.any_eq_true.2 ⟨argument, List.mem_cons_of_mem _ h, by simpa using hnul⟩
  simp only [spawn, direct, hany, if_true]

/-- The environment matters only for the room that it takes. -/
theorem start_environment {e₁ e₂ : Environment} {a b : Errno}
    (h₁ : start programs { w with environment := e₁ } path argv = .error a)
    (h₂ : start programs { w with environment := e₂ } path argv = .error b)
    (ha : a ≠ .argumentsTooLong) (hb : b ≠ .argumentsTooLong) : a = b := by
  rw [start_eq] at h₁ h₂
  simp only at h₁ h₂
  rcases ho : openImage w.files w.cwd path with e | ⟨file, image⟩
  · simp_all
  · simp only [ho] at h₁ h₂
    split at h₁
    · split at h₂
      · exact Except.error.inj (h₁.symm.trans h₂)
      · exact absurd (Except.error.inj h₂).symm hb
    · exact absurd (Except.error.inj h₁).symm ha

/-- A search path of one directory, which is this long. -/
def lengthy (n : Nat) : Environment := [(utf8 "PATH", List.replicate n 0x61)]

theorem searchPath_lengthy (n : Nat) :
    ({ w with environment := lengthy n } : World).effectiveSearchPath = List.replicate n 0x61 := by
  simp [World.effectiveSearchPath, Environment.searchPath, lengthy]

/-- A directory that is too long is left out. -/
theorem searched_lengthy (n : Nat) :
    searched (List.replicate n 0x61) =
      if directoryMax < n then [] else [List.replicate n 0x61] := by
  have hone : Search.directories (List.replicate n 0x61) = [List.replicate n 0x61] :=
    List.splitOn_eq_singleton fun h => absurd (List.eq_of_mem_replicate h) (by decide)
  by_cases hn : directoryMax < n <;> simp [searched, hone, hn]

theorem spawn_untried (hslash : slash ∉ path)
    (hnul : (path :: argv).any (·.contains nul) = false) {n : Nat} (hn : directoryMax < n) :
    spawn programs { w with environment := lengthy n } path argv = .error (.os .noEntry) := by
  have hattempts : attempts (List.replicate n 0x61) path = [] := by
    rw [attempts, searched_lengthy, if_pos hn]; rfl
  rw [spawn, hnul, searchPath_lengthy, hattempts]
  simp only [Bool.false_eq_true, if_false, List.contains_eq_mem, decide_eq_true_eq, hslash]
  rfl

/-- A directory that is almost too long leaves no room for a name. -/
theorem spawn_overlong (hslash : slash ∉ path)
    (hnul : (path :: argv).any (·.contains nul) = false) {n : Nat} (hn : n = directoryMax) :
    spawn programs { w with environment := lengthy n } path argv = .error (.os .nameTooLong) := by
  have hpos : 0 < n := by rw [hn]; decide
  have hattempts : attempts (List.replicate n 0x61) path =
      [List.replicate n 0x61 ++ slash :: path] := by
    have hne : (List.replicate n (0x61 : UInt8)).isEmpty = false := by
      cases n with
      | zero => omega
      | succ n => rfl
    rw [attempts, searched_lengthy, if_neg (by omega), List.map_singleton, hne]; rfl
  have hstart : start programs { w with environment := lengthy n }
      (List.replicate n 0x61 ++ slash :: path) argv = .error .nameTooLong := by
    have hlength : Files.pathMax ≤ (List.replicate n 0x61 ++ slash :: path).length := by
      have hmax : Files.pathMax = directoryMax + 1 := rfl
      simp only [List.length_append, List.length_replicate, List.length_cons]
      omega
    have hfind : w.files.find w.cwd (List.replicate n 0x61 ++ slash :: path) =
        .error .nameTooLong := by
      rw [Files.find, Files.checkPath, if_neg (by simp), if_pos hlength]; rfl
    rw [start_eq, openImage, hfind]; rfl
  rw [spawn, hnul, searchPath_lengthy, hattempts]
  simp only [Bool.false_eq_true, if_false, List.contains_eq_mem, decide_eq_true_eq, hslash,
    startFirst, hstart]
  rfl

/-- What is started for a bare name is up to the environment. -/
theorem exists_spawn_ne_direct (programs : Programs) (w : World) (hslash : slash ∉ path)
    (hnul : (path :: argv).any (·.contains nul) = false) :
    ∃ environment, spawn programs { w with environment } path argv ≠
      direct programs { w with environment } path argv := by
  refine Classical.not_forall.1 fun hall => ?_
  have hstart (n : Nat) (e : Errno)
      (h : spawn programs { w with environment := lengthy n } path argv = .error (.os e)) :
      start programs { w with environment := lengthy n } path argv = .error e := by
    rw [hall, direct, hnul] at h
    cases hs : start programs { w with environment := lengthy n } path argv with
    | error e' => rw [hs] at h; cases h; rfl
    | ok started => rw [hs] at h; cases h
  have h₁ := hstart _ _ (spawn_untried hslash hnul (Nat.lt_succ_self directoryMax))
  have h₂ := hstart _ _ (spawn_overlong hslash hnul rfl)
  exact absurd (start_environment h₁ h₂ (by decide) (by decide)) (by decide)

end Exec

namespace Command

/-- As `spawn`, but it is the file on the path of the command that is started. -/
def direct (programs : Programs) (w : World) (c : Command) : Except LaunchError Started :=
  (Exec.direct programs w c.program c.argv).mapError (.io (Utf8.lossy (nameOf c.argv)))

variable {w : World} {search : Bytes} {argv : List Bytes} {c : Command}

/-- How a command came to be resolved. -/
theorem resolve_cases (h : resolve w search argv = .ok c) :
    c.argv = argv ∧ nameOf argv ∈ argv ∧ (Search.examine w.files w.cwd c.program).isSome ∧
      ((slash ∈ nameOf argv ∧ c.program = nameOf argv) ∨
        (slash ∉ nameOf argv ∧ ∃ directory, c.program = Path.join directory (nameOf argv) ∧
          Search.directory? w.files w.cwd search (nameOf argv) = some directory)) := by
  unfold resolve at h
  split at h
  · next program hfound =>
    cases h
    have hmem : nameOf argv ∈ argv := by
      cases argv with
      | nil => simp [nameOf, Search.find?_eq] at hfound
      | cons name args => exact List.mem_cons_self
    refine ⟨rfl, hmem, ?_⟩
    rw [Search.find?_eq] at hfound
    split at hfound
    · next hslash =>
      simp only [Search.asPath] at hfound
      split at hfound
      · next hsome =>
        cases hfound
        exact ⟨hsome, .inl ⟨hslash, rfl⟩⟩
      · cases hfound
    · next hslash =>
      split at hfound
      · cases hfound
      · rw [Search.onPath_eq] at hfound
        obtain ⟨directory, hd, rfl⟩ := Option.map_eq_some_iff.1 hfound
        have hprogram := List.find?_some hd
        refine ⟨?_, .inr ⟨hslash, directory, rfl, hd⟩⟩
        obtain ⟨hsome, -⟩ := (Option.any_eq_true_iff_get _ _).1 hprogram
        exact hsome
  · cases h

theorem slash_mem_program (h : resolve w search argv = .ok c) :
    slash ∈ c.program ↔
      slash ∈ nameOf argv ∨ Search.directory? w.files w.cwd search (nameOf argv) ≠ some [] := by
  obtain ⟨-, -, -, ⟨hslash, hprogram⟩ | ⟨hslash, directory, hprogram, hd⟩⟩ := resolve_cases h
  · simp [hprogram, hslash]
  · rw [hprogram, hd, Path.slash_mem_join directory hslash]
    simp [hslash]

theorem program_bare (h : resolve w search argv = .ok c) (hslash : slash ∉ c.program) :
    c.program = nameOf argv := by
  obtain ⟨-, -, -, ⟨-, hprogram⟩ | ⟨hname, directory, hprogram, -⟩⟩ := resolve_cases h
  · exact hprogram
  · rw [hprogram, Path.slash_mem_join directory hname] at hslash
    rw [hprogram, Decidable.not_not.1 hslash]; rfl

theorem mapError_io_inj {name : String} {x y : Except IoError Started}
    (h : x.mapError (.io name) = y.mapError (LaunchError.io name)) : x = y := by
  cases x <;> cases y <;> cases h <;> rfl

/-- Whatever `PATH` is, the file on the path that was chosen is the one that is started, or
the one that cannot be: just when the path is more than a name, or nothing can be started. -/
theorem spawn_direct_iff (programs : Programs) (h : resolve w search argv = .ok c) :
    (∃ file, w.files.find w.cwd c.program = .ok file ∧ ∀ environment started,
      c.direct programs { w with environment } = .ok started → started.file = file) ∧
    ((∀ environment, c.spawn programs { w with environment } =
        c.direct programs { w with environment }) ↔
      slash ∈ nameOf argv ∨ Search.directory? w.files w.cwd search (nameOf argv) ≠ some [] ∨
        ∃ argument ∈ argv, nul ∈ argument) := by
  have hpath := slash_mem_program h
  obtain ⟨rfl, hmem, hsome, hcase⟩ := resolve_cases h
  obtain ⟨file, hfile⟩ := Search.find_of_examine hsome
  refine ⟨⟨file, hfile, fun environment started hstarted => ?_⟩, fun hall => ?_, ?_⟩
  · cases hd : Exec.direct programs { w with environment } c.program c.argv with
    | error e => rw [direct, hd] at hstarted; cases hstarted
    | ok s =>
      rw [direct, hd] at hstarted
      cases hstarted
      exact Except.ok.inj ((Exec.find_of_direct hd).symm.trans hfile)
  · rw [← or_assoc, ← hpath]
    by_cases hslash : slash ∈ c.program
    · exact .inl hslash
    · refine .inr (Classical.byContradiction fun hnul => ?_)
      have hargv : c.program ∈ c.argv := by rwa [program_bare h hslash]
      have hany : (c.program :: c.argv).any (·.contains nul) = false := by
        have hnone : ∀ argument ∈ c.argv, ¬ argument.contains nul := fun argument hm hn =>
          hnul ⟨argument, hm, by simpa using hn⟩
        exact List.any_eq_false.2 (List.forall_mem_cons.2 ⟨hnone _ hargv, hnone⟩)
      obtain ⟨environment, hne⟩ := Exec.exists_spawn_ne_direct programs w hslash hany
      exact hne (mapError_io_inj (hall environment))
  · rw [← or_assoc, ← hpath]
    rintro (hslash | ⟨argument, hargument, hnul⟩) environment
    · rw [spawn, direct, Exec.spawn_slash hslash]
    · rw [spawn, direct, Exec.spawn_nul hargument hnul]

/-- Two programs of one name, in the working directory and in `/bin`. -/
def namesakes : World where
  files := ⟨#[
    .directory {
      mode := 0o755, parent := 0, name := []
      entries := [(utf8 "true", 1), (utf8 "bin", 2)] },
    .file 0o755 (utf8 "here"),
    .directory { mode := 0o755, parent := 0, name := utf8 "bin", entries := [(utf8 "true", 3)] },
    .file 0o755 (utf8 "there")]⟩
  cwd := 0
  environment := [(utf8 "PATH", utf8 "/bin")]

/-- Found in the working directory, through an empty directory of the search list, and
started in `/bin`. -/
theorem spawn_namesake :
    let programs : Programs := fun _ => some fun p => { files := p.files, status := .exited 0 }
    let c : Command := { program := utf8 "true", argv := [utf8 "true"] }
    resolve namesakes [] [utf8 "true"] = .ok c ∧
      namesakes.files.find namesakes.cwd c.program = .ok 1 ∧
      (c.spawn programs namesakes).map (·.file) = .ok 3 :=
  ⟨rfl, rfl, rfl⟩

theorem spawn_direct_iff_bin :
    let programs : Programs := fun _ => some fun p => { files := p.files, status := .exited 0 }
    let c : Command := { program := utf8 "/bin/true", argv := [utf8 "true"] }
    resolve namesakes (utf8 "/bin") [utf8 "true"] = .ok c ∧
      ∀ environment, c.spawn programs { namesakes with environment } =
        c.direct programs { namesakes with environment } := by
  intro programs c
  have h : resolve namesakes (utf8 "/bin") [utf8 "true"] = .ok c := rfl
  exact ⟨h, (spawn_direct_iff programs h).2.2 (.inr (.inl (by decide)))⟩

end Command

end TinyShell
