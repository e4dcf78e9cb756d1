import TinyShell.Proofs.Ancestry
import TinyShell.Proofs.Turn

/-!
# A directory just made

What the commands make of a directory once `mkdir` has made it in the working directory: `mkdir`
finds the name taken, `ls` shows it, `cd` goes there and back, and `pwd` says where that is
(`Builtin.mkdir_settled`). A name without a slash is an entry of the working directory, and all of
them look it up there (`Directory.Consults`).
-/

namespace TinyShell

/-- A lookup of `name` in the directory gets as far as its entries. -/
structure Directory.Consults (d : Directory) (name : Bytes) : Prop where
  searched : d.permits .execute = true
  stands : d.removed = false
  named : name ≠ []
  bare : slash ∉ name
  proper : name ≠ Path.dot ∧ name ≠ Path.dotDot
  short : name.length ≤ Files.nameMax

/-- What is in the directory has no say in it. -/
theorem Directory.Consults.of_entries {d : Directory} {name : Bytes} (h : d.Consults name)
    (entries : List (Bytes × Inode)) : { d with entries }.Consults name :=
  ⟨h.searched, h.stands, h.named, h.bare, h.proper, h.short⟩

namespace Path

theorem steps_bare {name : Bytes} (h : slash ∉ name) (hne : name ≠ []) : steps name = [name] := by
  have hend : endsWithSlash name = false := by
    simpa [endsWithSlash] using fun hlast => h (List.mem_of_getLast? hlast)
  simp [steps, hend, names_bare h hne]

end Path

namespace Files

variable {files : Files} {cwd i : Inode} {name : Bytes} {d c : Directory}

theorem checkPath_short (hne : name ≠ []) (hshort : name.length ≤ nameMax) :
    checkPath name = .ok () := by
  refine checkPath_eq_ok_iff.2 ⟨hne, ?_⟩
  simp only [nameMax, pathMax] at hshort ⊢
  omega

theorem findParent_bare (hne : name ≠ []) (hbare : slash ∉ name)
    (hcheck : checkPath name = .ok ()) : files.findParent cwd name =
      match files.directory? cwd with
      | none => .error .notDirectory
      | some d => if d.permits .execute then .ok (cwd, some name) else .error .access := by
  have hwalk : files.walk true linkMax (origin cwd name) (Path.names name).dropLast = .ok cwd := by
    rw [Path.names_bare hbare hne, origin, Path.isAbsolute_bare hbare]
    simp [walk, descend]
  simp only [findParent, hcheck, hwalk, bind, Except.bind]
  cases files.directory? cwd with
  | none => rfl
  | some d => cases hx : d.permits .execute <;> simp [hx, Path.names_bare hbare hne] <;> rfl

/-- Where a name without a slash goes, and what it takes that it can go there. -/
theorem vacancy_bare {parent : Inode} {last : Bytes}
    (h : files.vacancy cwd name true = .ok (parent, last)) (hbare : slash ∉ name) :
    parent = cwd ∧ last = name ∧ ∃ d, files.directory? cwd = some d ∧ d.Consults name ∧
      d.lookup name = none := by
  obtain ⟨hparent, d, hd, hstands, hfree⟩ := vacancy_ok h
  obtain ⟨hcheck, -⟩ := findParent_ok hparent
  have hne := (checkPath_eq_ok_iff.1 hcheck).1
  have hfound := hparent
  rw [findParent_bare hne hbare hcheck] at hfound
  split at hfound
  · cases hfound
  next d₀ hd₀ =>
  split at hfound
  · next hsearched =>
    cases hfound
    obtain rfl := Option.some.inj (hd₀.symm.trans hd)
    rw [vacancy_eq hparent hd] at h
    split_ifs at h with hproper _ hlong
    have hconsults : d₀.Consults name :=
      ⟨hsearched, hstands, hne, hbare, not_or.1 hproper, Nat.not_lt.1 hlong⟩
    exact ⟨rfl, rfl, d₀, hd, hconsults, hfree⟩
  · cases hfound

theorem vacancy_taken (hd : files.directory? cwd = some d) (h : d.Consults name)
    (htaken : d.lookup name ≠ none) : files.vacancy cwd name true = .error .present := by
  have hparent : files.findParent cwd name = .ok (cwd, some name) := by
    rw [findParent_bare h.named h.bare (checkPath_short h.named h.short), hd]
    simp [h.searched]
  rw [vacancy_eq hparent hd, if_neg (not_or.2 h.proper), if_neg (by simp [h.stands]),
    if_neg (Nat.not_lt.2 h.short), if_pos (Option.isSome_iff_ne_none.2 htaken)]

theorem find_entry (hd : files.directory? cwd = some d) (h : d.Consults name)
    (hentry : d.lookup name = some i) (hc : files.directory? i = some c) :
    files.find cwd name = .ok i := by
  have hdescend : files.descend true cwd [name] = .arrived i := by
    simp [descend, hd, h.named, h.searched, h.proper, h.stands, Nat.not_lt.2 h.short, hentry,
      directory?_eq_some_iff.1 hc]
  rw [find, checkPath_short h.named h.short, origin, Path.isAbsolute_bare h.bare,
    Path.steps_bare h.bare h.named]
  simp [bind, Except.bind, walk, hdescend]

theorem enter_of_find {path : Bytes} (h : files.find cwd path = .ok i)
    (hc : files.directory? i = some c) (hsearched : c.permits .execute = true) :
    files.enter cwd path = .ok i := by
  simp only [enter, h, bind, Except.bind, hc, hsearched]
  rfl

theorem find_dotDot (hc : files.directory? i = some c) (hsearched : c.permits .execute = true) :
    files.find i Path.dotDot = .ok c.parent := by
  have hdescend : files.descend true i [Path.dotDot] = .arrived c.parent := by
    have hne : Path.dotDot ≠ Path.dot := by decide
    have hnil : Path.dotDot ≠ [] := by decide
    simp [descend, hc, hsearched, hne, hnil]
  have hsteps : Path.steps Path.dotDot = [Path.dotDot] :=
    Path.steps_bare (by decide) (by decide)
  have hcheck : checkPath Path.dotDot = .ok () := checkPath_short (by decide) (by decide)
  have horigin : origin i Path.dotDot = i := rfl
  rw [find, hcheck, horigin, hsteps]
  simp [bind, Except.bind, walk, hdescend]

/-- The names of what is in a directory. -/
def namesIn (files : Files) (i : Inode) : List Bytes :=
  (files.directory? i).elim [] fun d => d.entries.map (·.1)

theorem namesIn_eq (hd : files.directory? i = some d) :
    files.namesIn i = d.entries.map (·.1) := by
  rw [namesIn, hd]
  rfl

end Files

theorem Permission.isGranted_or {p : Permission} {mode : Nat} (h : p.isGranted mode = true)
    (more : Nat) : p.isGranted (mode ||| more) = true := by
  simp only [isGranted, bne_iff_ne, ne_eq, Nat.and_or_distrib_right, Nat.or_eq_zero_iff] at h ⊢
  exact fun hzero => h hzero.1

namespace Builtin

variable {w w' : World} {name : Bytes}

/-- With an output that works, the command says this and does nothing else. -/
def Prints (b : Builtin) (w : World) (text : Bytes) : Prop :=
  ∀ (argv : List Bytes) (out : Writer), out.policy = .reliable → ∃ calls,
    b.execute argv w out = { outcome := .ok .continue, world := w, out := out.taking calls text }

/-- The command goes well with this argument, has nothing to say and leads to this world. -/
def Succeeds (b : Builtin) (argument : Bytes) (w w' : World) : Prop :=
  ∀ (name : Bytes) (args : List Bytes) (out : Writer), ∃ events,
    b.execute (name :: argument :: args) w out =
      { outcome := .ok .continue, events, world := w', out }

/-- What `ls` says of a directory with these names in it. -/
def shown (names : List Bytes) : Bytes :=
  utf8 ".\n..\n" ++ names.flatMap fun name => utf8 (Utf8.lossy name) ++ [newline]

/-- What `pwd` says where the path is this one. -/
def located (path : Bytes) : Bytes :=
  utf8 "Current working dir: " ++ utf8 (Utf8.lossy path) ++ [newline]

theorem flatten_listing (d : Directory) : (listing d).flatten = shown (d.entries.map (·.1)) := by
  have hentries (entries : List (Bytes × Inode)) :
      (entries.flatMap fun entry => [utf8 (Utf8.lossy entry.1), [newline]]).flatten =
        (entries.map (·.1)).flatMap fun name => utf8 (Utf8.lossy name) ++ [newline] := by
    induction entries with
    | nil => rfl
    | cons entry entries ih => simp [ih]
  simp only [listing, shown, List.flatten_append, hentries]
  rfl

theorem prints_ls {d : Directory} (hd : w.files.directory? w.cwd = some d)
    (hsearched : d.permits .execute = true) (hread : d.permits .read = true) :
    ls.Prints w (shown (w.files.namesIn w.cwd)) := by
  intro argv out hout
  have hlist : w.files.list w.cwd = .ok d := by
    simp [Files.list, hd, hsearched, hread]
    rfl
  refine ⟨(listing d).length, ?_⟩
  rw [Files.namesIn_eq hd, ← flatten_listing]
  simp only [execute, hlist]
  exact print_reliable w hout (listing d)

theorem prints_pwd {path : Bytes} (h : w.workingDirectory = some path) :
    pwd.Prints w (located path) := by
  intro argv out hout
  refine ⟨3, ?_⟩
  simp only [execute, h]
  rw [print_reliable w hout]
  simp [located]

theorem succeeds_cd {target : Bytes} {i : Inode} (hnul : nul ∉ target)
    (h : w.files.enter w.cwd target = .ok i) : cd.Succeeds target w { w with cwd := i } := by
  intro name args out
  have hchange : changeDirectory w target = .ok { w with cwd := i } := by
    simp [changeDirectory, hnul, h]
  exact ⟨[.changedDirectory target], by simp only [execute, withArgument, hchange]⟩

theorem makeDirectory_taken {d : Directory} (hnul : nul ∉ name)
    (hd : w.files.directory? w.cwd = some d) (h : d.Consults name)
    (htaken : d.lookup name ≠ none) : makeDirectory w name = .error (.os .present) := by
  have hvacancy := Files.vacancy_taken hd h htaken
  simp [makeDirectory, hnul, Files.makeDirectory, hvacancy, bind, Except.bind]

theorem execute_mkdir_ok {out : Writer}
    (h : (mkdir.execute [utf8 "mkdir", name] w out).outcome = .ok .continue) :
    makeDirectory w name = .ok (mkdir.execute [utf8 "mkdir", name] w out).world := by
  cases hmake : makeDirectory w name with
  | ok w' => simp only [execute, withArgument, hmake]
  | error e => simp [execute, withArgument, hmake, complain] at h

theorem makeDirectory_bare (h : makeDirectory w name = .ok w') (hbare : slash ∉ name) :
    nul ∉ name ∧ w' = { w with files := w'.files } ∧
      ∃ d, w.files.directory? w.cwd = some d ∧ d.Consults name ∧ d.lookup name = none ∧
        w.files.Gains w'.files w.cwd name (.directory {
          mode := directoryMode ||| (d.mode &&& Files.inherited), parent := w.cwd, name }) := by
  unfold makeDirectory at h
  split at h
  · cases h
  next hnul =>
  split at h
  · next files hfiles =>
    cases h
    obtain ⟨parent, last, d, hplace, hd, hgains⟩ := Files.makeDirectory_ok hfiles
    obtain ⟨rfl, rfl, d', hd', hconsults, hfree⟩ := Files.vacancy_bare hplace hbare
    obtain rfl := Option.some.inj (hd.symm.trans hd')
    exact ⟨by simpa using hnul, rfl, d, hd, hconsults, hfree, hgains⟩
  · cases h

/-- What the commands make of the directory `name` in `w'`, where `mkdir` has just made it in the
working directory of `w`. -/
structure Settled (w : World) (name : Bytes) (w' : World) : Prop where
  world : w' = { w with files := w'.files }
  rooted : w'.files.IsRooted
  /-- Nothing is changed in the tree but for the new entry. -/
  gains : ∃ node, w.files.Gains w'.files w.cwd name node
  entry : name ∉ w.files.namesIn w.cwd ∧
    (w'.files.namesIn w.cwd).Perm (name :: w.files.namesIn w.cwd)
  taken : ∃ complaint : Complaint,
    complaint.chain = ["mkdir: " ++ Utf8.lossy name, "File exists (os error 17)"] ∧
    ∀ command args out, mkdir.execute (command :: name :: args) w' out = complain w' out complaint
  listed : ∀ d ∈ w.files.directory? w.cwd, d.permits .read = true → ∃ before after,
    before.Perm (w.files.namesIn w.cwd) ∧ after.Perm (w'.files.namesIn w.cwd) ∧
      after.Perm (name :: before) ∧ ls.Prints w (shown before) ∧ ls.Prints w' (shown after)
  entered : ∃ path inside, w.workingDirectory = some path ∧ pwd.Prints w (located path) ∧
    inside = { w' with cwd := inside.cwd } ∧ cd.Succeeds name w' inside ∧
      pwd.Prints inside (located (path ++ slash :: name)) ∧ ls.Prints inside (shown []) ∧
      cd.Succeeds (utf8 "..") inside w'

/-- In a working directory that is not the root, all commands agree about a directory that was just
made there, whatever bytes its name is made of. -/
theorem mkdir_settled (hrooted : w.files.IsRooted) (hroot : w.cwd ≠ Files.root)
    (hbare : slash ∉ name) {out : Writer}
    (hmade : (mkdir.execute [utf8 "mkdir", name] w out).outcome = .ok .continue) :
    Settled w name (mkdir.execute [utf8 "mkdir", name] w out).world := by
  have hmake := execute_mkdir_ok hmade
  generalize (mkdir.execute [utf8 "mkdir", name] w out).world = w' at hmake
  obtain ⟨hnul, hfiles, d, hd, hconsults, hfree, hgains⟩ := makeDirectory_bare hmake hbare
  have hcwd : w'.cwd = w.cwd := by rw [hfiles]
  -- The working directory and the new one, as they are now.
  let home : Directory := { d with entries := (name, w.files.nodes.size) :: d.entries }
  let fresh : Directory :=
    { mode := directoryMode ||| (d.mode &&& Files.inherited), parent := w.cwd, name }
  have hhome : w'.files.directory? w'.cwd = some home := by
    rw [hcwd]
    exact hgains.holder_directory? hd
  have hfresh : w'.files.directory? w.files.nodes.size = some fresh :=
    Files.directory?_eq_some_iff.2 hgains.made
  have hconsults' : home.Consults name := hconsults.of_entries _
  have hlookup : home.lookup name = some w.files.nodes.size := by simp [home, Directory.lookup]
  have hnames' : w'.files.namesIn w.cwd = name :: w.files.namesIn w.cwd := by
    rw [← hcwd, Files.namesIn_eq hhome, hcwd, Files.namesIn_eq hd]
    rfl
  have hgranted {p : Permission} (hp : p.isGranted directoryMode = true) :
      fresh.permits p = true := Permission.isGranted_or hp _
  refine ⟨hfiles, hgains.isRooted hrooted hd hconsults.stands, ⟨_, hgains⟩, ⟨?_, ?_⟩, ?_,
    fun d₀ hd₀ hread => ?_, ?_⟩
  · rw [Files.namesIn_eq hd]
    exact Directory.lookup_eq_none_iff.1 hfree
  · rw [hnames']
  · have htaken := makeDirectory_taken hnul hhome hconsults' (by simp [hlookup])
    exact ⟨.makeDirectory name (.os .present), rfl, fun command args out => by
      simp only [execute, withArgument, htaken]⟩
  · obtain rfl := Option.some.inj (hd.symm.trans hd₀)
    refine ⟨_, _, .refl _, .refl _, by rw [hnames'], prints_ls hd hconsults.searched hread, ?_⟩
    have hls := prints_ls hhome hconsults'.searched hread
    rwa [hcwd] at hls
  · obtain ⟨path, hpath⟩ := hrooted.exists_pathOf hd hconsults.stands
    let inside : World := { w' with cwd := w.files.nodes.size }
    have hpath' : inside.workingDirectory = some (path ++ slash :: name) :=
      hgains.pathOf hroot hpath
    have henter : w'.files.enter w'.cwd name = .ok w.files.nodes.size :=
      Files.enter_of_find (Files.find_entry hhome hconsults' hlookup hfresh) hfresh
        (hgranted (by decide))
    have hleave : inside.files.enter inside.cwd Path.dotDot = .ok w'.cwd :=
      Files.enter_of_find ((Files.find_dotDot hfresh (hgranted (by decide))).trans (by rw [hcwd]))
        hhome hconsults'.searched
    refine ⟨path, inside, hpath, prints_pwd hpath, rfl, succeeds_cd hnul henter,
      prints_pwd hpath', ?_, succeeds_cd (by decide) hleave⟩
    have hls := prints_ls (w := inside) hfresh (hgranted (by decide)) (hgranted (by decide))
    rwa [Files.namesIn_eq hfresh] at hls

/-- A name that is shown as one that is there already. -/
theorem mkdir_settled_invalid :
    let w : World := {
      files := ⟨#[
        .directory { mode := 0o755, parent := 0, name := [], entries := [(utf8 "a", 1)] },
        .directory { mode := 0o755, parent := 0, name := utf8 "a", entries := [([0xFF], 2)] },
        .directory { mode := 0o755, parent := 1, name := [0xFF] }]⟩
      cwd := 1, environment := [] }
    let result := mkdir.execute [utf8 "mkdir", [0xFE]] w { policy := .reliable }
    w.files.IsRooted ∧ w.cwd ≠ Files.root ∧ slash ∉ [0xFE] ∧ result.outcome = .ok .continue ∧
      Settled w [0xFE] result.world ∧ Utf8.lossy [0xFE] = Utf8.lossy [0xFF] := by
  intro w result
  have hrooted : w.files.IsRooted := by decide
  have hroot : w.cwd ≠ Files.root := by decide
  have hbare : slash ∉ [0xFE] := by decide
  have hmade : result.outcome = .ok .continue := rfl
  exact ⟨hrooted, hroot, hbare, hmade, mkdir_settled hrooted hroot hbare hmade, by decide⟩

end Builtin

end TinyShell
