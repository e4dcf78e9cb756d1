import Mathlib.Data.List.DropRight
import TinyShell.Files.Change
import TinyShell.Proofs.Resolved

/-!
# Where a new directory goes

A path that names something is a base, a last name and perhaps slashes after it (`Path.Cut`).
What `Files.makeDirectory` makes goes by that name into the directory that the base leads to,
and nothing else in the tree changes (`Files.Gains`, `Files.makeDirectory_gains`).
-/

namespace TinyShell

namespace Path

/-- `name` is the last name on the path, and `base` what stands before it: nothing, or
something that a slash ends. -/
structure Cut (path base name : Bytes) : Prop where
  whole : ∃ count, path = base ++ name ++ List.replicate count slash
  base_ends : base = [] ∨ base.getLast? = some slash
  name_ne_nil : name ≠ []
  name_bare : slash ∉ name

theorem names_append (a b : Bytes) : names (a ++ slash :: b) = names a ++ names b := by
  have hsplit : (a ++ slash :: b).splitOn slash = a.splitOn slash ++ b.splitOn slash :=
    List.splitOnP_append_cons a b (beq_self_eq_true slash)
  rw [names, hsplit, List.filter_append]; rfl

theorem names_slashes (path : Bytes) (count : Nat) :
    names (path ++ List.replicate count slash) = names path := by
  induction count with
  | zero => simp
  | succ count ih =>
    have hlast : names (path ++ List.replicate count slash ++ [slash]) =
        names (path ++ List.replicate count slash) := by
      rw [names_append]; exact List.append_nil _
    rw [List.replicate_succ', ← List.append_assoc, hlast, ih]

/-- Every path that names something can be cut. -/
theorem exists_cut {path : Bytes} (h : names path ≠ []) : ∃ base name, Cut path base name := by
  let isSlash (b : UInt8) : Bool := b == slash
  let front := path.rdropWhile isSlash
  have hslashes : path.rtakeWhile isSlash =
      List.replicate (path.rtakeWhile isSlash).length slash :=
    List.eq_replicate_iff.2 ⟨rfl, fun b hb => by simpa [isSlash] using List.mem_rtakeWhile_imp hb⟩
  have hpath : front ++ List.replicate (path.rtakeWhile isSlash).length slash = path := by
    rw [← hslashes]; exact List.rdropWhile_append_rtakeWhile
  have hfront : front ≠ [] := by
    intro hnil
    rw [hnil] at hpath
    refine h ?_
    rw [← hpath, names_slashes]; rfl
  have hlast : front.getLast hfront ≠ slash := by
    have := List.rdropWhile_last_not isSlash path hfront
    simpa [isSlash] using this
  let base := front.rdropWhile (!isSlash ·)
  let name := front.rtakeWhile (!isSlash ·)
  have hcut : base ++ name = front := List.rdropWhile_append_rtakeWhile
  refine ⟨base, name, ⟨_, by rw [hcut, hpath]⟩, ?_, ?_, fun hmem => ?_⟩
  · by_cases hbase : base = []
    · exact .inl hbase
    · have hend := List.rdropWhile_last_not (!isSlash ·) front hbase
      refine .inr ?_
      rw [List.getLast?_eq_some_getLast hbase]
      simpa [isSlash] using hend
  · rw [ne_eq, List.rtakeWhile_eq_nil_iff]
    intro hall
    exact hall hfront (by simpa [isSlash] using hlast)
  · have := List.mem_rtakeWhile_imp hmem
    simp [isSlash] at this

namespace Cut

variable {path base name : Bytes}

theorem names_eq (h : Cut path base name) : names path = names base ++ [name] := by
  obtain ⟨count, rfl⟩ := h.whole
  rw [names_slashes]
  rcases h.base_ends with rfl | hbase
  · exact names_bare h.name_bare h.name_ne_nil
  · obtain ⟨front, rfl⟩ := List.getLast?_eq_some_iff.1 hbase
    rw [List.append_assoc, List.singleton_append, names_append,
      names_bare h.name_bare h.name_ne_nil, names_append]
    simp [names, List.splitOn_nil]

/-- A path is absolute if its beginning is. -/
theorem isAbsolute_eq (h : Cut path base name) :
    isAbsolute path = isAbsolute base := by
  obtain ⟨count, rfl⟩ := h.whole
  cases base with
  | nil =>
    obtain ⟨b, rest, rfl⟩ := List.exists_cons_of_ne_nil h.name_ne_nil
    have hb : b ≠ slash := fun e => h.name_bare (e ▸ List.mem_cons_self)
    simpa [isAbsolute] using hb
  | cons b base => simp [isAbsolute]

theorem length_base (h : Cut path base name) : base.length ≤ path.length := by
  obtain ⟨count, rfl⟩ := h.whole
  simp only [List.length_append]
  omega

end Cut

end Path

theorem Directory.lookup_eq_none_iff {d : Directory} {name : Bytes} :
    d.lookup name = none ↔ name ∉ d.entries.map (·.1) := by
  simp only [lookup, Option.map_eq_none_iff, List.find?_eq_none, decide_eq_true_eq, List.mem_map,
    not_exists, not_and]

namespace Files

variable {files : Files}

/-- A `/` at the end asks for a directory. -/
theorem descend_concat_nil (here : Inode) (steps : List Bytes) :
    files.descend true here (steps ++ [[]]) =
      match files.descend true here steps with
      | .arrived i => if (files.directory? i).isSome then .arrived i else .refused .notDirectory
      | .atLink directory target rest => .atLink directory target (rest ++ [[]])
      | .refused e => .refused e := by
  -- Both take each step, or stop at it for the same reason.
  fun_induction files.descend true here steps
  case case1 here => cases hd : files.directory? here <;> simp [descend, hd]
  all_goals simp_all [descend, Nat.not_lt.2]

/-- A `/` after a path to a directory leads no further. -/
theorem walk_concat_nil {budget : Nat} {here i : Inode} {steps : List Bytes}
    (h : files.walk true budget here steps = .ok i) (hd : (files.directory? i).isSome) :
    files.walk true budget here (steps ++ [[]]) = .ok i := by
  induction budget generalizing here steps with
  | zero =>
    rw [walk] at h ⊢
    rw [descend_concat_nil]
    cases hs : files.descend true here steps <;> simp_all
  | succ budget ih =>
    rw [walk] at h ⊢
    rw [descend_concat_nil]
    cases hs : files.descend true here steps with
    | arrived j => simp_all
    | refused e => simp_all
    | atLink directory target rest =>
      rw [hs] at h
      simp only
      rw [← List.append_assoc]
      exact ih h

theorem walk_steps {budget : Nat} {here i : Inode} {base : Bytes}
    (h : files.walk true budget here (Path.names base) = .ok i)
    (hd : (files.directory? i).isSome) : files.walk true budget here (Path.steps base) = .ok i := by
  unfold Path.steps
  split
  · exact walk_concat_nil h hd
  · exact h

/-- The directory that the beginning of a path leads to. -/
def Leads (files : Files) (cwd : Inode) (base : Bytes) (i : Inode) : Prop :=
  (files.directory? i).isSome ∧ if base = [] then i = cwd else files.find cwd base = .ok i

variable {cwd parent : Inode} {path name : Bytes}

theorem checkPath_eq_ok_iff : checkPath path = .ok () ↔ path ≠ [] ∧ path.length < pathMax := by
  simp only [checkPath, List.isEmpty_iff]
  split_ifs <;> simp_all

theorem findParent_ok {last? : Option Bytes} (h : files.findParent cwd path = .ok (parent, last?)) :
    checkPath path = .ok () ∧
      files.walk true linkMax (origin cwd path) (Path.names path).dropLast = .ok parent ∧
      (files.directory? parent).isSome ∧ (Path.names path).getLast? = last? := by
  simp only [findParent, bind, Except.bind] at h
  split at h
  · cases h
  next hcheck =>
  split at h
  · cases h
  next hwalk =>
  split at h
  · next hd =>
    split at h
    · cases h
    · cases h
      exact ⟨hcheck, hwalk, by simp [hd], rfl⟩
  · cases h

/-- The last name on the path goes into the directory that stands before it. -/
theorem leads_of_findParent (h : files.findParent cwd path = .ok (parent, some name)) :
    ∃ base, Path.Cut path base name ∧ files.Leads cwd base parent := by
  obtain ⟨hcheck, hwalk, hd, hlast⟩ := findParent_ok h
  have hne : Path.names path ≠ [] := fun hnil => by simp [hnil] at hlast
  obtain ⟨base, last, hcut⟩ := Path.exists_cut hne
  rw [hcut.names_eq, List.getLast?_concat, Option.some.injEq] at hlast
  subst hlast
  rw [hcut.names_eq, List.dropLast_concat] at hwalk
  have horigin : origin cwd path = origin cwd base := by rw [origin, hcut.isAbsolute_eq]; rfl
  rw [horigin] at hwalk
  refine ⟨base, hcut, hd, ?_⟩
  split
  · next hbase =>
    subst hbase
    cases hwalk
    rfl
  · next hbase =>
    have hlength := Nat.lt_of_le_of_lt hcut.length_base (checkPath_eq_ok_iff.1 hcheck).2
    rw [find, checkPath_eq_ok_iff.2 ⟨hbase, hlength⟩]
    exact walk_steps hwalk hd

theorem vacancy_eq {d : Directory} {forDirectory : Bool}
    (h : files.findParent cwd path = .ok (parent, some name))
    (hd : files.directory? parent = some d) :
    files.vacancy cwd path forDirectory =
      if name = Path.dot ∨ name = Path.dotDot then .error .present
      else if d.removed then .error .noEntry
      else if nameMax < name.length then .error .nameTooLong
      else if (d.lookup name).isSome then .error .present
      else if Path.endsWithSlash path && !forDirectory then .error .noEntry
      else if !d.permits .write then .error .access
      else .ok (parent, name) := by
  simp only [vacancy, h, bind, Except.bind, hd, throw, throwThe, MonadExceptOf.throw]
  rfl

theorem vacancy_ok {forDirectory : Bool}
    (h : files.vacancy cwd path forDirectory = .ok (parent, name)) :
    files.findParent cwd path = .ok (parent, some name) ∧
      ∃ d, files.directory? parent = some d ∧ d.removed = false ∧ d.lookup name = none := by
  rcases hparent : files.findParent cwd path with e | ⟨parent', _ | name'⟩
  · simp only [vacancy, hparent, bind, Except.bind] at h
    cases h
  · simp only [vacancy, hparent, bind, Except.bind] at h
    cases h
  · obtain ⟨-, -, hd, -⟩ := findParent_ok hparent
    obtain ⟨d, hd⟩ := Option.isSome_iff_exists.1 hd
    rw [vacancy_eq hparent hd] at h
    split_ifs at h with _ hremoved
    cases h
    exact ⟨rfl, d, hd, Bool.eq_false_iff.2 hremoved, Option.not_isSome_iff_eq_none.1 ‹_›⟩

theorem directory?_eq_some_iff {i : Inode} {d : Directory} :
    files.directory? i = some d ↔ files.node? i = some (.directory d) := by
  unfold directory?
  split <;> simp_all

theorem lt_size {i : Inode} {node : Node} (h : files.node? i = some node) : i < files.nodes.size :=
  (Array.getElem?_eq_some_iff.1 h).1

/-- `files'` is `files` with one entry more: `name`, in the directory `parent`, for a new node. -/
structure Gains (files files' : Files) (parent : Inode) (name : Bytes) (node : Node) : Prop where
  holder : ∃ d, files.node? parent = some (.directory d) ∧ d.lookup name = none ∧
    files'.node? parent =
      some (.directory { d with entries := (name, files.nodes.size) :: d.entries })
  size : files'.nodes.size = files.nodes.size + 1
  made : files'.node? files.nodes.size = some node
  kept : ∀ i ≠ parent, i ≠ files.nodes.size → files'.node? i = files.node? i

theorem place_eq {d : Directory} (hd : files.directory? parent = some d) (node : Node) :
    files.place parent name node = ⟨(files.nodes.setIfInBounds parent
      (.directory { d with entries := (name, files.nodes.size) :: d.entries })).push node⟩ := by
  simp only [place, modifyDirectory, hd]; rfl

theorem node?_place {d : Directory} (hd : files.directory? parent = some d) (node : Node)
    (i : Inode) :
    (files.place parent name node).node? i =
      if i = files.nodes.size then some node
      else if i = parent then
        some (.directory { d with entries := (name, files.nodes.size) :: d.entries })
      else files.node? i := by
  have hlt := lt_size (directory?_eq_some_iff.1 hd)
  rw [place_eq hd, node?, Array.getElem?_push, Array.size_setIfInBounds,
    Array.getElem?_setIfInBounds]
  simp only [hlt, if_true, eq_comm (a := parent)]
  rfl

theorem gains_place {d : Directory} (hd : files.directory? parent = some d)
    (hname : d.lookup name = none) (node : Node) :
    files.Gains (files.place parent name node) parent name node := by
  have hparent := directory?_eq_some_iff.1 hd
  refine ⟨⟨d, hparent, hname, ?_⟩, ?_, ?_, fun i hi hnew => ?_⟩
  · rw [node?_place hd, if_neg (Nat.ne_of_lt (lt_size hparent)), if_pos rfl]
  · rw [place_eq hd, Array.size_push, Array.size_setIfInBounds]
  · rw [node?_place hd, if_pos rfl]
  · rw [node?_place hd, if_neg hnew, if_neg hi]

/-- The new directory takes over the set-group-ID bit of the one it is in. -/
theorem makeDirectory_ok {mode : Nat} {files' : Files}
    (h : files.makeDirectory cwd path mode = .ok files') :
    ∃ parent name d, files.vacancy cwd path true = .ok (parent, name) ∧
      files.directory? parent = some d ∧
      files.Gains files' parent name (.directory {
        mode := mode ||| (d.mode &&& inherited), parent, name }) := by
  simp only [makeDirectory, bind, Except.bind] at h
  split at h
  · cases h
  next place hplace =>
  cases h
  obtain ⟨-, d, hd, -, hname⟩ := vacancy_ok hplace
  have hmode : files.mode? place.1 = some d.mode := by
    simp only [mode?, directory?_eq_some_iff.1 hd]
  refine ⟨place.1, place.2, d, hplace, hd, ?_⟩
  have hgains := gains_place hd hname
    (.directory { mode := mode ||| (d.mode &&& inherited), parent := place.1, name := place.2 })
  simpa [hmode] using hgains

/-- What `mkdir` makes, and where. -/
theorem makeDirectory_gains {mode : Nat} {files' : Files}
    (h : files.makeDirectory cwd path mode = .ok files') :
    ∃ base name parent d, Path.Cut path base name ∧ files.Leads cwd base parent ∧
      files.directory? parent = some d ∧
      files.Gains files' parent name (.directory {
        mode := mode ||| (d.mode &&& inherited), parent, name }) := by
  obtain ⟨parent, name, d, hplace, hd, hgains⟩ := makeDirectory_ok h
  obtain ⟨base, hcut, hleads⟩ := leads_of_findParent (vacancy_ok hplace).1
  exact ⟨base, name, parent, d, hcut, hleads, hd, hgains⟩

end Files

end TinyShell
