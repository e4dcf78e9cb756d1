import Mathlib.Data.List.Nodup
import Mathlib.Logic.Relation
import TinyShell.Proofs.Ancestry

/-!
# Trees that stay sound

In a sound tree (`Files.IsSound`) every directory that was not removed has a way up to the root and
is listed where it says it is, and no name stands for two entries. Whatever is done to a sound tree
(`Files.Change`) leaves a sound one (`Files.IsSound.change`).
-/

namespace TinyShell

theorem Directory.lookup_eq_some_iff {d : Directory} (hd : (d.entries.map (·.1)).Nodup)
    {name : Bytes} {i : Inode} : d.lookup name = some i ↔ (name, i) ∈ d.entries := by
  have hfound {entry : Bytes × Inode} (h : d.entries.find? (·.1 = name) = some entry) :
      entry ∈ d.entries ∧ entry.1 = name :=
    ⟨List.mem_of_find?_eq_some h, by simpa using List.find?_some h⟩
  constructor
  · intro h
    obtain ⟨entry, hentry, rfl⟩ := Option.map_eq_some_iff.1 h
    obtain ⟨hmem, rfl⟩ := hfound hentry
    exact hmem
  · intro h
    obtain ⟨entry, hentry⟩ : ∃ entry, d.entries.find? (·.1 = name) = some entry :=
      Option.isSome_iff_exists.1 (List.find?_isSome.2 ⟨_, h, by simp⟩)
    obtain ⟨hmem, hname⟩ := hfound hentry
    rw [lookup, hentry, List.inj_on_of_nodup_map hd hmem h hname]
    rfl

namespace Files

/-- Every directory that was not removed is in the tree, under the name it goes by, and no name is
given twice in one directory. -/
structure IsSound (files : Files) : Prop where
  rooted : files.IsRooted
  listed : ∀ i ≠ root, ∀ d ∈ files.directory? i, d.removed = false →
    ∃ above ∈ files.directory? d.parent, (d.name, i) ∈ above.entries
  distinct : ∀ i, ∀ d ∈ files.directory? i, (d.entries.map (·.1)).Nodup

variable {files files' : Files} {i parent : Inode} {name : Bytes} {d d' : Directory} {node : Node}

instance (files : Files) : Decidable files.IsSound :=
  decidable_of_iff
    (files.IsRooted ∧
      (∀ i < files.nodes.size, ∀ d ∈ files.directory? i, i ≠ root → d.removed = false →
        ∃ above ∈ files.directory? d.parent, (d.name, i) ∈ above.entries) ∧
      ∀ i < files.nodes.size, ∀ d ∈ files.directory? i, (d.entries.map (·.1)).Nodup) (by
    have hlt {i : Inode} {d : Directory} (hd : d ∈ files.directory? i) : i < files.nodes.size :=
      lt_size (directory?_eq_some_iff.1 hd)
    constructor
    · rintro ⟨hrooted, hlisted, hdistinct⟩
      exact ⟨hrooted, fun i hi d hd => hlisted i (hlt hd) d hd hi,
        fun i d hd => hdistinct i (hlt hd) d hd⟩
    · rintro ⟨hrooted, hlisted, hdistinct⟩
      exact ⟨hrooted, fun i _ d hd hi => hlisted i hi d hd, fun i _ => hdistinct i⟩)

/-! ## Directories that stay where they are -/

/-- `d'` stands where `d` stood, and lists the directories that `d` listed. -/
structure Revised (files : Files) (d d' : Directory) : Prop where
  parent : d'.parent = d.parent
  name : d'.name = d.name
  removed : d'.removed = d.removed
  listed : ∀ i, ∀ c ∈ files.directory? i, c.removed = false →
    (c.name, i) ∈ d.entries → (c.name, i) ∈ d'.entries
  distinct : (d.entries.map (·.1)).Nodup → (d'.entries.map (·.1)).Nodup

theorem Revised.refl (d : Directory) : files.Revised d d :=
  ⟨rfl, rfl, rfl, fun _ _ _ _ h => h, id⟩

theorem revised_mode (d : Directory) (mode : Nat) : files.Revised d { d with mode } :=
  ⟨rfl, rfl, rfl, fun _ _ _ _ h => h, id⟩

theorem revised_entry (hfree : d.lookup name = none) (i : Inode) :
    files.Revised d { d with entries := (name, i) :: d.entries } where
  parent := rfl
  name := rfl
  removed := rfl
  listed _ _ _ _ h := List.mem_cons_of_mem _ h
  distinct h := List.nodup_cons.2 ⟨Directory.lookup_eq_none_iff.1 hfree, h⟩

/-- A name may go if it does not lead to a directory that is still there. -/
theorem revised_dropped (hd : (d.entries.map (·.1)).Nodup)
    (hgone : ∀ i, d.lookup name = some i → ∀ c ∈ files.directory? i, c.removed = true) :
    files.Revised d { d with entries := d.entries.filter (·.1 ≠ name) } where
  parent := rfl
  name := rfl
  removed := rfl
  listed i c hc hkept h := by
    refine List.mem_filter.2 ⟨h, decide_eq_true fun hname => ?_⟩
    have hlookup : d.lookup name = some i := (Directory.lookup_eq_some_iff hd).2 (hname ▸ h)
    rw [hgone i hlookup c hc] at hkept
    cases hkept
  distinct h := h.sublist (List.filter_sublist.map _)

/-- No directory is made or removed, and each stands where it stood. -/
def Revises (files files' : Files) : Prop :=
  ∀ i, Option.Rel files.Revised (files.directory? i) (files'.directory? i)

namespace Revises

theorem of_eq (h : ∀ i, files'.directory? i = files.directory? i) : files.Revises files' := by
  intro i
  rw [h i]
  cases files.directory? i with
  | none => exact .none
  | some d => exact .some (.refl d)

theorem forth (h : files.Revises files') (hd : files.directory? i = some d) :
    ∃ d', files'.directory? i = some d' ∧ files.Revised d d' := by
  have hi := h i
  rw [hd] at hi
  cases hd' : files'.directory? i with
  | none => rw [hd'] at hi; cases hi
  | some d' => rw [hd'] at hi; cases hi; exact ⟨d', rfl, ‹_›⟩

theorem back (h : files.Revises files') (hd' : files'.directory? i = some d') :
    ∃ d, files.directory? i = some d ∧ files.Revised d d' := by
  have hi := h i
  rw [hd'] at hi
  cases hd : files.directory? i with
  | none => rw [hd] at hi; cases hi
  | some d => rw [hd] at hi; cases hi; exact ⟨d, rfl, ‹_›⟩

theorem stands (h : files.Revises files') {height : Nat} (hi : files.Stands height i) :
    files'.Stands height i := by
  refine hi.transfer (fun _ => True) trivial fun j _ d _ hd hkept => ⟨trivial, ?_⟩
  obtain ⟨d', hd', hrevised⟩ := h.forth hd
  exact ⟨d', hd', hrevised.parent, hrevised.removed.trans hkept⟩

theorem isSound (h : files.Revises files') (hsound : files.IsSound) : files'.IsSound := by
  refine ⟨fun i d' hd' hkept => ?_, fun i hi d' hd' hkept => ?_, fun i d' hd' => ?_⟩
  · obtain ⟨d, hd, hrevised⟩ := h.back hd'
    obtain ⟨height, hheight⟩ := hsound.rooted i d hd (hrevised.removed.symm.trans hkept)
    exact ⟨height, h.stands hheight⟩
  · obtain ⟨d, hd, hrevised⟩ := h.back hd'
    have hkept₀ := hrevised.removed.symm.trans hkept
    obtain ⟨above, habove, hentry⟩ := hsound.listed i hi d hd hkept₀
    obtain ⟨above', habove', hrevised'⟩ := h.forth habove
    refine ⟨above', hrevised.parent.symm ▸ habove', ?_⟩
    rw [hrevised.name]
    exact hrevised'.listed i d hd hkept₀ hentry
  · obtain ⟨d, hd, hrevised⟩ := h.back hd'
    exact hrevised.distinct (hsound.distinct i d hd)

end Revises

/-- `files'` has this directory at `i`, and is `files` everywhere else as far as directories go. -/
def Puts (files files' : Files) (i : Inode) (d : Directory) : Prop :=
  ∀ j, files'.directory? j = if j = i then some d else files.directory? j

namespace Puts

theorem here (h : files.Puts files' i d) : files'.directory? i = some d := by
  rw [h i, if_pos rfl]

theorem elsewhere (h : files.Puts files' i d) {j : Inode} (hj : j ≠ i) :
    files'.directory? j = files.directory? j := by
  rw [h j, if_neg hj]

theorem revises (h : files.Puts files' i d') (hd : files.directory? i = some d)
    (hrevised : files.Revised d d') : files.Revises files' := by
  intro j
  by_cases hj : j = i
  · subst hj
    rw [h.here, hd]
    exact .some hrevised
  · rw [h.elsewhere hj]
    exact Revises.of_eq (fun _ => rfl) j

end Puts

theorem directory?_congr {j : Inode} (h : files'.node? i = files.node? j) :
    files'.directory? i = files.directory? j := by
  rw [directory?, h]
  rfl

theorem directory?_eq_none (h : files.node? i = some node) (hnode : ∀ c, node ≠ .directory c) :
    files.directory? i = none := by
  rw [directory?, h]
  cases node with
  | directory c => exact absurd rfl (hnode c)
  | _ => rfl

theorem node?_setNode (hi : i < files.nodes.size) (node : Node) (j : Inode) :
    (files.setNode i node).node? j = if j = i then some node else files.node? j := by
  rw [setNode, node?, Array.getElem?_setIfInBounds]
  simp only [hi, if_true, eq_comm (a := i)]
  rfl

theorem puts_setNode (hd : files.directory? i = some d) (d' : Directory) :
    files.Puts (files.setNode i (.directory d')) i d' := by
  intro j
  have hnode := node?_setNode (lt_size (directory?_eq_some_iff.1 hd)) (.directory d') j
  split
  · next hj => rw [if_pos hj] at hnode; exact directory?_eq_some_iff.2 hnode
  · next hj => rw [if_neg hj] at hnode; exact directory?_congr hnode

theorem puts_modifyDirectory (hd : files.directory? i = some d) (f : Directory → Directory) :
    files.Puts (files.modifyDirectory i f) i (f d) := by
  have hmodify : files.modifyDirectory i f = files.setNode i (.directory (f d)) := by
    simp only [modifyDirectory, hd]
  rw [hmodify]
  exact puts_setNode hd (f d)

/-- What is placed in a directory is an entry more in it, unless it is itself a directory. -/
theorem puts_place (hd : files.directory? parent = some d) (hnode : ∀ c, node ≠ .directory c)
    (name : Bytes) : files.Puts (files.place parent name node) parent
      { d with entries := (name, files.nodes.size) :: d.entries } := by
  intro j
  have hplaced : (files.place parent name node).node? j = _ := node?_place hd node j
  by_cases hj : j = files.nodes.size
  · subst hj
    have hparent := Nat.ne_of_gt (lt_size (directory?_eq_some_iff.1 hd))
    have hnone : files.directory? files.nodes.size = none := by simp [directory?, node?]
    rw [if_pos rfl] at hplaced
    rw [if_neg hparent, hnone]
    exact directory?_eq_none hplaced hnode
  · rw [if_neg hj] at hplaced
    split
    · next hp => rw [if_pos hp] at hplaced; exact directory?_eq_some_iff.2 hplaced
    · next hp => rw [if_neg hp] at hplaced; exact directory?_congr hplaced

theorem revises_place (hd : files.directory? parent = some d) (hfree : d.lookup name = none)
    (hnode : ∀ c, node ≠ .directory c) : files.Revises (files.place parent name node) :=
  (puts_place hd hnode name).revises hd (revised_entry hfree _)

/-- Nothing that is not a directory has any part in where directories are. -/
theorem revises_setNode {old : Node} (hi : files.node? i = some old)
    (hold : ∀ c, old ≠ .directory c) (hnode : ∀ c, node ≠ .directory c) :
    files.Revises (files.setNode i node) := by
  refine .of_eq fun j => ?_
  have hset := node?_setNode (lt_size hi) node j
  by_cases hj : j = i
  · subst hj
    rw [if_pos rfl] at hset
    rw [directory?_eq_none hset hnode, directory?_eq_none hi hold]
  · rw [if_neg hj] at hset
    exact directory?_congr hset

/-! ## Directories that come and go -/

theorem IsSound.gains {mode : Nat} (hsound : files.IsSound)
    (h : files.Gains files' parent name (.directory { mode, parent, name }))
    (hd : files.directory? parent = some d) (hkept : d.removed = false) : files'.IsSound := by
  refine ⟨h.isRooted hsound.rooted hd hkept, fun i hi d' hd' hkept' => ?_, fun i d' hd' => ?_⟩
  · by_cases hnew : i = files.nodes.size
    · subst hnew
      obtain rfl := Option.some.inj ((directory?_eq_some_iff.2 h.made).symm.trans hd')
      exact ⟨_, h.holder_directory? hd, List.mem_cons_self⟩
    · obtain ⟨d₀, hd₀, hparent, hname, hremoved, -⟩ := h.exists_directory? hnew hd'
      obtain ⟨above, habove, hentry⟩ := hsound.listed i hi d₀ hd₀ (hremoved.symm.trans hkept')
      obtain ⟨above', habove', -, -, -, hentries⟩ := h.directory? habove
      rw [hparent, hname]
      exact ⟨above', habove', hentries hentry⟩
  · by_cases hnew : i = files.nodes.size
    · subst hnew
      obtain rfl := Option.some.inj ((directory?_eq_some_iff.2 h.made).symm.trans hd')
      exact List.nodup_nil
    · by_cases hi : i = parent
      · subst hi
        obtain rfl := Option.some.inj ((h.holder_directory? hd).symm.trans hd')
        obtain ⟨d₀, hd₀, hfree, -⟩ := h.holder
        obtain rfl := Option.some.inj (hd.symm.trans (directory?_eq_some_iff.2 hd₀))
        have hrevised : files.Revised d _ := revised_entry hfree files.nodes.size
        exact hrevised.distinct (hsound.distinct i d hd)
      · have hsame : files.directory? i = some d' :=
          directory?_eq_some_iff.2 ((h.kept i hi hnew).symm.trans (directory?_eq_some_iff.1 hd'))
        exact hsound.distinct i d' hsame

/-- Nothing is below an empty directory, so nothing loses its place with it. -/
theorem IsSound.removed (hsound : files.IsSound) (hd : files.directory? i = some d)
    (hempty : d.entries = []) (h : files.Puts files' i { d with removed := true }) :
    files'.IsSound := by
  have hother {j : Inode} {c : Directory} (hc : files'.directory? j = some c)
      (hkept : c.removed = false) : j ≠ i ∧ files.directory? j = some c := by
    have hj : j ≠ i := by
      rintro rfl
      obtain rfl := Option.some.inj (h.here.symm.trans hc)
      cases hkept
    exact ⟨hj, (h.elsewhere hj).symm.trans hc⟩
  have habove {j : Inode} {c : Directory} (hj : j ≠ root) (hc : files.directory? j = some c)
      (hkept : c.removed = false) : c.parent ≠ i := by
    intro hparent
    obtain ⟨above, habove, hentry⟩ := hsound.listed j hj c hc hkept
    obtain rfl := Option.some.inj (hd.symm.trans (hparent ▸ habove))
    rw [hempty] at hentry
    cases hentry
  refine ⟨fun j c hc hkept => ?_, fun j hj c hc hkept => ?_, fun j c hc => ?_⟩
  · obtain ⟨hj, hc₀⟩ := hother hc hkept
    obtain ⟨height, hheight⟩ := hsound.rooted j c hc₀ hkept
    refine ⟨height, hheight.transfer (· ≠ i) hj fun k hk c hki hc hkept => ?_⟩
    exact ⟨habove hk hc hkept, c, (h.elsewhere hki).trans hc, rfl, hkept⟩
  · obtain ⟨-, hc₀⟩ := hother hc hkept
    obtain ⟨above, hfound, hentry⟩ := hsound.listed j hj c hc₀ hkept
    exact ⟨above, (h.elsewhere (habove hj hc₀ hkept)).trans hfound, hentry⟩
  · by_cases hj : j = i
    · subst hj
      obtain rfl := Option.some.inj (h.here.symm.trans hc)
      exact hsound.distinct j d hd
    · exact hsound.distinct j c ((h.elsewhere hj).symm.trans hc)

/-! ## What may be done to a tree -/

/-- What one operation makes of a tree. -/
inductive Change (files files' : Files) : Prop where
  | makeDirectory {cwd : Inode} {path : Bytes} {mode : Nat}
      (done : files.makeDirectory cwd path mode = .ok files')
  | makeLink {cwd : Inode} {path target : Bytes} (done : files.makeLink cwd path target = .ok files')
  | makeName {cwd i : Inode} {path : Bytes} (done : files.makeName cwd path i = .ok files')
  | openFile {cwd i : Inode} {path : Bytes} {mode : Nat}
      (done : files.openFile cwd path mode = .ok (i, files'))
  | setContent {i : Inode} {content : Bytes} (done : files.setContent i content = files')
  | setMode {i : Inode} {mode : Nat} (done : files.setMode i mode = files')
  | removeDirectory {cwd : Inode} {path : Bytes} (done : files.removeDirectory cwd path = .ok files')
  | unlink {cwd : Inode} {path : Bytes} (done : files.unlink cwd path = .ok files')

/-- What any number of operations make of a tree. -/
abbrev Changes : Files → Files → Prop := Relation.ReflTransGen Change

variable {cwd : Inode} {path : Bytes}

theorem makeLink_ok {target : Bytes} (h : files.makeLink cwd path target = .ok files') :
    ∃ parent name d, files.directory? parent = some d ∧ d.lookup name = none ∧
      files' = files.place parent name (.link target) := by
  simp only [makeLink, bind, Except.bind] at h
  split at h
  · cases h
  split at h
  · cases h
  next hplace =>
  cases h
  obtain ⟨-, d, hd, -, hfree⟩ := vacancy_ok hplace
  exact ⟨_, _, d, hd, hfree, rfl⟩

theorem makeName_ok (h : files.makeName cwd path i = .ok files') :
    ∃ parent name d, files.directory? parent = some d ∧ d.lookup name = none ∧
      files' = files.modifyDirectory parent fun d =>
        { d with entries := (name, i) :: d.entries } := by
  simp only [makeName, bind, Except.bind] at h
  split at h
  · cases h
  next hplace =>
  cases h
  obtain ⟨-, d, hd, -, hfree⟩ := vacancy_ok hplace
  exact ⟨_, _, d, hd, hfree, rfl⟩

/-- However many links are followed, one file is made. -/
theorem makeFile_ok {mode budget : Nat}
    (h : files.makeFile cwd mode budget path = .ok (i, files')) :
    ∃ parent name d, files.directory? parent = some d ∧ d.lookup name = none ∧
      files' = files.place parent name (.file mode []) := by
  induction budget generalizing cwd path with
  | zero => cases h
  | succ budget ih =>
    simp only [makeFile, bind, Except.bind] at h
    split at h
    · cases h
    split at h
    · cases h
    split at h
    · split at h
      · exact ih h
      · cases h
    split at h
    · cases h
    next hplace =>
    cases h
    obtain ⟨-, d, hd, -, hfree⟩ := vacancy_ok hplace
    exact ⟨_, _, d, hd, hfree, rfl⟩

theorem openFile_ok {mode : Nat} (h : files.openFile cwd path mode = .ok (i, files')) :
    files' = files ∨ ∃ parent name d, files.directory? parent = some d ∧ d.lookup name = none ∧
      files' = files.place parent name (.file mode []) := by
  unfold openFile at h
  split at h
  · split at h
    · cases h
    split at h
    · cases h; exact .inl rfl
    · cases h
  · exact .inr (makeFile_ok h)
  · cases h

theorem entry?_ok (h : files.entry? parent name = .ok i) :
    ∃ d, files.directory? parent = some d ∧ d.lookup name = some i := by
  simp only [ entry?, bind, Except.bind] at h
  split at h
  · next d hd =>
    split at h
    · cases h
    split at h
    · cases h
    split at h
    · next hi => cases h; exact ⟨d, hd, hi⟩
    · cases h
  · cases h

theorem removeDirectory_ok (h : files.removeDirectory cwd path = .ok files') :
    ∃ parent name above i d, files.directory? parent = some above ∧
      above.lookup name = some i ∧ files.directory? i = some d ∧ d.entries = [] ∧
      files' = (files.dropEntry parent name).setNode i (.directory { d with removed := true }) := by
  simp only [removeDirectory, bind, Except.bind] at h
  split at h
  · cases h
  split at h
  · split at h
    · cases h
    split at h
    · cases h
    split at h
    · cases h
    next hentry =>
    obtain ⟨above, habove, hi⟩ := entry?_ok hentry
    split at h
    · cases h
    split at h
    · next d hd =>
      split at h
      · cases h
      next hempty =>
      cases h
      exact ⟨_, _, above, _, d, habove, hi, hd, by simpa using hempty, rfl⟩
    · cases h
  · cases h

theorem unlink_ok (h : files.unlink cwd path = .ok files') :
    ∃ parent name above i, files.directory? parent = some above ∧
      above.lookup name = some i ∧ files.directory? i = none ∧
      files' = files.dropEntry parent name := by
  simp only [unlink, bind, Except.bind] at h
  split at h
  · cases h
  split at h
  · split at h
    · cases h
    split at h
    · cases h
    next hentry =>
    obtain ⟨above, habove, hi⟩ := entry?_ok hentry
    split at h
    · cases h
    split at h
    · cases h
    split at h
    · cases h
    next hnone =>
    cases h
    exact ⟨_, _, above, _, habove, hi, by simpa using hnone, rfl⟩
  · cases h

namespace IsSound

theorem removeDirectory (hsound : files.IsSound)
    (h : files.removeDirectory cwd path = .ok files') : files'.IsSound := by
  obtain ⟨parent, name, above, i, d, habove, hi, hd, hempty, rfl⟩ := removeDirectory_ok h
  have hentry := (Directory.lookup_eq_some_iff (hsound.distinct parent above habove)).1 hi
  have hparent : parent ≠ i := by
    rintro rfl
    obtain rfl := Option.some.inj (habove.symm.trans hd)
    rw [hempty] at hentry
    cases hentry
  -- First the directory goes, then the entry that leads to it.
  let emptied := files.setNode i (.directory { d with removed := true })
  have hputs : files.Puts emptied i { d with removed := true } := puts_setNode hd _
  have hgone : emptied.IsSound := hsound.removed hd hempty hputs
  have habove' : emptied.directory? parent = some above := (hputs.elsewhere hparent).trans habove
  have hdropped : files.Puts (files.dropEntry parent name) parent _ := puts_modifyDirectory habove _
  have hd' : (files.dropEntry parent name).directory? i = some d :=
    (hdropped.elsewhere hparent.symm).trans hd
  have hboth := puts_setNode hd' { d with removed := true }
  have hthen : emptied.Puts ((files.dropEntry parent name).setNode i
      (.directory { d with removed := true })) parent
      { above with entries := above.entries.filter (·.1 ≠ name) } := by
    intro j
    by_cases hj : j = i
    · subst hj
      rw [hboth.here, if_neg hparent.symm, hputs.here]
    · rw [hboth.elsewhere hj, hputs.elsewhere hj]
      exact hdropped j
  refine (hthen.revises habove' (revised_dropped (hsound.distinct parent above habove) ?_)).isSound
    hgone
  intro k hk c hc
  obtain rfl := Option.some.inj (hi.symm.trans hk)
  obtain rfl := Option.some.inj (hputs.here.symm.trans hc)
  rfl

theorem change (hsound : files.IsSound) (h : files.Change files') : files'.IsSound := by
  cases h with
  | makeDirectory done =>
    obtain ⟨parent, name, d, hplace, hd, hgains⟩ := makeDirectory_ok done
    obtain ⟨-, d', hd', hkept, -⟩ := vacancy_ok hplace
    obtain rfl := Option.some.inj (hd.symm.trans hd')
    exact hsound.gains hgains hd hkept
  | makeLink done =>
    obtain ⟨parent, name, d, hd, hfree, rfl⟩ := makeLink_ok done
    exact (revises_place hd hfree fun c => by simp).isSound hsound
  | makeName done =>
    obtain ⟨parent, name, d, hd, hfree, rfl⟩ := makeName_ok done
    exact ((puts_modifyDirectory hd _).revises hd (revised_entry hfree _)).isSound hsound
  | openFile done =>
    rcases openFile_ok done with rfl | ⟨parent, name, d, hd, hfree, rfl⟩
    · exact hsound
    · exact (revises_place hd hfree fun c => by simp).isSound hsound
  | setContent done =>
    subst done
    unfold setContent
    split
    · next hi => exact (revises_setNode hi (by simp) (by simp)).isSound hsound
    · exact hsound
  | setMode done =>
    subst done
    unfold setMode
    split
    · next hi => exact (revises_setNode hi (by simp) (by simp)).isSound hsound
    · next d hi =>
      have hd := directory?_eq_some_iff.2 hi
      exact ((puts_setNode hd _).revises hd (revised_mode d _)).isSound hsound
    · exact hsound
  | removeDirectory done => exact hsound.removeDirectory done
  | unlink done =>
    obtain ⟨parent, name, above, i, habove, hi, hnone, rfl⟩ := unlink_ok done
    refine ((puts_modifyDirectory habove _).revises habove
      (revised_dropped (hsound.distinct parent above habove) fun j hj c hc => ?_)).isSound hsound
    obtain rfl := Option.some.inj (hi.symm.trans hj)
    rw [hnone] at hc
    cases hc

/-- A tree stays sound, however often it is changed. -/
theorem changes (hsound : files.IsSound) (h : files.Changes files') : files'.IsSound := by
  induction h with
  | refl => exact hsound
  | tail _ hlast ih => exact ih.change hlast

end IsSound

end Files

end TinyShell
