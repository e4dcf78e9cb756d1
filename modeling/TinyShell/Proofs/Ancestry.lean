import Mathlib.Data.Fintype.Card
import TinyShell.Proofs.Effects

/-!
# The way down to a directory

`Files.pathOf` goes up from a directory to the root and counts the steps it may take.
`Files.Stands` is the way up without that count; no directory is on it twice, so the count is never
too low (`Files.Stands.exists_namesTo`). A tree in which every directory has a way up keeps it when
a directory is made, and no other path changes (`Files.Gains.isRooted`, `Files.Gains.namesTo`).
-/

namespace TinyShell

namespace Files

/-- So many steps up from the directory is the root, and none of those on the way was removed. -/
inductive Stands (files : Files) : Nat → Inode → Prop
  | root : Stands files 0 root
  | inside {i : Inode} {d : Directory} {height : Nat} (hi : i ≠ root)
      (hd : files.directory? i = some d) (hkept : d.removed = false)
      (above : Stands files height d.parent) : Stands files (height + 1) i

/-- Every directory that was not removed is in the tree. -/
def IsRooted (files : Files) : Prop :=
  ∀ i, ∀ d ∈ files.directory? i, d.removed = false → ∃ height, files.Stands height i

variable {files files' : Files} {parent i : Inode} {name : Bytes} {height : Nat}

namespace Stands

theorem unique {height' : Nat} (h : files.Stands height i) (h' : files.Stands height' i) :
    height = height' := by
  induction h generalizing height' with
  | root =>
    cases h' with
    | root => rfl
    | inside hi => exact absurd rfl hi
  | inside hi hd _ _ ih =>
    cases h' with
    | root => exact absurd rfl hi
    | inside _ hd' _ above' =>
      obtain rfl := Option.some.inj (hd.symm.trans hd')
      rw [ih above']

theorem exists_above (h : files.Stands height i) {k : Nat} (hk : k ≤ height) :
    ∃ j, files.Stands k j := by
  induction h with
  | root =>
    obtain rfl := Nat.le_zero.1 hk
    exact ⟨_, .root⟩
  | @inside i d height hi hd hkept above ih =>
    rcases Nat.le_succ_iff.1 hk with hk | rfl
    · exact ih hk
    · exact ⟨i, .inside hi hd hkept above⟩

/-- There are as many directories on the way as steps. -/
theorem le_size (h : files.Stands height i) : height ≤ files.nodes.size := by
  have hstep (k : Fin height) : ∃ j : Fin files.nodes.size, files.Stands (k + 1) j := by
    obtain ⟨j, hj⟩ := h.exists_above k.isLt
    cases hj with
    | inside hi hd hkept above =>
      exact ⟨⟨j, lt_size (directory?_eq_some_iff.1 hd)⟩, .inside hi hd hkept above⟩
  choose inode hinode using hstep
  have hinjective : Function.Injective inode := fun k l hkl =>
    Fin.ext (Nat.succ.inj ((hinode k).unique (hkl ▸ hinode l)))
  simpa using Fintype.card_le_of_injective inode hinjective

theorem exists_namesTo (h : files.Stands height i) {fuel : Nat} (hfuel : height < fuel) :
    ∃ names, files.namesTo fuel i = some names := by
  induction h generalizing fuel with
  | root =>
    obtain ⟨fuel, rfl⟩ := Nat.exists_eq_add_one.2 hfuel
    exact ⟨[], by simp [namesTo]⟩
  | @inside i d _ hi hd hkept _ ih =>
    obtain ⟨fuel, rfl⟩ := Nat.exists_eq_add_one.2 (Nat.zero_lt_of_lt hfuel)
    obtain ⟨names, hnames⟩ := ih (Nat.lt_of_succ_lt_succ hfuel)
    exact ⟨names ++ [d.name], by simp [namesTo, hi, hd, hkept, hnames]⟩

/-- What is on the way up stays there, if the way goes through such directories only that stay
where they are. -/
theorem transfer (Kept : Inode → Prop) (hi : Kept i)
    (hkept : ∀ j ≠ Files.root, ∀ d, Kept j → files.directory? j = some d → d.removed = false →
      Kept d.parent ∧ ∃ d', files'.directory? j = some d' ∧ d'.parent = d.parent ∧
        d'.removed = false)
    (h : files.Stands height i) : files'.Stands height i := by
  induction h with
  | root => exact .root
  | inside hj hd hremoved _ ih =>
    obtain ⟨habove, d', hd', hparent, hremoved'⟩ := hkept _ hj _ hi hd hremoved
    exact .inside hj hd' hremoved' (hparent ▸ ih habove)

end Stands

theorem exists_stands_of_namesTo {fuel : Nat} {names : List Bytes}
    (h : files.namesTo fuel i = some names) : ∃ height, files.Stands height i := by
  induction fuel generalizing i names with
  | zero => cases h
  | succ fuel ih =>
    rw [namesTo] at h
    split at h
    · next hi => exact ⟨0, hi ▸ .root⟩
    · next hi =>
      cases hd : files.directory? i with
      | none => simp [hd] at h
      | some d =>
        simp only [hd] at h
        split at h
        · cases h
        · next hkept =>
          obtain ⟨above, habove, -⟩ := Option.map_eq_some_iff.1 h
          obtain ⟨height, hheight⟩ := ih habove
          exact ⟨height + 1, .inside hi hd (by simpa using hkept) hheight⟩

theorem exists_stands_iff :
    (∃ height, files.Stands height i) ↔ (files.namesTo (files.nodes.size + 1) i).isSome := by
  rw [Option.isSome_iff_exists]
  exact ⟨fun ⟨_, h⟩ => h.exists_namesTo (Nat.lt_succ_of_le h.le_size),
    fun ⟨_, h⟩ => exists_stands_of_namesTo h⟩

instance (files : Files) : Decidable files.IsRooted :=
  decidable_of_iff
    (∀ i < files.nodes.size, ∀ d ∈ files.directory? i, d.removed = false →
      (files.namesTo (files.nodes.size + 1) i).isSome) (by
    simp only [← exists_stands_iff]
    exact ⟨fun h i d hd => h i (lt_size (directory?_eq_some_iff.1 hd)) d hd, fun h i _ => h i⟩)

/-! ## One directory more -/

theorem Gains.holder_directory? {node : Node} (h : files.Gains files' parent name node)
    {d : Directory} (hd : files.directory? parent = some d) :
    files'.directory? parent =
      some { d with entries := (name, files.nodes.size) :: d.entries } := by
  obtain ⟨d₀, hd₀, -, hd'⟩ := h.holder
  obtain rfl := Option.some.inj (hd.symm.trans (directory?_eq_some_iff.2 hd₀))
  exact directory?_eq_some_iff.2 hd'

/-- No directory but the one with the new entry is changed, and that one stays where it is. -/
theorem Gains.directory? {node : Node} (h : files.Gains files' parent name node) {i : Inode}
    {d : Directory} (hd : files.directory? i = some d) :
    ∃ d', files'.directory? i = some d' ∧ d'.parent = d.parent ∧ d'.name = d.name ∧
      d'.removed = d.removed ∧ d.entries ⊆ d'.entries := by
  by_cases hi : i = parent
  · subst hi
    exact ⟨_, h.holder_directory? hd, rfl, rfl, rfl, List.subset_cons_self _ _⟩
  · rw [directory?_eq_some_iff] at hd
    have hkept := h.kept i hi (Nat.ne_of_lt (lt_size hd))
    exact ⟨d, directory?_eq_some_iff.2 (hkept.trans hd), rfl, rfl, rfl, fun _ he => he⟩

theorem Gains.namesTo {node : Node} (h : files.Gains files' parent name node) {fuel : Nat}
    {i : Inode} {names : List Bytes} (hnames : files.namesTo fuel i = some names) :
    files'.namesTo fuel i = some names := by
  induction fuel generalizing i names with
  | zero => cases hnames
  | succ fuel ih =>
    rw [Files.namesTo] at hnames ⊢
    split at hnames
    · next hi => rw [if_pos hi]; exact hnames
    · next hi =>
      rw [if_neg hi]
      cases hd : files.directory? i with
      | none => simp [hd] at hnames
      | some d =>
        obtain ⟨d', hd', hparent, hname, hremoved, -⟩ := h.directory? hd
        simp only [hd, hd', hremoved, hparent, hname] at hnames ⊢
        split at hnames
        · cases hnames
        · next hstands =>
          obtain ⟨above, habove, rfl⟩ := Option.map_eq_some_iff.1 hnames
          simp [hstands, ih habove]

theorem Gains.stands {node : Node} (h : files.Gains files' parent name node)
    (hi : files.Stands height i) : files'.Stands height i := by
  refine hi.transfer (fun _ => True) trivial fun j _ d _ hd hkept => ⟨trivial, ?_⟩
  obtain ⟨d', hd', hparent, -, hremoved, -⟩ := h.directory? hd
  exact ⟨d', hd', hparent, hremoved.trans hkept⟩

/-- What was there before is a directory still, or none still. -/
theorem Gains.exists_directory? {node : Node} (h : files.Gains files' parent name node) {i : Inode}
    (hi : i ≠ files.nodes.size) {d' : Directory} (hd' : files'.directory? i = some d') :
    ∃ d, files.directory? i = some d ∧ d'.parent = d.parent ∧ d'.name = d.name ∧
      d'.removed = d.removed ∧ d.entries ⊆ d'.entries := by
  obtain ⟨d, hd⟩ : ∃ d, files.directory? i = some d := by
    by_cases hparent : i = parent
    · obtain ⟨d, hd, -⟩ := h.holder
      exact ⟨d, hparent ▸ directory?_eq_some_iff.2 hd⟩
    · have hsame := h.kept i hparent hi
      exact ⟨d', directory?_eq_some_iff.2 (hsame.symm.trans (directory?_eq_some_iff.1 hd'))⟩
  obtain ⟨d₁, hd₁, hstays⟩ := h.directory? hd
  obtain rfl := Option.some.inj (hd₁.symm.trans hd')
  exact ⟨d, hd, hstays⟩

theorem Gains.size_ne_root {node : Node} (h : files.Gains files' parent name node) :
    files.nodes.size ≠ root := by
  obtain ⟨d, hd, -⟩ := h.holder
  exact Nat.ne_of_gt (Nat.lt_of_le_of_lt (Nat.zero_le _) (lt_size hd))

theorem Gains.isRooted {mode : Nat} (hrooted : files.IsRooted)
    (h : files.Gains files' parent name (.directory { mode, parent, name })) {d : Directory}
    (hd : files.directory? parent = some d) (hkept : d.removed = false) : files'.IsRooted := by
  intro i d' hd' hkept'
  by_cases hnew : i = files.nodes.size
  · subst hnew
    obtain ⟨height, hheight⟩ := hrooted parent d hd hkept
    exact ⟨height + 1,
      .inside h.size_ne_root (directory?_eq_some_iff.2 h.made) rfl (h.stands hheight)⟩
  · obtain ⟨d₀, hd₀, -, -, hremoved, -⟩ := h.exists_directory? hnew hd'
    obtain ⟨height, hheight⟩ := hrooted i d₀ hd₀ (hremoved.symm.trans hkept')
    exact ⟨height, h.stands hheight⟩

/-! ## Paths -/

theorem namesTo_ne_nil {fuel : Nat} {i : Inode} {names : List Bytes} (hi : i ≠ root)
    (h : files.namesTo fuel i = some names) : names ≠ [] := by
  cases fuel with
  | zero => cases h
  | succ fuel =>
    rw [namesTo, if_neg hi] at h
    repeat' split at h
    · cases h
    · cases h
    · obtain ⟨above, -, rfl⟩ := Option.map_eq_some_iff.1 h
      simp

theorem IsRooted.exists_pathOf (h : files.IsRooted) {d : Directory}
    (hd : files.directory? i = some d) (hkept : d.removed = false) :
    ∃ path, files.pathOf i = some path := by
  obtain ⟨names, hnames⟩ := Option.isSome_iff_exists.1 (exists_stands_iff.1 (h i d hd hkept))
  exact ⟨Path.absolute names, by rw [pathOf, hnames]; rfl⟩

/-- The path of a new directory goes through the one it is in. -/
theorem Gains.pathOf {mode : Nat} {path : Bytes} (hroot : parent ≠ root)
    (h : files.Gains files' parent name (.directory { mode, parent, name }))
    (hpath : files.pathOf parent = some path) :
    files'.pathOf files.nodes.size = some (path ++ slash :: name) := by
  obtain ⟨names, hnames, rfl⟩ := Option.map_eq_some_iff.1 hpath
  have habsolute : Path.absolute (names ++ [name]) = Path.absolute names ++ slash :: name := by
    simp [Path.absolute, namesTo_ne_nil hroot hnames]
  rw [Files.pathOf, h.size, Files.namesTo, if_neg h.size_ne_root,
    directory?_eq_some_iff.2 h.made]
  simp [h.namesTo hnames, habsolute]

end Files

end TinyShell
