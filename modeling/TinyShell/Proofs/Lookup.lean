import TinyShell.Proofs.Resolved

/-!
# What a name stands for

A name with a `/` is a path, and stands for itself if following it leads anywhere. Any other
stands for the first program among its candidates, one in each entry of the search list.
`Search.find?_spec` says so without the components of paths by which `Search.find?` tells the
two apart.
-/

namespace TinyShell

namespace Search

/-! ## Search lists -/

/-- The entries of a search list, empty ones among them: what its colons divide. -/
def Divides (search : Bytes) (entries : List Bytes) : Prop :=
  entries ≠ [] ∧ (∀ entry ∈ entries, colon ∉ entry) ∧ [colon].intercalate entries = search

theorem directories_eq_iff (search : Bytes) (entries : List Bytes) :
    directories search = entries ↔ Divides search entries := by
  constructor
  · rintro rfl
    exact ⟨List.splitOn_ne_nil colon search, fun entry h => not_mem_of_mem_splitOn h,
      List.intercalate_splitOn colon⟩
  · rintro ⟨hne, hcolon, rfl⟩
    exact List.splitOn_intercalate colon hcolon hne

/-- An entry can be left out, if it is not the only one. -/
theorem Divides.leaveOut {search entry : Bytes} {before after : List Bytes}
    (h : Divides search (before ++ entry :: after)) (hne : before ++ after ≠ []) :
    Divides ([colon].intercalate (before ++ after)) (before ++ after) := by
  refine ⟨hne, fun other hm => h.2.1 other ?_, rfl⟩
  rcases List.mem_append.1 hm with hm | hm <;> simp [hm]

/-! ## Candidates -/

/-- The text of the candidate in an entry. -/
theorem join_eq (entry name : Bytes) :
    Path.join entry name =
      entry ++ (if entry = [] ∨ entry.getLast? = some slash then [] else [slash]) ++ name := by
  simp only [Path.join, Path.endsWithSlash, Bool.or_eq_true, List.isEmpty_iff, beq_iff_eq]
  split <;> simp

theorem anyExecute_iff (mode : Nat) :
    anyExecute mode = true ↔ ∃ bit ∈ [0, 3, 6], mode.testBit bit = true := by
  rw [anyExecute, bne_iff_ne]
  constructor
  · intro h
    obtain ⟨bit, hbit⟩ := Nat.exists_testBit_of_ne_zero h
    rw [Nat.testBit_and, Bool.and_eq_true] at hbit
    have hlt : bit < 7 := by
      refine Nat.lt_of_not_le fun hle => ?_
      have hzero := Nat.testBit_lt_two_pow (show 0o111 < 2 ^ bit from
        Nat.lt_of_lt_of_le (by decide : 0o111 < 2 ^ 7) (Nat.pow_le_pow_right (by decide) hle))
      rw [hzero] at hbit
      exact Bool.noConfusion hbit.2
    have hmask : ∀ bit < 7, Nat.testBit 0o111 bit = true → bit ∈ [0, 3, 6] := by decide
    exact ⟨bit, hmask bit hlt hbit.2, hbit.1⟩
  · rintro ⟨bit, hmem, hbit⟩ hzero
    have hmask : ∀ bit ∈ [0, 3, 6], Nat.testBit 0o111 bit = true := by decide
    have h := Nat.testBit_and mode 0o111 bit
    rw [hzero, hbit, hmask bit hmem, Nat.zero_testBit] at h
    exact Bool.noConfusion h

variable (files : Files) (cwd : Inode)

/-- Following the path leads to this node. -/
def Reaches (path : Bytes) (node : Node) : Prop :=
  nul ∉ path ∧ ∃ i, files.find cwd path = .ok i ∧ files.node? i = some node

/-- Following the path leads to a regular file that the owner, the group or others may
execute. -/
def IsProgram (path : Bytes) : Prop :=
  ∃ mode content, Reaches files cwd path (.file mode content) ∧
    ∃ bit ∈ [0, 3, 6], mode.testBit bit = true

theorem examine_eq_some_iff (path : Bytes) (node : Node) :
    examine files cwd path = some node ↔ Reaches files cwd path node := by
  unfold examine Reaches
  cases files.find cwd path <;> by_cases hnul : nul ∈ path <;> simp [hnul]

theorem isProgram_examine (path : Bytes) :
    (examine files cwd path).any isProgram = true ↔ IsProgram files cwd path := by
  simp only [Option.any_eq_true, examine_eq_some_iff, IsProgram]
  constructor
  · rintro ⟨node, hreaches, hprogram⟩
    cases node <;> simp only [isProgram, Bool.false_eq_true] at hprogram
    exact ⟨_, _, hreaches, (anyExecute_iff _).1 hprogram⟩
  · rintro ⟨mode, content, hreaches, hbit⟩
    exact ⟨_, hreaches, (anyExecute_iff mode).2 hbit⟩

/-! ## Finding -/

theorem asPath_eq_some_iff (name path : Bytes) :
    asPath files cwd name = some path ↔ path = name ∧ ∃ node, Reaches files cwd name node := by
  have hsome : (examine files cwd name).isSome = true ↔ ∃ node, Reaches files cwd name node := by
    simp only [Option.isSome_iff_exists, examine_eq_some_iff]
  rw [asPath, ← hsome]
  split
  · next h => simp [h, eq_comm]
  · next h => simp [h]

theorem onPath_eq_some_iff (search name path : Bytes) :
    onPath files cwd search name = some path ↔
      ∃ before entry after, directories search = before ++ entry :: after ∧
        path = Path.join entry name ∧ IsProgram files cwd path ∧
        ∀ passed ∈ before, ¬ IsProgram files cwd (Path.join passed name) := by
  rw [onPath_eq, Option.map_eq_some_iff]
  simp only [directory?, List.find?_eq_some_iff_append, isProgram_examine, Bool.not_eq_true',
    ← Bool.not_eq_true]
  constructor
  · rintro ⟨entry, ⟨hprogram, before, after, hentries, hpassed⟩, rfl⟩
    exact ⟨before, entry, after, hentries, rfl, hprogram, hpassed⟩
  · rintro ⟨before, entry, after, hentries, rfl, hprogram, hpassed⟩
    exact ⟨entry, ⟨hprogram, before, after, hentries, hpassed⟩, rfl⟩

theorem onPath_eq_none_iff (search name : Bytes) :
    onPath files cwd search name = none ↔
      ∀ entry ∈ directories search, ¬ IsProgram files cwd (Path.join entry name) := by
  rw [onPath_eq, Option.map_eq_none_iff, directory?, List.find?_eq_none]
  simp only [isProgram_examine]

/-- What cannot be examined is no program. -/
theorem not_isProgram {path : Bytes}
    (h : nul ∈ path ∨ ∃ e, files.find cwd path = .error e) : ¬ IsProgram files cwd path := by
  rintro ⟨mode, content, ⟨hnul, i, hi, -⟩, -⟩
  rcases h with h | ⟨e, he⟩
  · exact hnul h
  · rw [hi] at he; cases he

/-- An entry whose candidate is no program might as well not be there. -/
theorem find?_leaveOut {search name entry : Bytes} {before after : List Bytes}
    (h : Divides search (before ++ entry :: after)) (hne : before ++ after ≠ [])
    (hentry : ¬ IsProgram files cwd (Path.join entry name)) :
    find? files cwd search name = find? files cwd ([colon].intercalate (before ++ after)) name := by
  have hlong := (directories_eq_iff _ _).2 h
  have hshort := (directories_eq_iff _ _).2 (h.leaveOut hne)
  have hfalse : (examine files cwd (Path.join entry name)).any isProgram = false := by
    rw [← Bool.not_eq_true, isProgram_examine]; exact hentry
  simp only [find?_eq, onPath_eq, directory?, hlong, hshort, List.find?_append, List.find?_cons,
    hfalse]

end Search

theorem Command.resolve_eq_error_iff {w : World} {search : Bytes} {argv : List Bytes}
    {e : LaunchError} :
    resolve w search argv = .error e ↔
      Search.find? w.files w.cwd search (nameOf argv) = none ∧
        e = .notFound (Utf8.lossy (nameOf argv)) := by
  unfold resolve
  split
  · next h => simp [h]
  · next h => simp [h, eq_comm]

namespace Search

/-- The path that a name stands for: none for no name at all, the name itself if it has a `/`
and leads anywhere, and otherwise its first candidate that is a program. A candidate that
cannot be examined is passed over. A command is not found just if its name stands for no
path. -/
theorem find?_spec (w : World) (search name : Bytes) (args : List Bytes) :
    let found := find? w.files w.cwd search name
    let candidate (entry : Bytes) : Bytes :=
      entry ++ (if entry = [] ∨ entry.getLast? = some slash then [] else [slash]) ++ name
    (name = [] → found = none) ∧
    (slash ∈ name → ∀ path, found = some path ↔
      path = name ∧ ∃ node, Reaches w.files w.cwd name node) ∧
    (name ≠ [] → slash ∉ name →
      (∀ path, found = some path ↔ ∃ before entry after,
        Divides search (before ++ entry :: after) ∧ path = candidate entry ∧
        IsProgram w.files w.cwd path ∧
        ∀ passed ∈ before, ¬ IsProgram w.files w.cwd (candidate passed)) ∧
      (found = none ↔ ∃ entries, Divides search entries ∧
        ∀ entry ∈ entries, ¬ IsProgram w.files w.cwd (candidate entry))) ∧
    (∀ before entry after,
      Divides search (before ++ entry :: after) → before ++ after ≠ [] →
      (nul ∈ candidate entry ∨ ∃ e, w.files.find w.cwd (candidate entry) = .error e) →
      found = find? w.files w.cwd ([colon].intercalate (before ++ after)) name) ∧
    ∀ e, Command.resolve w search (name :: args) = .error e ↔
      found = none ∧ e = .notFound (Utf8.lossy name) := by
  intro found candidate
  have hjoin (entry : Bytes) : candidate entry = Path.join entry name := (join_eq entry name).symm
  simp only [hjoin, ← directories_eq_iff]
  refine ⟨?_, ?_, ?_, ?_, fun e => Command.resolve_eq_error_iff⟩
  · rintro rfl
    simp [found, find?_eq]
  · intro hslash path
    rw [← asPath_eq_some_iff]
    simp only [found, find?_eq, if_pos hslash]
  · intro hne hslash
    have hfound : found = onPath w.files w.cwd search name := by
      simp only [found, find?_eq, if_neg hslash, if_neg hne]
    rw [hfound, onPath_eq_none_iff]
    exact ⟨onPath_eq_some_iff w.files w.cwd search name, by simp⟩
  · intro before entry after hentries hne h
    exact find?_leaveOut w.files w.cwd ((directories_eq_iff _ _).1 hentries) hne
      (not_isProgram w.files w.cwd h)

/-- The first directory is missing, and what stands in the second is found. -/
theorem find?_spec_second :
    let w := Command.namesakes
    let search := utf8 "missing:/bin:"
    utf8 "true" ≠ [] ∧ slash ∉ utf8 "true" ∧
      find? w.files w.cwd search (utf8 "true") = some (utf8 "/bin/true") := by
  intro w search
  have hne : utf8 "true" ≠ [] := by decide
  have hslash : slash ∉ utf8 "true" := by decide
  have hmissing : ¬ IsProgram w.files w.cwd (utf8 "missing/true") :=
    not_isProgram _ _ (.inr ⟨.noEntry, rfl⟩)
  have hprogram : IsProgram w.files w.cwd (utf8 "/bin/true") :=
    ⟨0o755, utf8 "there", ⟨by decide, 3, rfl, rfl⟩, 6, by decide, by decide⟩
  refine ⟨hne, hslash, (((find?_spec w search (utf8 "true") []).2.2.1 hne hslash).1 _).2 ?_⟩
  refine ⟨[utf8 "missing"], utf8 "/bin", [[]], ⟨by simp, by decide, rfl⟩, rfl, hprogram, ?_⟩
  intro passed hpassed
  rw [List.mem_singleton.1 hpassed]
  exact hmissing

end Search

end TinyShell
