/-!
# Bytes

What a shell handles is bytes; texts of its own become bytes by `utf8`. `lexLe` is the
order of byte strings in which listings are sorted.
-/

namespace TinyShell

abbrev Bytes := List UInt8

/-- The UTF-8 form of a text. -/
def utf8 (s : String) : Bytes := s.toList.flatMap String.utf8EncodeChar

theorem utf8_append (s t : String) : utf8 (s ++ t) = utf8 s ++ utf8 t := by
  simp [utf8]

theorem utf8_eq_nil_iff {s : String} : utf8 s = [] ↔ s = "" := by
  have hchar (c : Char) : String.utf8EncodeChar c ≠ [] := by
    rw [← List.length_pos_iff, String.length_utf8EncodeChar]
    exact c.utf8Size_pos
  simp only [utf8, List.flatMap_eq_nil_iff, hchar, imp_false, ← List.eq_nil_iff_forall_not_mem]
  exact String.toList_eq_nil_iff

/-- Lexicographic order by byte value, a proper beginning coming first. -/
def lexLe : Bytes → Bytes → Bool
  | [], _ => true
  | _ :: _, [] => false
  | a :: as, b :: bs => a < b || (a == b && lexLe as bs)

/-- The sum of a count over a list. -/
def total {α : Type} (count : α → Nat) (xs : List α) : Nat := xs.foldr (count · + ·) 0

@[simp] theorem total_nil {α : Type} (count : α → Nat) : total count [] = 0 := rfl

@[simp] theorem total_cons {α : Type} (count : α → Nat) (x : α) (xs : List α) :
    total count (x :: xs) = count x + total count xs := rfl

/-- The byte `/`. -/
def slash : UInt8 := 0x2F

/-- The byte that ends a line. -/
def newline : UInt8 := 0x0A

/-- The byte that no file name and no program argument may hold. -/
def nul : UInt8 := 0

end TinyShell
