/-
Cutting a list at a separator. The pieces are what stands between the separators, so there is always
one piece more than there are separators. Main statement: the pieces joined by the separator are the
list again.
-/

namespace Configurator.Text

universe u

variable {α : Type u} [DecidableEq α]

/-- The pieces of a list between its separators. -/
def pieces (sep : α) : List α → List (List α)
  | [] => [[]]
  | a :: rest =>
    if a = sep then [] :: pieces sep rest
    else
      match pieces sep rest with
      | [] => [[a]]
      | piece :: others => (a :: piece) :: others

theorem pieces_ne_nil (sep : α) (l : List α) : pieces sep l ≠ [] := by
  cases l with
  | nil => simp [pieces]
  | cons a rest =>
    simp only [pieces]
    split
    · simp
    · split <;> simp

theorem pieces_of_notMem {sep : α} {l : List α} (h : sep ∉ l) : pieces sep l = [l] := by
  induction l with
  | nil => rfl
  | cons a rest ih =>
    obtain ⟨ha, hrest⟩ := not_or.1 (fun hm => h (List.mem_cons.2 hm))
    simp only [pieces, if_neg (Ne.symm ha), ih hrest]

theorem pieces_append_sep (sep : α) (l r : List α) :
    pieces sep (l ++ sep :: r) = pieces sep l ++ pieces sep r := by
  induction l with
  | nil => simp [pieces]
  | cons a rest ih =>
    simp only [List.cons_append, pieces, ih]
    split
    · rfl
    · cases hp : pieces sep rest with
      | nil => exact absurd hp (pieces_ne_nil sep rest)
      | cons piece others => rfl

/-- The pieces joined by the separator are the list again. -/
theorem intercalate_pieces (sep : α) (l : List α) : [sep].intercalate (pieces sep l) = l := by
  induction l with
  | nil => simp [pieces, List.intercalate]
  | cons a rest ih =>
    simp only [pieces]
    split
    · next h =>
      cases hp : pieces sep rest with
      | nil => exact absurd hp (pieces_ne_nil sep rest)
      | cons piece others => simp_all [List.intercalate]
    · split
      · next hp => exact absurd hp (pieces_ne_nil sep rest)
      · next piece others hp =>
        cases others <;> simp_all [List.intercalate]

end Configurator.Text
