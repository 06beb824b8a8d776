/-
The lines of an input. A line goes up to and including its newline; what stands behind the last newline
is a line, too. Main statement: an input that is not empty is its first line, as it is cut off for a
question, and the lines of what is left.
-/
import Configurator.Dialogue.Console

namespace Configurator.Console

/-- The lines of an input, their ends included. -/
def lines : Bytes → List Bytes
  | [] => []
  | b :: rest =>
    if b = newline then [b] :: lines rest
    else
      match lines rest with
      | [] => [[b]]
      | line :: others => (b :: line) :: others

@[simp] theorem lines_nil : lines [] = [] := rfl

/-- Put together, the lines are the input again. -/
theorem flatten_lines (bs : Bytes) : (lines bs).flatten = bs := by
  induction bs with
  | nil => rfl
  | cons b rest ih =>
    simp only [lines]
    split
    · simp [ih]
    · split
      · next hl =>
        rw [hl] at ih
        simpa using ih
      · next line others hl =>
        rw [hl] at ih
        simpa using ih

/-- The line that is cut off for a question is the first of the lines. -/
theorem lines_eq_cutLine {bs : Bytes} (h : bs ≠ []) :
    lines bs = (cutLine bs).1 :: lines (cutLine bs).2 := by
  induction bs with
  | nil => exact absurd rfl h
  | cons b rest ih =>
    simp only [lines, cutLine]
    split
    · rfl
    · by_cases hrest : rest = []
      · simp [hrest, cutLine]
      · rw [ih hrest]

/-- There is a line exactly in an input that is not empty. -/
theorem lines_eq_nil_iff (bs : Bytes) : lines bs = [] ↔ bs = [] := by
  constructor
  · intro h
    rw [← flatten_lines bs, h, List.flatten_nil]
  · rintro rfl
    rfl

theorem lines_flatten_of_cons {bs line : Bytes} {rest : List Bytes} (h : lines bs = line :: rest) :
    lines rest.flatten = rest := by
  have hne : bs ≠ [] := by
    rintro rfl
    cases h
  rw [lines_eq_cutLine hne] at h
  obtain ⟨-, rfl⟩ := List.cons.inj h
  rw [flatten_lines]

end Configurator.Console
