/-
Leaving sources out. An exclusion is resolved against the root, and takes away the path that has the
same components. Main statement: what stays are the discovered paths that no exclusion names.
-/
import Configurator.Proofs.Container.Members
import Configurator.Sources

namespace Configurator.Sources

/-- Some exclusion, seen from the root, has the components of the path. -/
def Excluded (exclusions : PathSet) (root p : Path) : Prop :=
  ∃ e ∈ exclusions.toList, p.components = (root.join e).components

variable {discovered exclusions : PathSet} {root : Path}

theorem contains_resolveExclusions_iff {p : Path} :
    (resolveExclusions exclusions root).contains p = true ↔ Excluded exclusions root p := by
  rw [resolveExclusions, SortedSet.contains_ofListLast_iff]
  constructor
  · rintro ⟨q, hq, heq⟩
    obtain ⟨e, he, rfl⟩ := List.mem_map.1 hq
    exact ⟨e, he, Path.order_eq_iff.1 heq⟩
  · rintro ⟨e, he, heq⟩
    exact ⟨root.join e, List.mem_map.2 ⟨e, he, rfl⟩, Path.order_eq_iff.2 heq⟩

theorem mem_filter_iff {p : Path} :
    p ∈ (filter discovered exclusions root).toList ↔
      p ∈ discovered.toList ∧ ¬ Excluded exclusions root p := by
  rw [filter, SortedSet.toList_filter, List.mem_filter, Bool.not_eq_true', ← Bool.not_eq_true,
    contains_resolveExclusions_iff]

theorem isEmpty_filter_iff :
    (filter discovered exclusions root).isEmpty = true ↔
      ∀ p ∈ discovered.toList, Excluded exclusions root p := by
  rw [SortedSet.isEmpty, List.isEmpty_iff, List.eq_nil_iff_forall_not_mem]
  simp only [mem_filter_iff, not_and, not_not]

end Configurator.Sources
