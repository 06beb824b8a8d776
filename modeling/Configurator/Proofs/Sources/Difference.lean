/-
Exclusions as a set to be taken away. An exclusion removes the paths that have its components when it is seen
from the root, however it is spelled; a list of exclusions that is added to others removes what its paths
remove, whether they become members or equal ones are there already. Main statement: what stays are, in
unchanged order and spelling, the paths that no exclusion removes, and which path, if any, an exclusion removes
below a root.
-/
import Configurator.Proofs.Discovery.Exact
import Configurator.Proofs.Path.Respelling
import Configurator.Proofs.Sources.Exclusion

namespace Configurator.Sources

open Discovery

variable {discovered exclusions : PathSet} {root e p : Path}

/-! ## Single exclusions -/

/-- The exclusion, seen from the root, has the components of the path. -/
def Removes (root e p : Path) : Prop := p.components = (root.join e).components

instance (root e p : Path) : Decidable (Removes root e p) :=
  inferInstanceAs (Decidable (p.components = (root.join e).components))

theorem removes_congr {e' : Path} (h : e.components = e'.components) :
    Removes root e p ↔ Removes root e' p := by
  rw [Removes, Removes, Path.components_join_congr root h]

/-- Behind a root that is not empty an exclusion counts in any spelling. -/
theorem removes_respelled {e' : Path} (hroot : root.bytes ≠ []) (h : e.Respelled e') :
    Removes root e p ↔ Removes root e' p := by
  rw [Removes, Removes, h.components_join hroot]

/-- A set has one spelling of a path at most, so an exclusion removes one member at most. -/
theorem Removes.unique {p' : Path} (hp : p ∈ discovered.toList) (hp' : p' ∈ discovered.toList)
    (h : Removes root e p) (h' : Removes root e p') : p = p' :=
  SortedSet.eq_of_mem_of_eq hp hp' (Path.order_eq_iff.2 (h.trans h'.symm))

/-! ## Lists of exclusions -/

/-- Exclusions that are added remove what they remove one by one, also where an equal one was there. -/
theorem excluded_insertAll_iff {more : List Path} :
    Excluded (exclusions.insertAll more) root p ↔ Excluded exclusions root p ∨ ∃ e ∈ more, Removes root e p := by
  constructor
  · rintro ⟨e, he, hremoves⟩
    have hin : (exclusions.insertAll more).contains e = true :=
      SortedSet.contains_eq_true_iff.2 ⟨e, he, Std.ReflCmp.compare_self⟩
    rcases SortedSet.contains_insertAll_iff.1 hin with hin | ⟨e', he', heq⟩
    · obtain ⟨e', he', heq⟩ := SortedSet.contains_eq_true_iff.1 hin
      exact .inl ⟨e', he', (removes_congr (Path.order_eq_iff.1 heq)).1 hremoves⟩
    · exact .inr ⟨e', he', (removes_congr (Path.order_eq_iff.1 heq)).1 hremoves⟩
  · -- what is named is found in the larger set, in this spelling or another one
    have hfound : ∀ e, Removes root e p → (exclusions.insertAll more).contains e = true →
        Excluded (exclusions.insertAll more) root p := by
      intro e hremoves hin
      obtain ⟨e', he', heq⟩ := SortedSet.contains_eq_true_iff.1 hin
      exact ⟨e', he', (removes_congr (Path.order_eq_iff.1 heq)).1 hremoves⟩
    rintro (⟨e, he, hremoves⟩ | ⟨e, he, hremoves⟩)
    · refine hfound e hremoves (SortedSet.contains_insertAll_iff.2 (.inl ?_))
      exact SortedSet.contains_eq_true_iff.2 ⟨e, he, Std.ReflCmp.compare_self⟩
    · exact hfound e hremoves (SortedSet.contains_insertAll_iff.2 (.inr ⟨e, he, Std.ReflCmp.compare_self⟩))

theorem filter_congr {exclusions' : PathSet}
    (h : ∀ p ∈ discovered.toList, Excluded exclusions root p ↔ Excluded exclusions' root p) :
    filter discovered exclusions root = filter discovered exclusions' root := by
  apply SortedSet.eq_of_mem_iff
  intro p
  rw [mem_filter_iff, mem_filter_iff]
  exact and_congr_right fun hp => not_congr (h p hp)

/-- What stays is the list of the discovered paths without those that some exclusion removes. -/
theorem toList_filter_eq (discovered exclusions : PathSet) (root : Path) :
    (filter discovered exclusions root).toList =
      discovered.toList.filter fun p => ∀ e ∈ exclusions.toList, ¬ Removes root e p := by
  rw [filter, SortedSet.toList_filter]
  refine List.filter_congr fun p _ => ?_
  rw [Bool.eq_iff_iff, Bool.not_eq_true', ← Bool.not_eq_true, contains_resolveExclusions_iff,
    decide_eq_true_eq]
  simp only [Excluded, not_exists, not_and]
  rfl

/-! ## Exclusions and walks -/

/-- The paths of a walk lead through proper names. -/
theorem exists_names_of_mem_files {ws : Workspace} (hwf : ws.tree.WellFormed) {paths : List Path}
    (hfiles : files ws root = .ok paths) (hp : p ∈ paths) :
    ∃ names, names ≠ [] ∧ (∀ n ∈ names, IsName n) ∧ p = spelled root names := by
  rcases hr : ws.resolve root with fault | ⟨place, l | inside⟩
  · rw [files, hr] at hfiles
    cases hfiles
  · rw [files, hr] at hfiles
    cases hfiles
    cases hp
  · have hin := hwf.get? (Workspace.get?_of_resolve hr)
    rcases files_of_dir hin hr with ⟨-, names, hf⟩ | ⟨-, paths', hf, -, hmem⟩
    · rw [hf] at hfiles
      cases hfiles
    · rw [hf] at hfiles
      cases hfiles
      obtain ⟨names, hfile, rfl⟩ := (hmem p).1 hp
      exact ⟨names, hfile.ne_nil, hfile.isName hin, rfl⟩

/-- A relative exclusion that goes up removes nothing that proper names lead to. -/
theorem not_removes_of_up {names : List Name} (hroot : root.bytes ≠ []) (he : e.isAbsolute = false)
    (hup : .up ∈ e.components) (hne : names ≠ []) (hnames : ∀ n ∈ names, IsName n) :
    ¬ Removes root e (spelled root names) := by
  intro h
  rw [Removes, components_spelled hroot hne hnames, Path.components_join hroot he,
    List.append_cancel_left_eq] at h
  have hstep := Path.mem_steps_of_mem_components he hup (by simp)
  rw [← h] at hstep
  obtain ⟨n, -, hn⟩ := List.mem_map.1 hstep
  cases hn

/-- Leaving out takes away, in unchanged order and spelling, exactly the discovered paths that have the
components of some exclusion as seen from the root. An exclusion removes one path at most; exclusions that
remove nothing may be added, and an absolute exclusion is seen as it is from any root. From a root that is not
empty a relative exclusion has the components of the root and then its own without a `.` in front, an exclusion
removes the same in any spelling, and one that goes up removes no path that a walk from the root comes past. -/
theorem filter_difference (discovered exclusions : PathSet) (root : Path) :
    ((filter discovered exclusions root).toList =
      discovered.toList.filter fun p => ∀ e ∈ exclusions.toList, ¬ Removes root e p) ∧
    (∀ e, ∀ p ∈ discovered.toList, ∀ p' ∈ discovered.toList,
      Removes root e p → Removes root e p' → p = p') ∧
    (∀ more : List Path, (∀ e ∈ more, ∀ p ∈ discovered.toList, ¬ Removes root e p) →
      filter discovered (exclusions.insertAll more) root = filter discovered exclusions root) ∧
    (∀ e : Path, e.isAbsolute = true → root.join e = e) ∧
    (root.bytes ≠ [] →
      (∀ e : Path, e.isAbsolute = false →
        (root.join e).components = root.components ++ Path.withoutHere e.components) ∧
      (∀ e e' : Path, e.Respelled e' → ∀ p, Removes root e p ↔ Removes root e' p) ∧
      ∀ (ws : Workspace) (paths : List Path) (e : Path), ws.tree.WellFormed → files ws root = .ok paths →
        e.isAbsolute = false → .up ∈ e.components → ∀ p ∈ paths, ¬ Removes root e p) := by
  refine ⟨toList_filter_eq discovered exclusions root, fun e p hp p' hp' h h' => h.unique hp hp' h',
    fun more hmore => filter_congr fun p hp => ?_, fun e he => Path.join_of_isAbsolute he, fun hroot => ⟨?_, ?_, ?_⟩⟩
  · rw [excluded_insertAll_iff]
    refine ⟨fun h => h.resolve_right ?_, .inl⟩
    rintro ⟨e, he, hremoves⟩
    exact hmore e he p hp hremoves
  · intro e he
    rw [Path.components_join hroot he, Path.withoutHere_components he]
  · exact fun e e' h p => removes_respelled hroot h
  · intro ws paths e hwf hfiles he hup p hp
    obtain ⟨names, hne, hnames, rfl⟩ := exists_names_of_mem_files hwf hfiles hp
    exact not_removes_of_up hroot he hup hne hnames

/-- Two sources below a root that is written with a doubled slash. -/
def doubledSources : PathSet := .ofList [.ofString "s//a.c", .ofString "s//d/b.c"]

/-- The case of one of two sources being excluded, from a root with a doubled slash, by a path that begins with
`./`: neither a path of no source nor one that goes up removes anything. -/
theorem filter_difference_doubled :
    (filter doubledSources (.ofList [.ofString "./d//b.c"]) (.ofString "s//")).toList = [.ofString "s//a.c"] ∧
    filter doubledSources ((SortedSet.ofList [.ofString "./d//b.c"]).insertAll [.ofString "x.c"]) (.ofString "s//") =
      filter doubledSources (.ofList [.ofString "./d//b.c"]) (.ofString "s//") ∧
    (Path.ofString "s//").join (.ofString "/s/a.c") = .ofString "/s/a.c" ∧
    ((Path.ofString "s//").join (.ofString "./d//b.c")).components =
      (Path.ofString "s//").components ++ [.name (Utf8.bytes "d"), .name (Utf8.bytes "b.c")] ∧
    ((Path.ofString "./d//b.c").Respelled (.ofString "d/b.c/") ∧
      ∀ p, Removes (.ofString "s//") (.ofString "./d//b.c") p ↔ Removes (.ofString "s//") (.ofString "d/b.c/") p) ∧
    linked.tree.WellFormed ∧ Component.up ∈ (Path.ofString "../s/a.c").components ∧
    ∃ paths, files linked (.ofString "s//") = .ok paths ∧
      ∀ p ∈ paths, ¬ Removes (.ofString "s//") (.ofString "../s/a.c") p := by
  obtain ⟨hlist, -, hmore, habsolute, hbehind⟩ :=
    filter_difference doubledSources (.ofList [.ofString "./d//b.c"]) (.ofString "s//")
  obtain ⟨hcomponents, hrespelled, hup⟩ := hbehind (by decide +kernel)
  have hspelling : (Path.ofString "./d//b.c").Respelled (.ofString "d/b.c/") := by decide +kernel
  have hwf : linked.tree.WellFormed := by decide
  have hdots : Component.up ∈ (Path.ofString "../s/a.c").components := by decide +kernel
  refine ⟨hlist.trans (by decide +kernel), hmore _ (by decide +kernel), habsolute _ (by decide +kernel),
    (hcomponents _ (by decide +kernel)).trans (by decide +kernel), ⟨hspelling, hrespelled _ _ hspelling⟩,
    hwf, hdots, _, rfl, hup linked _ _ hwf rfl (by decide +kernel) hdots⟩

end Configurator.Sources
