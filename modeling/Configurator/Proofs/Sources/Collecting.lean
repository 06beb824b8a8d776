/-
Collecting sources, path by path. Of the paths with one of the endings, one is at fault where it stands if it is
not text, or else if it has the components of one that stands before it. Main statement: where none is at fault
the set has exactly these paths, each in its own spelling, and else the first one at fault decides the error.
-/
import Configurator.Proofs.Sources.Gathering
import Configurator.Proofs.Text.Decoding

namespace Configurator

/-- A path is text exactly if some text spells it. -/
theorem Path.isText_iff {p : Path} : p.isText = true ↔ ∃ s, p = .ofString s := by
  rw [isText, Utf8.isText_iff]
  constructor
  · rintro ⟨cs, hcs⟩
    refine ⟨.ofList cs, ?_⟩
    rw [ofString, Utf8.bytes, String.toList_ofList, ← hcs]
  · rintro ⟨s, rfl⟩
    exact ⟨s.toList, rfl⟩

namespace Sources

/-! ## Positions at fault -/

/-- The path at a position of a list is at fault. -/
inductive FaultAt (paths : List Path) (i : Nat) : DiscoveryError → Prop
  /-- It is not text. -/
  | undecodable {p : Path} (hp : paths[i]? = some p) (htext : ∀ s, p ≠ .ofString s) :
      FaultAt paths i (.undecodable p.display)
  /-- It is text and has the components of a path before it. -/
  | duplicate {p q : Path} {j : Nat} (hp : paths[i]? = some p) (htext : ∃ s, p = .ofString s) (hj : j < i)
      (hq : paths[j]? = some q) (hsame : q.components = p.components) : FaultAt paths i (.duplicate p)

/-- The position is the first one at fault. -/
structure FirstFault (paths : List Path) (i : Nat) (e : DiscoveryError) : Prop where
  fault : FaultAt paths i e
  first : ∀ j < i, ∀ e', ¬ FaultAt paths j e'

/-- Behind the paths that are gathered already, a path is at fault for what it would be at fault for in the
list. -/
theorem faultAt_of_fault? {before : List Path} {path : Path} {after : List Path} {e : DiscoveryError}
    (h : fault? (SortedSet.empty.insertAll before) path = some e) :
    FaultAt (before ++ path :: after) before.length e := by
  have hp : (before ++ path :: after)[before.length]? = some path := by simp
  unfold fault? at h
  split at h
  · next htext =>
    cases h
    refine .undecodable hp fun s hs => ?_
    rw [Bool.not_eq_true', ← Bool.not_eq_true, Path.isText_iff] at htext
    exact htext ⟨s, hs⟩
  · next htext =>
    split at h
    · next hin =>
      cases h
      rw [Bool.not_eq_true', Bool.not_eq_false, Path.isText_iff] at htext
      rw [SortedSet.contains_insertAll_iff, SortedSet.contains_empty] at hin
      obtain ⟨q, hq, heq⟩ := hin.resolve_left (by simp)
      obtain ⟨j, hj, rfl⟩ := List.getElem_of_mem hq
      refine .duplicate hp htext hj ?_ (Path.order_eq_iff.1 heq).symm
      rw [List.getElem?_append_left hj, List.getElem?_eq_getElem hj]
    · cases h

theorem FaultAt.of_append {before after : List Path} {i : Nat} {e : DiscoveryError}
    (h : FaultAt (before ++ after) i e) (hi : i < before.length) : FaultAt before i e := by
  cases h with
  | undecodable hp htext =>
    rw [List.getElem?_append_left hi] at hp
    exact .undecodable hp htext
  | duplicate hp htext hj hq hsame =>
    rw [List.getElem?_append_left hi] at hp
    rw [List.getElem?_append_left (Nat.lt_trans hj hi)] at hq
    exact .duplicate hp htext hj hq hsame

/-! ## Lists without a fault -/

/-- All paths are text and no two of them have the same components. -/
structure Clean (paths : List Path) : Prop where
  text : ∀ p ∈ paths, ∃ s, p = .ofString s
  apart : paths.Pairwise fun p q => p.components ≠ q.components

theorem faultless_empty_iff {paths : List Path} : Faultless .empty paths ↔ Clean paths := by
  constructor
  · intro h
    refine ⟨fun p hp => Path.isText_iff.1 (h.text p hp), h.apart.imp fun hne heq => hne ?_⟩
    exact Path.order_eq_iff.2 heq
  · intro h
    refine ⟨fun p hp => Path.isText_iff.2 (h.text p hp), fun p _ => SortedSet.contains_empty p,
      h.apart.imp fun hne heq => hne ?_⟩
    exact Path.order_eq_iff.1 heq

theorem Clean.not_faultAt {paths : List Path} (h : Clean paths) (i : Nat) (e : DiscoveryError) :
    ¬ FaultAt paths i e := by
  rintro (⟨hp, htext⟩ | ⟨hp, -, hj, hq, hsame⟩)
  · obtain ⟨s, hs⟩ := h.text _ (List.mem_of_getElem? hp)
    exact htext s hs
  · obtain ⟨hi, rfl⟩ := List.getElem?_eq_some_iff.1 hp
    obtain ⟨hj', rfl⟩ := List.getElem?_eq_some_iff.1 hq
    exact List.pairwise_iff_getElem.1 h.apart _ _ hj' hi hj hsame

/-! ## The set that is collected -/

theorem collect_of_clean {paths : List Path} {extensions : ExtensionSet}
    (h : Clean (paths.filter extensions.admits)) :
    collect paths extensions = .ok (.ofList (paths.filter extensions.admits)) := by
  rw [collect_eq, gather_snd_eq_none_iff.2 (faultless_empty_iff.2 h)]

theorem toList_ofList_perm {paths : List Path} (h : Clean paths) :
    (SortedSet.ofList paths : PathSet).toList.Perm paths := by
  have hapart := (faultless_empty_iff.2 h).apart
  have hnodup : paths.Nodup := h.apart.imp fun hne heq => hne (congrArg Path.components heq)
  exact (List.perm_ext_iff_of_nodup (SortedSet.nodup_toList _) hnodup).2 fun p => mem_ofList_iff hapart

theorem collect_of_not_clean {paths : List Path} {extensions : ExtensionSet}
    (h : ¬ Clean (paths.filter extensions.admits)) :
    ∃ i e, FirstFault (paths.filter extensions.admits) i e ∧ collect paths extensions = .error e := by
  rw [collect_eq]
  cases hg : (gather .empty (paths.filter extensions.admits)).2 with
  | none => exact absurd (faultless_empty_iff.1 (gather_snd_eq_none_iff.1 hg)) h
  | some e =>
    obtain ⟨before, path, after, hsplit, hbefore, hfault⟩ := exists_of_gather_eq_some hg
    rw [hsplit]
    -- the paths before the one that ended the gathering could all be added
    refine ⟨before.length, e, ⟨faultAt_of_fault? hfault, fun j hj e' hj' => ?_⟩, rfl⟩
    exact (faultless_empty_iff.1 hbefore).not_faultAt j e' (hj'.of_append hj)

theorem admits_iff {extensions : ExtensionSet} {p : Path} :
    extensions.admits p = true ↔ ∃ name, p.fileName? = some name ∧
      ∃ ending ∈ extensions.toList, ending.toList <:+ (Utf8.decodeLossy name).toList := by
  unfold ExtensionSet.admits
  cases p.fileName? with
  | none => simp
  | some name => simp [endsWith]

/-- Only the paths matter that have a file name which, as it is shown, ends with one of the endings; a path
without a file name is none of them. If all of these are text and no two of them have the same components,
collecting gives a set with exactly these paths in their own spelling, strictly ascending by their components; else
it gives the error of the first of them that is at fault. -/
theorem collect_exact (paths : List Path) (extensions : ExtensionSet) :
    let candidates := paths.filter extensions.admits
    ((∀ p, p ∈ candidates ↔ p ∈ paths ∧ ∃ name, p.fileName? = some name ∧
        ∃ ending ∈ extensions.toList, ending.toList <:+ (Utf8.decodeLossy name).toList) ∧
      ∀ p ∈ [Path.ofString "..", .ofString "/", .ofString ""], p ∉ candidates) ∧
    (Clean candidates → ∃ sources, collect paths extensions = .ok sources ∧
      sources.toList.Perm candidates ∧ sources.toList.Pairwise fun p q => Path.order p q = .lt) ∧
    (¬ Clean candidates → ∃ i e, FirstFault candidates i e ∧ collect paths extensions = .error e) ∧
    ∀ paths' : List Path, paths'.filter extensions.admits = candidates →
      collect paths' extensions = collect paths extensions := by
  intro candidates
  have hmem : ∀ p, p ∈ candidates ↔ p ∈ paths ∧ ∃ name, p.fileName? = some name ∧
      ∃ ending ∈ extensions.toList, ending.toList <:+ (Utf8.decodeLossy name).toList := by
    intro p
    rw [List.mem_filter, admits_iff]
  refine ⟨⟨hmem, fun p hp hin => ?_⟩, fun h => ?_, collect_of_not_clean, fun paths' h => ?_⟩
  · have hnone : ∀ p ∈ [Path.ofString "..", .ofString "/", .ofString ""], p.fileName? = none := by
      decide +kernel
    obtain ⟨-, name, hname, -⟩ := (hmem p).1 hin
    rw [hnone p hp] at hname
    cases hname
  · exact ⟨_, collect_of_clean h, toList_ofList_perm h, SortedSet.ascending _⟩
  · rw [collect_eq, collect_eq, h]

/-- A path without the ending, two spellings of one source, and a source whose name is not text. -/
def repeatedSources : List Path :=
  [.ofString "s/a.h", .ofString "s/a.c", .ofString "s/./a.c", ⟨[0x73, 0x2F, 0xFF, 0x2E, 0x63]⟩]

/-- The case of these paths: the second spelling is the first one at fault, and up to it the source is collected. -/
theorem collect_exact_repeated :
    (∃ sources, collect (repeatedSources.take 2) (.ofList [".c"]) = .ok sources ∧
      sources.toList.Perm [.ofString "s/a.c"]) ∧
    ∃ i, FirstFault (repeatedSources.filter (ExtensionSet.admits (.ofList [".c"]))) i
        (.duplicate (.ofString "s/./a.c")) ∧
      collect repeatedSources (.ofList [".c"]) = .error (.duplicate (.ofString "s/./a.c")) := by
  constructor
  · have hcandidates : (repeatedSources.take 2).filter (ExtensionSet.admits (.ofList [".c"])) =
        [.ofString "s/a.c"] := by decide +kernel
    obtain ⟨-, hok, -⟩ := collect_exact (repeatedSources.take 2) (.ofList [".c"])
    rw [hcandidates] at hok
    obtain ⟨sources, hcollect, hperm, -⟩ := hok ⟨by simp, List.pairwise_singleton _ _⟩
    exact ⟨sources, hcollect, hperm⟩
  · have hcandidates : repeatedSources.filter (ExtensionSet.admits (.ofList [".c"])) =
        repeatedSources.drop 1 := by decide +kernel
    have hfails : collect repeatedSources (.ofList [".c"]) = .error (.duplicate (.ofString "s/./a.c")) := by rfl
    obtain ⟨-, -, herror, -⟩ := collect_exact repeatedSources (.ofList [".c"])
    rw [hcandidates] at herror ⊢
    obtain ⟨i, e, hfirst, he⟩ := herror fun hclean =>
      (List.pairwise_cons.1 hclean.apart).1 (.ofString "s/./a.c") (by simp) (by decide +kernel)
    cases hfails.symm.trans he
    exact ⟨i, hfirst, hfails⟩

end Sources

end Configurator
