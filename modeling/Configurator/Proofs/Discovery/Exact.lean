/-
Searches below a directory are exact. Links of every kind may stand below the root, and the root may be
spelled in any way. Main statement: a search below a directory fails as a walk only where a directory
cannot be read, never finds a path twice, and what it gives are the sources and nothing else.
-/
import Configurator.Proofs.Discovery.Spelling

namespace Configurator.Discovery

/-- Below a root that leads to a directory, a search fails as a walk exactly if some directory cannot be
read, and never because of a repeated path. Where it gives a set, the members are exactly the sources,
each of them once and in strictly ascending order; and it gives one if every directory can be read and
every source has a path that is text. -/
theorem discover_exact {ws : Workspace} {root : Path} {place : List Name} {inside : Tree}
    (hwf : ws.tree.WellFormed) (hr : ws.resolve root = .ok ⟨place, .dir inside⟩)
    (extensions : ExtensionSet) :
    ((∃ r detail, discover ws root extensions = .error (.walk r detail)) ↔ ¬ Readable root inside) ∧
      (∀ p, discover ws root extensions ≠ .error (.duplicate p)) ∧
      (∀ sources, discover ws root extensions = .ok sources →
        (∀ p, p ∈ sources.toList ↔ IsSource ws root inside extensions p) ∧ sources.toList.Nodup ∧
          sources.toList.Pairwise (fun p q => Path.order p q = .lt)) ∧
      ((∃ sources, discover ws root extensions = .ok sources) ↔
        Readable root inside ∧ ∀ p, IsSource ws root inside extensions p → p.isText = true) := by
  refine ⟨?_, discover_ne_duplicate hwf, ?_, ?_⟩
  · rw [discover_walk_iff hwf, readableBelow_iff hr]
    simp [hr]
  · intro sources hfound
    refine ⟨fun p => ?_, sources.nodup_toList, sources.ascending⟩
    rw [mem_discover_iff hwf hfound, matches_iff hr]
  · rw [discover_ok_iff hwf, readableBelow_iff hr]
    simp [hr, matches_iff hr]

/-- A directory and a file in it, both named like a source, and links to the file, to the directory they
are in, to nowhere and to themselves. -/
def links : Tree :=
  .dir [0x77, 0x2E, 0x63] (.leaf [0x69, 0x2E, 0x63] (.file [] false) .empty)
    (.leaf [0x61, 0x2E, 0x63] (.file [] false)
      (.leaf [0x62, 0x2E, 0x63] (.link [0x61, 0x2E, 0x63])
        (.leaf [0x64, 0x2E, 0x63] (.link [0x2E])
          (.leaf [0x65, 0x2E, 0x63] (.link [0x65, 0x2E, 0x63])
            (.leaf [0x66, 0x2E, 0x63] (.link [0x67]) .empty)))))

/-- The workspace with these entries in a directory `s`. -/
def linked : Workspace where
  tree := .dir [0x73] links .empty
  here := []

/-- The case of a root written with a doubled slash, in a tree with links of every kind. -/
theorem discover_exact_linked :
    linked.tree.WellFormed ∧ linked.resolve ⟨[0x73, 0x2F, 0x2F]⟩ = .ok ⟨[[0x73]], .dir links⟩ ∧
      ∃ sources, discover linked ⟨[0x73, 0x2F, 0x2F]⟩ (.ofList [".c"]) = .ok sources ∧
        ∀ p, p ∈ sources.toList ↔ IsSource linked ⟨[0x73, 0x2F, 0x2F]⟩ links (.ofList [".c"]) p := by
  have hwf : linked.tree.WellFormed := by decide
  have hr : linked.resolve ⟨[0x73, 0x2F, 0x2F]⟩ = .ok ⟨[[0x73]], .dir links⟩ := by rfl
  have hexact := discover_exact hwf hr (.ofList [".c"])
  refine ⟨hwf, hr, _, by rfl, ?_⟩
  exact (hexact.2.2.1 _ (by rfl)).1

/-! ## A spelling that is too long -/

/-- A link to the directory it is in, named like a source. -/
def selfLink : Tree := .leaf [0x6C, 0x2E, 0x63] (.link [0x2E]) .empty

/-- The workspace with this entry in a directory `s`. -/
def selfLinked : Workspace where
  tree := .dir [0x73] selfLink .empty
  here := []

theorem eq_of_get?_selfLink {names : List Name} {e : Entry} (hne : names ≠ [])
    (h : selfLink.get? names = some e) : names = [[0x6C, 0x2E, 0x63]] ∧ e = .leaf (.link [0x2E]) := by
  have hwalk := (Tree.mem_walk_iff (by decide)).2 ⟨hne, h⟩
  simpa [selfLink, Tree.walk] using hwalk

/-- Followed part by part, the path of the link leads to the directory, however the root is spelled. -/
theorem follow_selfLink :
    selfLinked.follow (spelled longRoot [[0x6C, 0x2E, 0x63]]) = .ok ⟨[[0x73]], .dir selfLink⟩ := by
  rw [longRoot, spelled_dotted (by simp), Workspace.follow_dotted rfl rfl (by simp [spelled])]
  rfl

/-- Without a bound on the paths a search can give a link to a directory: below the long spelling of a directory,
where every directory can be read, it gives the link to it. -/
theorem discover_link_longRoot :
    (selfLinked.tree.WellFormed ∧ selfLinked.resolve longRoot = .ok ⟨[[0x73]], .dir selfLink⟩ ∧
      Readable longRoot selfLink) ∧
    ∃ sources, discover selfLinked longRoot (.ofList [".c"]) = .ok sources ∧
      ¬ ∀ p, p ∈ sources.toList ↔ ∃ names name l, selfLink.get? (names ++ [name]) = some (.leaf l) ∧
        (∀ target, l = .link target → ∀ place inside,
          selfLinked.follow (spelled longRoot (names ++ [name])) ≠ .ok ⟨place, .dir inside⟩) ∧
        p = spelled longRoot (names ++ [name]) ∧
        ∃ ending ∈ (SortedSet.ofList [".c"] : ExtensionSet).toList,
          endsWith (Utf8.decodeLossy name) ending = true := by
  have hwf : selfLinked.tree.WellFormed := by decide
  have hr : selfLinked.resolve longRoot = .ok ⟨[[0x73]], .dir selfLink⟩ := resolve_longRoot rfl rfl
  have hread : Readable longRoot selfLink := by
    intro names sub hne hdir
    cases (eq_of_get?_selfLink hne hdir).2
  -- the one path that there is to find is text
  have htext : ∀ p, Matches selfLinked longRoot (.ofList [".c"]) p → p.isText = true := by
    intro p hp
    obtain ⟨names, name, ⟨l, hl, -⟩, rfl, -⟩ := (matches_iff hr _ p).1 hp
    rw [(eq_of_get?_selfLink (by simp) hl).1, isText_spelled isText_longRoot]
    decide +kernel
  obtain ⟨sources, hfound⟩ :=
    (discover_ok_iff hwf).2 ⟨⟨_, hr⟩, (readableBelow_iff hr).2 hread, htext⟩
  refine ⟨⟨hwf, hr, hread⟩, sources, hfound, fun hall => ?_⟩
  have hsource : IsSource selfLinked longRoot selfLink (.ofList [".c"])
      (spelled longRoot [[0x6C, 0x2E, 0x63]]) :=
    ⟨[], _, ⟨_, rfl, fun _ _ => isDirectory_spelled_longRoot (by decide)⟩, rfl, ".c", by decide, by decide +kernel⟩
  have hmem := (mem_discover_iff hwf hfound _).2 ((matches_iff hr _ _).2 hsource)
  obtain ⟨names, name, l, hl, hno, -, -⟩ := (hall _).1 hmem
  obtain ⟨hnames, hlink⟩ := eq_of_get?_selfLink (by simp) hl
  cases hlink
  rw [hnames] at hno
  exact hno _ rfl _ _ follow_selfLink

end Configurator.Discovery
