/-
Sources as tokens of a command line. A source is found below the root and spelled like the root and then the names
that lead to it, so the root alone decides how its token begins. Main statement: the tokens of a plan are the
selected paths, byte for byte, and none of them looks like an option unless the root does.
-/
import Configurator.Proofs.Plan.Outcome
import Configurator.Proofs.Text.Decoding

namespace Configurator.Plan

open Discovery Sources

variable {ws : Workspace} {config : Config} {profile : Profile} {i : Invocation}

/-- What is selected are sources below the root, and their paths are text. -/
theorem matches_of_mem_sources (hwf : ws.tree.WellFormed) {selected : PathSet}
    (h : sources ws config = .ok selected) {p : Path} (hp : p ∈ selected.toList) :
    Matches ws config.sourceRoot config.extensions p ∧ p.isText = true := by
  rw [sources] at h
  cases hd : discover ws config.sourceRoot config.extensions with
  | error e =>
    rw [hd] at h
    cases h
  | ok found =>
    rw [hd] at h
    cases h
    obtain ⟨hfound, -⟩ := mem_filter_iff.1 hp
    have hmatches := (mem_discover_iff hwf hd p).1 hfound
    obtain ⟨-, -, htext⟩ := (discover_ok_iff hwf).1 ⟨found, hd⟩
    exact ⟨hmatches, htext p hmatches⟩

theorem head?_spelled {root : Path} (hroot : root.bytes ≠ []) (names : List Name) :
    (spelled root names).bytes.head? = root.bytes.head? := by
  obtain ⟨b, rest, hb⟩ := List.exists_cons_of_ne_nil hroot
  simp [spelled, hb]

/-- A plan has a token for each selected source, in the order of their set and with the bytes of its path, and it has
one at least. The root leads to a directory, and every token is the root as it is configured, a slash unless the
root ends in one, and the names that lead from the directory to an entry that is no directory and no link to one. So
a token begins with a dash exactly if the root does. -/
theorem plan_tokens (hwf : ws.tree.WellFormed) (h : (make ws config profile).invocation = .ok i) :
    ∃ (selected : PathSet) (place : List Name) (inside : Tree),
      sources ws config = .ok selected ∧ i.sources.map Utf8.bytes = selected.toList.map Path.bytes ∧
      i.sources ≠ [] ∧ ws.resolve config.sourceRoot = .ok ⟨place, .dir inside⟩ ∧
      ∀ token ∈ i.sources,
        (∃ names, names ≠ [] ∧ IsFile ws config.sourceRoot inside names ∧
          Utf8.bytes token = config.sourceRoot.bytes ++
            (if config.sourceRoot.bytes.getLast? = some slash then [] else [slash]) ++
              [slash].intercalate names) ∧
        (token.toList.head? = some '-' ↔ config.sourceRoot.bytes.head? = some 0x2D) := by
  obtain ⟨selected, hselected, rfl⟩ := exists_assemble h
  have hbytes : ∀ p ∈ selected.toList, (Utf8.bytes ∘ Path.display) p = p.bytes := fun p hp =>
    Utf8.bytes_decodeLossy (matches_of_mem_sources hwf hselected hp).2
  have hsome : selected.toList ≠ [] := List.isEmpty_eq_false_iff.1 (isEmpty_of_invocation h hselected)
  -- any of the sources shows that the root leads to a directory
  obtain ⟨p, hp⟩ := List.exists_mem_of_ne_nil _ hsome
  obtain ⟨⟨place, inside, hr, -⟩, -⟩ := matches_of_mem_sources hwf hselected hp
  have hroot := Workspace.bytes_ne_nil_of_resolve hr
  refine ⟨selected, place, inside, hselected, ?_, by simpa [Invocation.assemble] using hsome, hr, ?_⟩
  · rw [Invocation.assemble, List.map_map, List.map_congr_left hbytes]
  · intro token htoken
    obtain ⟨q, hq, rfl⟩ := List.mem_map.1 htoken
    have hspelled : Utf8.bytes q.display = q.bytes := hbytes q hq
    obtain ⟨names, name, hfile, rfl, -⟩ :=
      (matches_iff hr _ _).1 (matches_of_mem_sources hwf hselected hq).1
    refine ⟨⟨names ++ [name], by simp, hfile, hspelled⟩, ?_⟩
    rw [← Utf8.head?_encode_iff (b := 0x2D) (by decide), ← head?_spelled hroot (names ++ [name]), ← hspelled]
    rfl

/-- A directory `s` with a file `-O2.c` and a directory `-d` with a file `-.c`. -/
def dashedSources : Workspace where
  tree := .dir [0x73] (.leaf [0x2D, 0x4F, 0x32, 0x2E, 0x63] (.file [] false)
    (.dir [0x2D, 0x64] (.leaf [0x2D, 0x2E, 0x63] (.file [] false) .empty) .empty)) .empty
  here := []

/-- A configuration with this directory as its root. -/
def dashedConfig : Config := Config.withSourceRoot default (.ofString "s/")

/-- The case of files and a directory that are named like options. -/
theorem plan_tokens_dashed :
    dashedSources.tree.WellFormed ∧
    ∃ i, (make dashedSources dashedConfig .release).invocation = .ok i ∧
      i.sources = ["s/-O2.c", "s/-d/-.c"] ∧ ∀ token ∈ i.sources, token.toList.head? ≠ some '-' := by
  have hwf : dashedSources.tree.WellFormed := by decide
  have hplan : (make dashedSources dashedConfig .release).invocation =
      .ok (.assemble "cc" .release (.ofList [.ofString "s/-O2.c", .ofString "s/-d/-.c"])) := by rfl
  obtain ⟨_, _, _, -, -, -, -, htokens⟩ := plan_tokens hwf hplan
  refine ⟨hwf, _, hplan, by decide +kernel, fun token htoken hdash => ?_⟩
  have hroot := (htokens token htoken).2.1 hdash
  exact absurd hroot (by decide +kernel)

end Configurator.Plan
