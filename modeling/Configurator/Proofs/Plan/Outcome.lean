/-
How planning ends. A plan fails as a walk, as a source that is not text, as a build without sources, or
it has a command line, and the faults are looked for in this order: the text of a path counts before the
exclusions do. Main statement: for each of the four endings the inputs that lead to it.
-/
import Configurator.Builder
import Configurator.Proofs.Discovery.Found
import Configurator.Proofs.Sources.Exclusion

namespace Configurator.Plan

open Discovery Sources

variable {ws : Workspace} {config : Config}

theorem invocation_eq (ws : Workspace) (config : Config) (profile : Profile) :
    (make ws config profile).invocation =
      match discover ws config.sourceRoot config.extensions with
      | .error e => .error (.discovery e)
      | .ok found =>
        if (filter found config.exclude config.sourceRoot).isEmpty then
          .error (.noSources config.sourceRoot.display)
        else
          .ok (.assemble config.compiler profile (filter found config.exclude config.sourceRoot)) := by
  rw [make_invocation, sources]
  cases discover ws config.sourceRoot config.extensions <;> rfl

/-- The command line of a plan is assembled from the sources that the configuration selects. -/
theorem exists_assemble {profile : Profile} {i : Invocation}
    (h : (make ws config profile).invocation = .ok i) :
    ∃ selected, sources ws config = .ok selected ∧ i = .assemble config.compiler profile selected := by
  rw [make_invocation] at h
  cases hselected : sources ws config with
  | error e =>
    rw [hselected] at h
    cases h
  | ok selected =>
    rw [hselected] at h
    dsimp only at h
    split at h
    · cases h
    · cases h
      exact ⟨selected, rfl, rfl⟩

/-- There is a source in every plan. -/
theorem isEmpty_of_invocation {profile : Profile} {i : Invocation}
    (h : (make ws config profile).invocation = .ok i) {selected : PathSet}
    (hselected : sources ws config = .ok selected) : selected.isEmpty = false := by
  rw [make_invocation, hselected] at h
  dsimp only at h
  split at h
  · cases h
  · next hsome => exact Bool.eq_false_iff.2 hsome

/-! ## One ending after the other -/

/-- A failed search makes the plan fail, and nothing else makes it fail like that. -/
theorem invocation_discovery_iff (profile : Profile) (e : DiscoveryError) :
    (make ws config profile).invocation = .error (.discovery e) ↔
      discover ws config.sourceRoot config.extensions = .error e := by
  rw [invocation_eq]
  cases discover ws config.sourceRoot config.extensions with
  | error e' => simp
  | ok found =>
    dsimp only
    split <;> simp

theorem invocation_noSources_iff (hwf : ws.tree.WellFormed) (profile : Profile) :
    (∃ r, (make ws config profile).invocation = .error (.noSources r)) ↔
      (∃ found, discover ws config.sourceRoot config.extensions = .ok found) ∧
        ∀ p, Matches ws config.sourceRoot config.extensions p →
          Excluded config.exclude config.sourceRoot p := by
  rw [invocation_eq]
  cases hd : discover ws config.sourceRoot config.extensions with
  | error e => simp
  | ok found =>
    simp only [← mem_discover_iff hwf hd, ← isEmpty_filter_iff]
    split <;> simp_all

theorem invocation_ok_iff (hwf : ws.tree.WellFormed) (profile : Profile) :
    (∃ i, (make ws config profile).invocation = .ok i) ↔
      (∃ found, discover ws config.sourceRoot config.extensions = .ok found) ∧
        ∃ p, Matches ws config.sourceRoot config.extensions p ∧
          ¬ Excluded config.exclude config.sourceRoot p := by
  rw [invocation_eq]
  cases hd : discover ws config.sourceRoot config.extensions with
  | error e => simp
  | ok found =>
    have hkept : (∃ p ∈ found.toList, ¬ Excluded config.exclude config.sourceRoot p) ↔
        ¬ (filter found config.exclude config.sourceRoot).isEmpty = true := by
      rw [isEmpty_filter_iff]
      push Not
      rfl
    simp only [← mem_discover_iff hwf hd, hkept]
    split <;> simp_all

/-- Planning never fails to start a program, and a search never finds a path twice. -/
theorem isInvariantViolation_of_invocation (hwf : ws.tree.WellFormed) {profile : Profile}
    {e : BuildError} (h : (make ws config profile).invocation = .error e) :
    e.isInvariantViolation = false := by
  rcases e with (⟨r, detail⟩ | p | text) | r | ⟨program, detail⟩
  · rfl
  · rw [invocation_discovery_iff] at h
    exact absurd h (discover_ne_duplicate hwf p)
  · rfl
  · rfl
  · rfl

/-! ## All endings -/

/-- Where every directory can be read, planning fails as a walk exactly if the root leads nowhere; else
at a path that is not text exactly if some source has one, excluded or not; else for want of sources
exactly if every source is excluded; else it gives a command line. No failure says that the tool
contradicts itself. -/
theorem plan_outcome (hwf : ws.tree.WellFormed) (hread : ReadableBelow ws config.sourceRoot)
    (profile : Profile) :
    ((∃ r detail, (make ws config profile).invocation = .error (.discovery (.walk r detail))) ↔
        ¬ ∃ place, ws.resolve config.sourceRoot = .ok place) ∧
      ((∃ text, (make ws config profile).invocation = .error (.discovery (.undecodable text))) ↔
        (∃ place, ws.resolve config.sourceRoot = .ok place) ∧
          ∃ p, Matches ws config.sourceRoot config.extensions p ∧ p.isText = false) ∧
      ((∃ r, (make ws config profile).invocation = .error (.noSources r)) ↔
        (∃ place, ws.resolve config.sourceRoot = .ok place) ∧
          (∀ p, Matches ws config.sourceRoot config.extensions p → p.isText = true) ∧
          ∀ p, Matches ws config.sourceRoot config.extensions p →
            Excluded config.exclude config.sourceRoot p) ∧
      ((∃ i, (make ws config profile).invocation = .ok i) ↔
        (∃ place, ws.resolve config.sourceRoot = .ok place) ∧
          (∀ p, Matches ws config.sourceRoot config.extensions p → p.isText = true) ∧
          ∃ p, Matches ws config.sourceRoot config.extensions p ∧
            ¬ Excluded config.exclude config.sourceRoot p) ∧
      ∀ e, (make ws config profile).invocation = .error e → e.isInvariantViolation = false := by
  have hresolves : (∃ fault, ws.resolve config.sourceRoot = .error fault) ↔
      ¬ ∃ place, ws.resolve config.sourceRoot = .ok place := by
    cases ws.resolve config.sourceRoot <;> simp
  refine ⟨?_, ?_, ?_, ?_, fun e h => isInvariantViolation_of_invocation hwf h⟩
  · simp only [invocation_discovery_iff, discover_walk_iff hwf, hresolves, hread, not_true_eq_false,
      or_false]
  · simp only [invocation_discovery_iff, discover_undecodable_iff hwf, hread, true_and]
    exact ⟨fun ⟨p, hp, htext⟩ => ⟨hp.resolves, p, hp, htext⟩, fun h => h.2⟩
  · rw [invocation_noSources_iff hwf, discover_ok_iff hwf]
    simp only [hread, true_and, and_assoc]
  · rw [invocation_ok_iff hwf, discover_ok_iff hwf]
    simp only [hread, true_and, and_assoc]

/-- A directory `s` whose only source has a name that is not text. -/
def undecodableSource : Workspace where
  tree := .dir [0x73] (.leaf [0xFF, 0x2E, 0x63] (.file [] false) .empty) .empty
  here := []

/-- A configuration that excludes this source. -/
def undecodableExcluded : Config where
  compiler := "cc"
  sourceRoot := ⟨[0x73]⟩
  extensions := .ofList [".c"]
  exclude := .ofList [⟨[0xFF, 0x2E, 0x63]⟩]

theorem readableBelow_undecodableSource :
    ReadableBelow undecodableSource undecodableExcluded.sourceRoot := by
  have hr : undecodableSource.resolve undecodableExcluded.sourceRoot =
      .ok ⟨[[0x73]], .dir (.leaf [0xFF, 0x2E, 0x63] (.file [] false) .empty)⟩ := by rfl
  exact (readableBelow_iff hr).2 ((findSome?_unlisted?_eq_none_iff (by decide) (by decide)).1 (by decide))

/-- The case of a source that is not text and is excluded: its path counts all the same. -/
theorem plan_outcome_undecodableExcluded :
    undecodableSource.tree.WellFormed ∧
      ReadableBelow undecodableSource undecodableExcluded.sourceRoot ∧
      ∃ text, (make undecodableSource undecodableExcluded .release).invocation =
        .error (.discovery (.undecodable text)) := by
  refine ⟨by decide, readableBelow_undecodableSource, ?_⟩
  refine (plan_outcome (by decide) readableBelow_undecodableSource .release).2.1.2 ⟨⟨_, rfl⟩, ?_⟩
  refine ⟨⟨[0x73, 0x2F, 0xFF, 0x2E, 0x63]⟩, ?_, by decide⟩
  refine ⟨[[0x73]], .leaf [0xFF, 0x2E, 0x63] (.file [] false) .empty, rfl, [], [0xFF, 0x2E, 0x63], ?_, rfl, ?_⟩
  · exact ⟨_, rfl, fun _ h => by cases h⟩
  · exact ⟨".c", by decide, by decide⟩

end Configurator.Plan
