/-
Configurations that mean the same. Of a sequence of changes a plan sees the last compiler, the last root, which
endings were named last, and which paths are excluded, whatever they are excluded by: the order, the number and
the grouping of the exclusions and the spelling of each. Main statement: sequences of changes that mean the
same lead to the same plan on every tree.
-/
import Configurator.Proofs.Config.Adjusting
import Configurator.Proofs.Plan.Outcome
import Configurator.Proofs.Sources.Difference

namespace Configurator

open Sources

/-- Two sequences of changes that name the same compiler and root in the end, the same endings, and the same
exclusions up to their spelling. -/
structure Config.SameMeaning (l l' : List Adjustment) : Prop where
  compiler : lastCompiler l = lastCompiler l'
  sourceRoot : lastSourceRoot l = lastSourceRoot l'
  endings : ∀ ending, ending ∈ lastEndings l ↔ ending ∈ lastEndings l'
  respelled : ∀ e ∈ exclusions l, ∃ e' ∈ exclusions l', e.Respelled e'
  respelled' : ∀ e' ∈ exclusions l', ∃ e ∈ exclusions l, e.Respelled e'

namespace Plan

variable {l l' : List Config.Adjustment}

theorem excluded_ofList_iff {exclusions : List Path} {root p : Path} :
    Excluded (.ofList exclusions) root p ↔ ∃ e ∈ exclusions, Removes root e p := by
  have hnone : ¬ Excluded .empty root p := fun ⟨_, he, _⟩ => absurd he List.not_mem_nil
  rw [SortedSet.ofList, excluded_insertAll_iff, or_iff_right hnone]

/-- Behind a root that is not empty the spelling of the exclusions does not matter. -/
theorem excluded_iff_of_sameMeaning (h : Config.SameMeaning l l') {root : Path} (hroot : root.bytes ≠ [])
    (p : Path) :
    Excluded (.ofList (Config.exclusions l)) root p ↔ Excluded (.ofList (Config.exclusions l')) root p := by
  rw [excluded_ofList_iff, excluded_ofList_iff]
  constructor
  · rintro ⟨e, he, hremoves⟩
    obtain ⟨e', he', hspelling⟩ := h.respelled e he
    exact ⟨e', he', (removes_respelled hroot hspelling).1 hremoves⟩
  · rintro ⟨e', he', hremoves⟩
    obtain ⟨e, he, hspelling⟩ := h.respelled' e' he'
    exact ⟨e, he, (removes_respelled hroot hspelling).2 hremoves⟩

theorem bytes_ne_nil_of_discover {ws : Workspace} {root : Path} {extensions : ExtensionSet} {found : PathSet}
    (h : Discovery.discover ws root extensions = .ok found) : root.bytes ≠ [] := by
  cases hr : ws.resolve root with
  | error fault =>
    rw [Discovery.discover_of_unresolved hr] at h
    cases h
  | ok place => exact Workspace.bytes_ne_nil_of_resolve hr

/-- Sequences of changes that mean the same select the same sources. -/
theorem sources_of_sameMeaning (h : Config.SameMeaning l l') (ws : Workspace) :
    sources ws (.ofAdjustments l) = sources ws (.ofAdjustments l') := by
  have hendings : (.ofList (Config.lastEndings l) : ExtensionSet) = .ofList (Config.lastEndings l') :=
    SortedSet.ofList_congr h.endings
  simp only [sources, Config.sourceRoot_ofAdjustments, Config.extensions_ofAdjustments,
    Config.exclude_ofAdjustments, h.sourceRoot, hendings]
  cases hfound : Discovery.discover ws (Config.lastSourceRoot l') (.ofList (Config.lastEndings l')) with
  | error e => rfl
  | ok found =>
    have hroot := bytes_ne_nil_of_discover hfound
    dsimp only
    rw [filter_congr fun p _ => excluded_iff_of_sameMeaning h hroot p]

/-- From the default configuration on, sequences of changes that mean the same lead to the same command line or
to the same error, on every tree and for every profile. -/
theorem plan_of_sameMeaning (h : Config.SameMeaning l l') (ws : Workspace) (profile : Profile) :
    (make ws (.ofAdjustments l) profile).invocation = (make ws (.ofAdjustments l') profile).invocation := by
  rw [make_invocation, make_invocation, sources_of_sameMeaning h, Config.sourceRoot_ofAdjustments,
    Config.sourceRoot_ofAdjustments, h.sourceRoot, Config.compiler_ofAdjustments,
    Config.compiler_ofAdjustments, h.compiler]

/-- Changes that leave out all sources of a tree but one. -/
def wording : List Config.Adjustment :=
  [.sourceRoot (.ofString "s"), .compiler "clang", .exclude [.ofString "b.c", .ofString "./w.c//i.c"],
    .extensions [".h", ".c"], .exclude [.ofString "e.c", .ofString "f.c", .ofString "b.c"]]

/-- The same in other words: otherwise ordered, grouped and spelled, and with changes that do not last. -/
def otherWording : List Config.Adjustment :=
  [.exclude [.ofString "f.c/"], .compiler "gcc", .extensions [".z"], .compiler "clang",
    .exclude [.ofString "w.c/i.c", .ofString "./e.c", .ofString "b.c/."], .extensions [".c", ".h", ".c"],
    .extensions [], .sourceRoot (.ofString "s")]

/-- The case of two wordings that make different configurations. -/
theorem plan_of_sameMeaning_wording :
    Config.SameMeaning wording otherWording ∧ Config.ofAdjustments wording ≠ Config.ofAdjustments otherWording ∧
      ∃ i, (make Discovery.linked (.ofAdjustments wording) .release).invocation = .ok i ∧
        (make Discovery.linked (.ofAdjustments otherWording) .release).invocation = .ok i ∧
        i.program = "clang" ∧ i.sources = ["s/a.c"] := by
  have hsame : Config.SameMeaning wording otherWording :=
    { compiler := by decide
      sourceRoot := by decide +kernel
      endings := fun ending => show ending ∈ [".h", ".c"] ↔ ending ∈ [".c", ".h", ".c"] by simp [or_comm]
      respelled := by decide +kernel
      respelled' := by decide +kernel }
  have hplan : (make Discovery.linked (.ofAdjustments wording) .release).invocation =
      .ok ⟨"clang", Profile.release.flags, "-oout/whippet.out", ["s/a.c"]⟩ := by decide +kernel
  exact ⟨hsame, by decide +kernel, _, hplan, (plan_of_sameMeaning hsame _ _).symm.trans hplan, rfl, rfl⟩

end Plan

end Configurator
