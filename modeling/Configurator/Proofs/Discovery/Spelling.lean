/-
Roots that are spelled at length. A path leads to the same place with any number of `./` in front, but the
system takes it only up to a limit, and a walk asks for everything below the root by a path that begins with the
root as it was written. Main statement: a root may be spelled so that the system takes it, and takes no path
below it.
-/
import Configurator.Proofs.Discovery.Found
import Configurator.Proofs.Path.Joining

namespace Configurator.Discovery

open Workspace (dotted)

theorem length_lt_spelled (root : Path) (names : List Name) (h : [slash].intercalate names ≠ []) :
    root.bytes.length < (spelled root names).bytes.length := by
  have := List.length_pos_iff.2 h
  simp only [spelled, List.length_append]
  omega

theorem isText_dotted {p : Path} (h : p.isText = true) (n : Nat) : (dotted n p).isText = true := by
  have hdots : Utf8.isText [dot, slash] = true := by decide +kernel
  induction n with
  | zero => exact h
  | succ n ih =>
    rw [Workspace.dotted_succ]
    exact (Utf8.isText_append hdots (dotted n p).bytes).trans ih

theorem spelled_dotted {p : Path} (h : p.bytes ≠ []) (n : Nat) (names : List Name) :
    spelled (dotted n p) names = dotted n (spelled p names) := by
  have hlast : (dotted n p).bytes.getLast? = p.bytes.getLast? := List.getLast?_append_of_ne_nil _ h
  simp only [spelled, hlast]
  simp only [dotted, List.append_assoc]

/-- The directory `s`, with `./` written 2047 times in front of it. -/
def longRoot : Path := dotted 2047 ⟨[0x73]⟩

theorem length_longRoot : longRoot.bytes.length = 4095 := by
  rw [longRoot, Workspace.length_dotted]
  rfl

theorem isText_longRoot : longRoot.isText = true :=
  isText_dotted (by decide +kernel : (Path.mk [0x73]).isText = true) 2047

variable {ws : Workspace} {names : List Name}

theorem resolve_longRoot {here : Tree} (hhere : ws.tree.get? ws.here = some (.dir here)) {place : Place}
    (h : ws.resolve ⟨[0x73]⟩ = .ok place) : ws.resolve longRoot = .ok place :=
  Workspace.resolve_dotted hhere rfl h (Nat.le_of_eq length_longRoot)

/-- The system takes no path below the long spelling. -/
theorem pathLimit_lt_spelled_longRoot (h : [slash].intercalate names ≠ []) :
    Workspace.pathLimit < (spelled longRoot names).bytes.length := by
  have hlt := length_lt_spelled longRoot names h
  rw [length_longRoot] at hlt
  exact hlt

/-- No link below the long spelling is seen to lead to a directory. -/
theorem isDirectory_spelled_longRoot (h : [slash].intercalate names ≠ []) :
    ws.isDirectory (spelled longRoot names) = false := by
  have hlong := pathLimit_lt_spelled_longRoot h
  unfold Workspace.isDirectory Workspace.resolve
  by_cases hnul : (spelled longRoot names).bytes.contains 0
  · rw [if_pos hnul]
  · rw [if_neg hnul, if_pos hlong]

end Configurator.Discovery
