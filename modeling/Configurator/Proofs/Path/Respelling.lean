/-
Spellings of one path. The parts of a path stand between its slashes; empty ones and `.` say nothing, so two
paths that have the same parts apart from these are spellings of one another. What a relative path adds to a
root are its components without a written-out `.` in front. Main statements: whatever the root, joining it
with paths of the same components gives paths of the same components, and so does joining it with two
spellings of one path, if the root is not empty.
-/
import Configurator.Proofs.Path.Joining

namespace Configurator

/-! ## Parts that say something -/

/-- Whether a part of a path says something: an empty one and `.` do not. -/
def Component.tells (part : Bytes) : Bool := part ≠ [] && part ≠ [dot]

theorem Component.ofPart?_isSome (part : Bytes) : (ofPart? part).isSome = tells part := by
  by_cases hnil : part = []
  · simp [ofPart?, tells, hnil]
  · by_cases hdot : part = [dot]
    · simp [ofPart?, tells, hdot]
    · by_cases hdots : part = [dot, dot] <;> simp [ofPart?, tells, hnil, hdot, hdots]

/-- No part but the one before the first slash stands for the top or for a written-out `.`. -/
theorem Component.up_or_name_of_ofPart? {part : Bytes} {c : Component} (h : ofPart? part = some c) :
    c = up ∨ c = name part := by
  unfold ofPart? at h
  split at h
  · cases h
  · split at h
    · cases h
    · split at h
      · cases h
        exact .inl rfl
      · cases h
        exact .inr rfl

namespace Path

/-- The parts of a path between its slashes that say something. -/
def parts (p : Path) : List Bytes := (Text.pieces slash p.bytes).filter Component.tells

/-- Two paths, both relative or both absolute, that differ by `.` parts and extra slashes only. -/
structure Respelled (p q : Path) : Prop where
  isAbsolute : p.isAbsolute = q.isAbsolute
  parts : p.parts = q.parts

instance (p q : Path) : Decidable (Respelled p q) :=
  decidable_of_iff (p.isAbsolute = q.isAbsolute ∧ p.parts = q.parts)
    ⟨fun h => ⟨h.1, h.2⟩, fun h => ⟨h.isAbsolute, h.parts⟩⟩

variable {p q root : Path}

/-- What a path adds to a root comes from the parts that say something. -/
theorem steps_eq (p : Path) : p.steps = p.parts.filterMap Component.ofPart? := by
  rw [steps, parts, List.filterMap_filter]
  congr 1
  funext part
  rw [← Component.ofPart?_isSome]
  cases Component.ofPart? part <;> rfl

theorem Respelled.steps (h : Respelled p q) : p.steps = q.steps := by
  rw [steps_eq, steps_eq, h.parts]

theorem root_notMem_steps (p : Path) : .root ∉ p.steps := by
  intro h
  obtain ⟨part, -, hpart⟩ := List.mem_filterMap.1 h
  rcases Component.up_or_name_of_ofPart? hpart with h | h <;> cases h

theorem here_notMem_steps (p : Path) : .here ∉ p.steps := by
  intro h
  obtain ⟨part, -, hpart⟩ := List.mem_filterMap.1 h
  rcases Component.up_or_name_of_ofPart? hpart with h | h <;> cases h

/-! ## Components and steps -/

/-- A list of components without a written-out `.` in front. -/
def withoutHere : List Component → List Component
  | .here :: rest => rest
  | components => components

theorem withoutHere_of_notMem {l : List Component} (h : .here ∉ l) : withoutHere l = l := by
  rcases l with _ | ⟨_ | _ | _ | _, rest⟩
  · rfl
  · rfl
  · simp at h
  · rfl
  · rfl

theorem components_of_isAbsolute (h : p.isAbsolute = true) : p.components = .root :: p.steps := by
  obtain ⟨_ | ⟨b, rest⟩⟩ := p
  · cases h
  · obtain rfl : b = slash := by simpa [isAbsolute] using h
    have hne : (Text.pieces slash rest).isEmpty = false := by simp [Text.pieces_ne_nil]
    simp [components, steps, Text.pieces, Component.ofFirstPart?, Component.ofPart?, hne]

/-- A relative path has the components that it adds to a root, with or without a `.` in front. -/
theorem components_of_not_isAbsolute (h : p.isAbsolute = false) :
    p.components = p.steps ∨ p.components = .here :: p.steps := by
  obtain ⟨_ | ⟨b, rest⟩⟩ := p
  · exact .inl rfl
  · have hb : b ≠ slash := by simpa [isAbsolute] using h
    -- the part before the first slash is not empty, so it stands for what any part does, unless it is `.`
    obtain ⟨first, others, hpieces, hne⟩ : ∃ first others,
        Text.pieces slash (b :: rest) = first :: others ∧ first ≠ [] := by
      rw [Text.pieces, if_neg hb]
      cases Text.pieces slash rest with
      | nil => exact ⟨_, _, rfl, by simp⟩
      | cons piece others => exact ⟨_, _, rfl, by simp⟩
    simp only [components, steps, hpieces, List.filterMap_cons]
    by_cases hdot : first = [dot]
    · exact .inr (by simp [hdot, Component.ofFirstPart?, Component.ofPart?])
    · refine .inl ?_
      rw [Component.ofFirstPart?, if_neg hne, if_neg hdot]
      cases Component.ofPart? first <;> rfl

theorem withoutHere_components (h : p.isAbsolute = false) : withoutHere p.components = p.steps := by
  rcases components_of_not_isAbsolute h with hc | hc
  · rw [hc, withoutHere_of_notMem p.here_notMem_steps]
  · rw [hc, withoutHere]

theorem mem_steps_of_mem_components {c : Component} (h : p.isAbsolute = false) (hc : c ∈ p.components)
    (hne : c ≠ .here) : c ∈ p.steps := by
  rcases components_of_not_isAbsolute h with heq | heq
  · rwa [heq] at hc
  · rw [heq] at hc
    exact (List.mem_cons.1 hc).resolve_left hne

/-- Whether a path is absolute can be seen from its components. -/
theorem isAbsolute_iff_root_mem : p.isAbsolute = true ↔ .root ∈ p.components := by
  constructor
  · intro h
    rw [components_of_isAbsolute h]
    exact List.mem_cons_self
  · intro h
    by_contra hrelative
    rw [Bool.not_eq_true] at hrelative
    exact p.root_notMem_steps (mem_steps_of_mem_components hrelative h (by simp))

/-! ## Joining -/

theorem join_of_isAbsolute (h : q.isAbsolute = true) : p.join q = q := if_pos h

theorem join_of_bytes_eq_nil (h : p.bytes = []) : p.join q = q := by
  by_cases hq : q.isAbsolute = true
  · exact join_of_isAbsolute hq
  · simp [join, hq, h]

/-- What is joined with a root counts by its components, not by its spelling. -/
theorem components_join_congr (root : Path) (h : p.components = q.components) :
    (root.join p).components = (root.join q).components := by
  have habsolute : p.isAbsolute = q.isAbsolute := by
    rw [Bool.eq_iff_iff, isAbsolute_iff_root_mem, isAbsolute_iff_root_mem, h]
  by_cases hroot : root.bytes = []
  · rw [join_of_bytes_eq_nil hroot, join_of_bytes_eq_nil hroot, h]
  · cases hp : p.isAbsolute with
    | true => rw [join_of_isAbsolute hp, join_of_isAbsolute (habsolute ▸ hp), h]
    | false =>
      have hq := habsolute ▸ hp
      rw [components_join hroot hp, components_join hroot hq, ← withoutHere_components hp,
        ← withoutHere_components hq, h]

/-- Behind a root that is not empty, spellings of one path lead to the same components. -/
theorem Respelled.components_join (h : Respelled p q) (hroot : root.bytes ≠ []) :
    (root.join p).components = (root.join q).components := by
  cases hp : p.isAbsolute with
  | true =>
    have hq := h.isAbsolute ▸ hp
    rw [join_of_isAbsolute hp, join_of_isAbsolute hq, components_of_isAbsolute hp,
      components_of_isAbsolute hq, h.steps]
  | false =>
    have hq := h.isAbsolute ▸ hp
    rw [Path.components_join hroot hp, Path.components_join hroot hq, h.steps]

end Path

end Configurator
