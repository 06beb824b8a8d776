/-
The contents of trees. A tree is well-formed when its names are names of entries and no directory has
two entries of one name; then a walk comes past every entry once. Two trees have the same contents when
the same names lead to the same files and links and to directories, in whatever order the directories
list them. Main statement: directories at the same place of trees with the same contents have the same
contents.
-/
import Configurator.Proofs.Path.Components
import Configurator.Tree
import Mathlib.Data.List.Nodup

namespace Configurator

namespace Tree

/-! ## Well-formed trees -/

/-- Whether every name in the tree is one that an entry can have. -/
def Named : Tree → Prop
  | empty => True
  | leaf n _ rest => IsName n ∧ Named rest
  | dir n inside rest => IsName n ∧ Named inside ∧ Named rest

/-- What holds of the tree of a real directory. -/
structure WellFormed (t : Tree) : Prop where
  distinct : t.Distinct
  named : t.Named

instance decidableDistinct : (t : Tree) → Decidable t.Distinct
  | empty => .isTrue trivial
  | leaf n _ rest =>
    have := decidableDistinct rest
    inferInstanceAs (Decidable (n ∉ rest.names ∧ rest.Distinct))
  | dir n inside rest =>
    have := decidableDistinct inside
    have := decidableDistinct rest
    inferInstanceAs (Decidable (n ∉ rest.names ∧ inside.Distinct ∧ rest.Distinct))

instance decidableNamed : (t : Tree) → Decidable t.Named
  | empty => .isTrue trivial
  | leaf n _ rest =>
    have := decidableNamed rest
    inferInstanceAs (Decidable (IsName n ∧ rest.Named))
  | dir n inside rest =>
    have := decidableNamed inside
    have := decidableNamed rest
    inferInstanceAs (Decidable (IsName n ∧ inside.Named ∧ rest.Named))

instance (t : Tree) : Decidable t.WellFormed :=
  decidable_of_iff (t.Distinct ∧ t.Named) ⟨fun h => ⟨h.1, h.2⟩, fun h => ⟨h.distinct, h.named⟩⟩

theorem WellFormed.inside {n : Name} {inside rest : Tree} (h : (dir n inside rest).WellFormed) :
    inside.WellFormed :=
  ⟨h.distinct.2.1, h.named.2.1⟩

theorem WellFormed.rest_of_leaf {n : Name} {l : Leaf} {rest : Tree} (h : (leaf n l rest).WellFormed) :
    rest.WellFormed :=
  ⟨h.distinct.2, h.named.2⟩

theorem WellFormed.rest_of_dir {n : Name} {inside rest : Tree} (h : (dir n inside rest).WellFormed) :
    rest.WellFormed :=
  ⟨h.distinct.2.2, h.named.2.2⟩

/-! ## Looking up in a well-formed tree -/

theorem WellFormed.isName {t : Tree} (h : t.WellFormed) {n : Name} {e : Entry} (hf : t.find? n = some e) :
    IsName n := by
  induction t with
  | empty => cases hf
  | leaf m l rest ih =>
    simp only [find?] at hf
    split at hf
    · next hm => exact hm ▸ h.named.1
    · exact ih h.rest_of_leaf hf
  | dir m inside rest _ ih =>
    simp only [find?] at hf
    split at hf
    · next hm => exact hm ▸ h.named.1
    · exact ih h.rest_of_dir hf

theorem WellFormed.find? {t : Tree} (h : t.WellFormed) {n : Name} {inside : Tree}
    (hf : t.find? n = some (.dir inside)) : inside.WellFormed := by
  induction t with
  | empty => cases hf
  | leaf m l rest ih =>
    simp only [Tree.find?] at hf
    split at hf
    · cases hf
    · exact ih h.rest_of_leaf hf
  | dir m i rest _ ih =>
    simp only [Tree.find?] at hf
    split at hf
    · cases hf
      exact h.inside
    · exact ih h.rest_of_dir hf

/-- Directories in a well-formed tree are well-formed. -/
theorem WellFormed.get? {t : Tree} (h : t.WellFormed) {names : List Name} {inside : Tree}
    (hg : t.get? names = some (.dir inside)) : inside.WellFormed := by
  induction names generalizing t with
  | nil =>
    cases hg
    exact h
  | cons n names ih =>
    simp only [Tree.get?] at hg
    split at hg
    · next i hf => exact ih (h.find? hf) hg
    · split at hg <;> cases hg
    · cases hg

theorem WellFormed.names {t : Tree} (h : t.WellFormed) {names : List Name} {e : Entry}
    (hg : t.get? names = some e) : ∀ n ∈ names, IsName n := by
  induction names generalizing t with
  | nil => simp
  | cons n names ih =>
    simp only [Tree.get?] at hg
    split at hg
    · next i hf =>
      rintro m (_ | ⟨_, hm⟩)
      · exact h.isName hf
      · exact ih (h.find? hf) hg m hm
    · next l hf =>
      split at hg
      · next hnil =>
        subst hnil
        simpa using h.isName hf
      · cases hg
    · cases hg

/-! ## Walks -/

/-- Where names do not repeat, a walk comes past no entry twice. -/
theorem nodup_walk {t : Tree} (h : t.Distinct) : (t.walk.map Prod.fst).Nodup := by
  -- a walk does not come past names that begin with one no entry has
  have hout : ∀ (rest : Tree) (n : Name) (names : List Name), n ∉ rest.names →
      n :: names ∉ rest.walk.map Prod.fst := by
    intro rest n names hn hm
    obtain ⟨⟨_, e⟩, he, rfl⟩ := List.mem_map.1 hm
    exact hn (head_mem_names_of_mem_walk he)
  induction t with
  | empty => exact .nil
  | leaf n l rest ih =>
    obtain ⟨hn, hrest⟩ := h
    simp only [walk, List.map_cons]
    exact List.nodup_cons.2 ⟨hout rest n [] hn, ih hrest⟩
  | dir n inside rest ihin ih =>
    obtain ⟨hn, hin, hrest⟩ := h
    simp only [walk, List.cons_append, List.map_cons, List.map_append, List.map_map]
    -- the directory itself, what is inside, and the entries that follow keep apart
    refine List.nodup_cons.2 ⟨?_, List.nodup_append.2 ⟨?_, ih hrest, ?_⟩⟩
    · intro hm
      rcases List.mem_append.1 hm with hm | hm
      · obtain ⟨⟨names, e⟩, he, heq⟩ := List.mem_map.1 hm
        obtain rfl : names = [] := by simpa using heq
        exact nil_not_mem_walk inside e he
      · exact hout rest n [] hn hm
    · have hinside := (ihin hin).map (List.cons_injective (a := n))
      simpa [List.map_map, Function.comp_def] using hinside
    · rintro a ha b hb rfl
      obtain ⟨⟨names, e⟩, -, rfl⟩ := List.mem_map.1 ha
      exact hout rest n names hn hb

end Tree

/-! ## The same contents in any order -/

/-- The file or link that an entry is; none for a directory. -/
def Entry.leaf? : Entry → Option Leaf
  | .leaf l => some l
  | .dir _ => none

namespace Tree

/-- The same names lead to the same files and links, and to directories. -/
def SameContents (t t' : Tree) : Prop :=
  ∀ names, (t.get? names).map Entry.leaf? = (t'.get? names).map Entry.leaf?

theorem SameContents.symm {t t' : Tree} (h : SameContents t t') : SameContents t' t :=
  fun names => (h names).symm

/-- The same names lead nowhere in both trees, to one file or link, or to directories. -/
theorem SameContents.get?_cases {t t' : Tree} (h : SameContents t t') (names : List Name) :
    (t.get? names = none ∧ t'.get? names = none) ∨
      (∃ l, t.get? names = some (.leaf l) ∧ t'.get? names = some (.leaf l)) ∨
      ∃ inside inside', t.get? names = some (.dir inside) ∧ t'.get? names = some (.dir inside') := by
  have hn := h names
  rcases hg : t.get? names with _ | ⟨l | inside⟩ <;> rcases hg' : t'.get? names with _ | ⟨l' | inside'⟩ <;>
    simp_all [Entry.leaf?]

theorem SameContents.leaf_iff {t t' : Tree} (h : SameContents t t') {names : List Name} {l : Leaf} :
    t.get? names = some (.leaf l) ↔ t'.get? names = some (.leaf l) := by
  rcases h.get?_cases names with ⟨hg, hg'⟩ | ⟨l', hg, hg'⟩ | ⟨i, i', hg, hg'⟩ <;> simp [hg, hg']

theorem get?_append {t inside : Tree} {names : List Name} (h : t.get? names = some (.dir inside))
    (more : List Name) : t.get? (names ++ more) = inside.get? more := by
  induction names generalizing t with
  | nil =>
    cases h
    rfl
  | cons n names ih =>
    simp only [get?] at h
    simp only [List.cons_append, get?]
    split at h
    · exact ih h
    · split at h <;> cases h
    · cases h

theorem get?_singleton (t : Tree) (n : Name) : t.get? [n] = t.find? n := by
  simp only [get?]
  cases t.find? n with
  | none => rfl
  | some e => cases e <;> rfl

/-- Directories at the same place have the same contents. -/
theorem SameContents.dir {t t' inside : Tree} (h : SameContents t t') {names : List Name}
    (hg : t.get? names = some (.dir inside)) :
    ∃ inside', t'.get? names = some (.dir inside') ∧ SameContents inside inside' := by
  rcases h.get?_cases names with ⟨hn, -⟩ | ⟨l, hl, -⟩ | ⟨_, inside', -, hg'⟩
  · rw [hn] at hg
    cases hg
  · rw [hl] at hg
    cases hg
  · refine ⟨inside', hg', fun more => ?_⟩
    rw [← get?_append hg, ← get?_append hg']
    exact h (names ++ more)

end Tree

end Configurator
