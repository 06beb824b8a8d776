/-
Members of ascending sets. An insertion adds its element unless an equal one is there, so a list of
elements no two of which are equal becomes the set of exactly these elements, and a set is given by its
members alone. Main statements: two sets with the same members are the same set, inserting a list of new
elements adds exactly these, and of equal elements of a list its set has the first one.
-/
import Configurator.SortedSet
import Mathlib.Data.List.Pairwise
import Mathlib.Data.List.Perm.Basic

namespace Configurator

universe u

variable {α : Type u} {cmp : α → α → Ordering}

/-! ## Inserting into a list -/

/-- The inserted element is in the list afterwards, unless an equal one was there. -/
theorem self_mem_insertAscending [Std.TransCmp cmp] {a : α} {l : List α}
    (h : containsAscending cmp a l = false) : a ∈ insertAscending cmp a l := by
  induction l with
  | nil => simp [insertAscending]
  | cons b rest ih =>
    simp only [containsAscending] at h
    simp only [insertAscending]
    split
    · exact List.mem_cons_self
    · next hab => simp [hab] at h
    · next hab =>
      rw [hab] at h
      exact List.mem_cons_of_mem _ (ih h)

theorem mem_insertAscending_iff [Std.TransCmp cmp] {a x : α} {l : List α}
    (h : containsAscending cmp a l = false) : x ∈ insertAscending cmp a l ↔ x = a ∨ x ∈ l := by
  constructor
  · exact mem_of_mem_insertAscending
  · rintro (rfl | hx)
    · exact self_mem_insertAscending h
    · exact mem_insertAscending_of_mem hx

/-- Where an equal element is found, an insertion changes nothing. -/
theorem insertAscending_eq_self {a : α} {l : List α} (h : containsAscending cmp a l = true) :
    insertAscending cmp a l = l := by
  induction l with
  | nil => simp [containsAscending] at h
  | cons b rest ih =>
    simp only [containsAscending] at h
    simp only [insertAscending]
    split
    · next hab => simp [hab] at h
    · rfl
    · next hab =>
      rw [hab] at h
      rw [ih h]

namespace SortedSet

/-! ## Equality of sets -/

theorem nodup_toList [Std.TransCmp cmp] (s : SortedSet α cmp) : s.toList.Nodup := by
  refine s.ascending.imp ?_
  rintro a b hab rfl
  exact Std.OrientedCmp.not_lt_of_lt hab hab

/-- A set is given by its members: order and number of them follow. -/
theorem eq_of_mem_iff [Std.TransCmp cmp] {s t : SortedSet α cmp}
    (h : ∀ x, x ∈ s.toList ↔ x ∈ t.toList) : s = t := by
  apply ext
  -- without repetitions the two lists are permutations of each other, and both ascend
  have hperm : s.toList.Perm t.toList :=
    (List.perm_ext_iff_of_nodup s.nodup_toList t.nodup_toList).2 h
  refine hperm.eq_of_pairwise ?_ s.ascending t.ascending
  intro a b _ _ hab hba
  exact absurd hba (Std.OrientedCmp.not_lt_of_lt hab)

/-- A set has one spelling of an element at most. -/
theorem eq_of_mem_of_eq [Std.TransCmp cmp] {s : SortedSet α cmp} {a b : α} (ha : a ∈ s.toList)
    (hb : b ∈ s.toList) (h : cmp a b = .eq) : a = b := by
  have hsymm : Std.Symm fun x y => cmp x y ≠ .eq := ⟨fun _ _ hxy hyx => hxy (Std.OrientedCmp.eq_symm hyx)⟩
  have hapart : s.toList.Pairwise fun x y => cmp x y ≠ .eq := by
    refine s.ascending.imp fun hlt heq => ?_
    rw [hlt] at heq
    cases heq
  by_contra hne
  exact hapart.forall ha hb hne h

/-! ## Looking for members -/

theorem contains_eq_true_iff [Std.TransCmp cmp] {s : SortedSet α cmp} {a : α} :
    s.contains a = true ↔ ∃ b ∈ s.toList, cmp a b = .eq := by
  rw [contains_eq_any, List.any_eq_true]
  simp only [beq_iff_eq]

/-! ## Inserting -/

theorem mem_insert_iff [Std.TransCmp cmp] {s : SortedSet α cmp} {a x : α}
    (h : s.contains a = false) : x ∈ (s.insert a).toList ↔ x = a ∨ x ∈ s.toList := by
  rw [toList_insert]
  exact mem_insertAscending_iff h

theorem insert_eq_self [Std.TransCmp cmp] {s : SortedSet α cmp} {a : α} (h : s.contains a = true) :
    s.insert a = s := ext (insertAscending_eq_self h)

/-- Whatever was in the set, an element equal to the inserted one is found afterwards. -/
theorem contains_insert_iff [Std.TransCmp cmp] {s : SortedSet α cmp} {a x : α} :
    (s.insert a).contains x = true ↔ cmp x a = .eq ∨ s.contains x = true := by
  by_cases h : s.contains a = true
  · -- an equal member stays, and what equals the new element equals that member
    rw [insert_eq_self h]
    refine ⟨.inr, ?_⟩
    rintro (hx | hx)
    · obtain ⟨b, hb, hab⟩ := contains_eq_true_iff.1 h
      exact contains_eq_true_iff.2 ⟨b, hb, Std.TransCmp.eq_trans hx hab⟩
    · exact hx
  · rw [Bool.not_eq_true] at h
    rw [contains_eq_true_iff, contains_eq_true_iff]
    constructor
    · rintro ⟨b, hb, hxb⟩
      rcases (mem_insert_iff h).1 hb with rfl | hb
      · exact .inl hxb
      · exact .inr ⟨b, hb, hxb⟩
    · rintro (hxa | ⟨b, hb, hxb⟩)
      · exact ⟨a, (mem_insert_iff h).2 (.inl rfl), hxa⟩
      · exact ⟨b, (mem_insert_iff h).2 (.inr hb), hxb⟩

/-! ## Sets of lists -/

theorem contains_insertAll_iff [Std.TransCmp cmp] {s : SortedSet α cmp} {l : List α} {x : α} :
    (s.insertAll l).contains x = true ↔ s.contains x = true ∨ ∃ a ∈ l, cmp x a = .eq := by
  induction l generalizing s with
  | nil => simp [insertAll]
  | cons a rest ih =>
    rw [insertAll, List.foldl_cons, ← insertAll, ih, contains_insert_iff]
    simp only [List.exists_mem_cons_iff]
    tauto

theorem insertAll_append [Std.TransCmp cmp] (s : SortedSet α cmp) (l l' : List α) :
    s.insertAll (l ++ l') = (s.insertAll l).insertAll l' := List.foldl_append

/-- A list of new elements, no two of them equal, is added as it is. -/
theorem mem_insertAll_iff [Std.TransCmp cmp] {s : SortedSet α cmp} {l : List α} {x : α}
    (hnew : ∀ a ∈ l, s.contains a = false) (hapart : l.Pairwise (fun a b => cmp a b ≠ .eq)) :
    x ∈ (s.insertAll l).toList ↔ x ∈ s.toList ∨ x ∈ l := by
  induction l generalizing s with
  | nil => simp [insertAll]
  | cons a rest ih =>
    obtain ⟨ha, hrest⟩ := List.pairwise_cons.1 hapart
    -- the elements that follow are still new when the first one is in
    have hnew' : ∀ b ∈ rest, (s.insert a).contains b = false := by
      intro b hb
      rw [← Bool.not_eq_true, contains_insert_iff]
      rintro (hba | hbs)
      · exact ha b hb (Std.OrientedCmp.eq_symm hba)
      · rw [hnew b (List.mem_cons_of_mem _ hb)] at hbs
        cases hbs
    rw [insertAll, List.foldl_cons, ← insertAll, ih hnew' hrest,
      mem_insert_iff (hnew a List.mem_cons_self), List.mem_cons]
    tauto

theorem contains_empty (x : α) : (empty : SortedSet α cmp).contains x = false := rfl

theorem contains_ofList_iff [Std.TransCmp cmp] {l : List α} {x : α} :
    (ofList l : SortedSet α cmp).contains x = true ↔ ∃ a ∈ l, cmp x a = .eq := by
  rw [ofList, contains_insertAll_iff, contains_empty]
  simp

/-- Where only the same elements are equal, a list becomes the set of its elements. -/
theorem mem_ofList_iff [Std.TransCmp cmp] [Std.LawfulEqCmp cmp] {l : List α} {x : α} :
    x ∈ (ofList l : SortedSet α cmp).toList ↔ x ∈ l := by
  have hfound : (ofList l : SortedSet α cmp).contains x = true ↔ ∃ a ∈ l, cmp x a = .eq :=
    contains_ofList_iff
  rw [contains_eq_true_iff] at hfound
  simpa only [Std.LawfulEqCmp.compare_eq_iff_eq, exists_eq_right'] using hfound

/-- Order and repetitions of a list do not matter to its set. -/
theorem ofList_congr [Std.TransCmp cmp] [Std.LawfulEqCmp cmp] {l l' : List α} (h : ∀ x, x ∈ l ↔ x ∈ l') :
    (ofList l : SortedSet α cmp) = ofList l' := by
  apply eq_of_mem_iff
  intro x
  rw [mem_ofList_iff, mem_ofList_iff, h]

/-- Taking the last spelling of equal elements instead of the first changes no answer. -/
theorem contains_ofListLast_iff [Std.TransCmp cmp] {l : List α} {x : α} :
    (ofListLast l : SortedSet α cmp).contains x = true ↔ ∃ a ∈ l, cmp x a = .eq := by
  rw [ofListLast, contains_ofList_iff]
  simp only [List.mem_reverse]

/-! ## First spellings -/

/-- `x` is an element of a list that no element before it equals. -/
def FirstIn (cmp : α → α → Ordering) (l : List α) (x : α) : Prop :=
  ∃ before after, l = before ++ x :: after ∧ ∀ a ∈ before, cmp x a ≠ .eq

theorem firstIn_cons_iff {a x : α} {rest : List α} :
    FirstIn cmp (a :: rest) x ↔ x = a ∨ cmp x a ≠ .eq ∧ FirstIn cmp rest x := by
  constructor
  · rintro ⟨before, after, hl, hfirst⟩
    cases before with
    | nil => exact .inl (List.cons.inj hl).1.symm
    | cons b before =>
      obtain ⟨rfl, hrest⟩ := List.cons.inj hl
      exact .inr ⟨hfirst a List.mem_cons_self, before, after, hrest,
        fun y hy => hfirst y (List.mem_cons_of_mem _ hy)⟩
  · rintro (rfl | ⟨hxa, before, after, rfl, hfirst⟩)
    · exact ⟨[], rest, rfl, by simp⟩
    · exact ⟨a :: before, after, rfl, List.forall_mem_cons.2 ⟨hxa, hfirst⟩⟩

/-- Inserting a list adds the first spelling of each of its elements that the set did not have. -/
theorem mem_insertAll_iff_firstIn [Std.TransCmp cmp] {s : SortedSet α cmp} {l : List α} {x : α} :
    x ∈ (s.insertAll l).toList ↔ x ∈ s.toList ∨ s.contains x = false ∧ FirstIn cmp l x := by
  induction l generalizing s with
  | nil => simp [insertAll, FirstIn]
  | cons a rest ih =>
    rw [insertAll, List.foldl_cons, ← insertAll, ih, firstIn_cons_iff, ← Bool.not_eq_true,
      ← Bool.not_eq_true, contains_insert_iff]
    by_cases ha : s.contains a = true
    · -- the element is there already: neither it nor what equals it is new
      have hequal : cmp x a = .eq → s.contains x = true := by
        intro hxa
        rw [← insert_eq_self ha]
        exact contains_insert_iff.2 (.inl hxa)
      have hsame : x = a → s.contains x = true := by
        rintro rfl
        exact ha
      rw [insert_eq_self ha]
      tauto
    · have hsame : x = a → ¬s.contains x = true := by
        rintro rfl
        exact ha
      rw [mem_insert_iff (Bool.not_eq_true _ ▸ ha)]
      tauto

theorem mem_ofList_iff_firstIn [Std.TransCmp cmp] {l : List α} {x : α} :
    x ∈ (ofList l : SortedSet α cmp).toList ↔ FirstIn cmp l x := by
  rw [ofList, mem_insertAll_iff_firstIn, contains_empty]
  simp

end SortedSet

end Configurator
