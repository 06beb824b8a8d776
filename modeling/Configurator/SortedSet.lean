/-
Finite sets kept as strictly ascending lists. Two elements that the comparison calls equal are the
same member, and the spelling that was inserted first is the one that stays. Main statements: an
insertion adds its element unless an equal one is present, and the list of a set is always strictly
ascending, which is part of the type.
-/

namespace Configurator

universe u

/-! ## Insertion into an ascending list -/

/-- Puts `a` in its place, or leaves the list alone when an equal element is there already. -/
def insertAscending {α : Type u} (cmp : α → α → Ordering) (a : α) : List α → List α
  | [] => [a]
  | b :: rest =>
    match cmp a b with
    | .lt => a :: b :: rest
    | .eq => b :: rest
    | .gt => b :: insertAscending cmp a rest

theorem mem_of_mem_insertAscending {α : Type u} {cmp : α → α → Ordering} {a x : α} {l : List α}
    (h : x ∈ insertAscending cmp a l) : x = a ∨ x ∈ l := by
  induction l with
  | nil => simpa [insertAscending] using h
  | cons b rest ih =>
    simp only [insertAscending] at h
    split at h
    · simpa using h
    · exact .inr h
    · rcases List.mem_cons.1 h with rfl | h
      · simp
      · rcases ih h with rfl | h <;> simp_all

theorem mem_insertAscending_of_mem {α : Type u} {cmp : α → α → Ordering} {a x : α} {l : List α}
    (h : x ∈ l) : x ∈ insertAscending cmp a l := by
  induction l with
  | nil => simp at h
  | cons b rest ih =>
    simp only [insertAscending]
    split
    · exact List.mem_cons_of_mem _ h
    · exact h
    · rcases List.mem_cons.1 h with rfl | h
      · simp
      · exact List.mem_cons_of_mem _ (ih h)

/-- Insertion keeps a list strictly ascending. -/
theorem pairwise_insertAscending {α : Type u} {cmp : α → α → Ordering} [Std.TransCmp cmp] (a : α)
    {l : List α} (h : l.Pairwise (fun x y => cmp x y = .lt)) :
    (insertAscending cmp a l).Pairwise (fun x y => cmp x y = .lt) := by
  induction l with
  | nil => simp [insertAscending]
  | cons b rest ih =>
    obtain ⟨hb, hrest⟩ := List.pairwise_cons.1 h
    simp only [insertAscending]
    split
    · next hab =>
      refine List.pairwise_cons.2 ⟨fun y hy => ?_, h⟩
      rcases List.mem_cons.1 hy with rfl | hy
      · exact hab
      · exact Std.TransCmp.lt_trans hab (hb y hy)
    · exact h
    · next hab =>
      refine List.pairwise_cons.2 ⟨fun y hy => ?_, ih hrest⟩
      rcases mem_of_mem_insertAscending hy with rfl | hy
      · exact Std.OrientedCmp.gt_iff_lt.1 hab
      · exact hb y hy

/-! ## Looking for an element -/

/-- Whether an ascending list has an element equal to `a`; the search ends where `a` would stand. -/
def containsAscending {α : Type u} (cmp : α → α → Ordering) (a : α) : List α → Bool
  | [] => false
  | b :: rest =>
    match cmp a b with
    | .lt => false
    | .eq => true
    | .gt => containsAscending cmp a rest

/-- The search finds an equal element wherever in the list it stands. -/
theorem containsAscending_eq_any {α : Type u} {cmp : α → α → Ordering} [Std.TransCmp cmp] (a : α)
    {l : List α} (h : l.Pairwise (fun x y => cmp x y = .lt)) :
    containsAscending cmp a l = l.any (fun b => cmp a b == .eq) := by
  induction l with
  | nil => rfl
  | cons b rest ih =>
    obtain ⟨hb, hrest⟩ := List.pairwise_cons.1 h
    simp only [containsAscending, List.any_cons]
    split
    · next hab =>
      have hnone : rest.any (fun y => cmp a y == .eq) = false := by
        refine List.any_eq_false.2 fun y hy => ?_
        simp [Std.TransCmp.lt_trans hab (hb y hy)]
      simp [hab, hnone]
    · next hab => simp [hab]
    · next hab => simp [hab, ih hrest]

/-! ## The set -/

/-- A finite set of elements, listed in strictly ascending order of `cmp`. -/
structure SortedSet (α : Type u) (cmp : α → α → Ordering) where
  /-- The members in ascending order, each in the spelling in which it was first inserted. -/
  toList : List α
  ascending : toList.Pairwise (fun x y => cmp x y = .lt)

namespace SortedSet

variable {α : Type u} {cmp : α → α → Ordering}

@[ext]
theorem ext {s t : SortedSet α cmp} (h : s.toList = t.toList) : s = t := by
  cases s; cases t; simp_all

instance [DecidableEq α] : DecidableEq (SortedSet α cmp) := fun s t =>
  decidable_of_iff (s.toList = t.toList) ⟨ext, fun h => h ▸ rfl⟩

/-- The set without members. -/
def empty : SortedSet α cmp := ⟨[], .nil⟩

instance : Inhabited (SortedSet α cmp) := ⟨empty⟩

/-- The number of members. -/
def size (s : SortedSet α cmp) : Nat := s.toList.length

/-- Whether the set has no member. -/
def isEmpty (s : SortedSet α cmp) : Bool := s.toList.isEmpty

/-- Whether some member equals `a` under the comparison. -/
def contains (s : SortedSet α cmp) (a : α) : Bool := containsAscending cmp a s.toList

/-- Adds `a`; when an equal member is present, that member's spelling stays. -/
def insert [Std.TransCmp cmp] (s : SortedSet α cmp) (a : α) : SortedSet α cmp :=
  ⟨insertAscending cmp a s.toList, pairwise_insertAscending a s.ascending⟩

/-- Adds the elements one by one, from the first to the last. -/
def insertAll [Std.TransCmp cmp] (s : SortedSet α cmp) (l : List α) : SortedSet α cmp :=
  l.foldl insert s

/-- The set of the elements of a list; of equal elements the first spelling stays. -/
def ofList [Std.TransCmp cmp] (l : List α) : SortedSet α cmp := insertAll empty l

/-- The set of the elements of a list; of equal elements the last spelling stays. -/
def ofListLast [Std.TransCmp cmp] (l : List α) : SortedSet α cmp := ofList l.reverse

/-- The members that pass a test, in unchanged order and spelling. -/
def filter (p : α → Bool) (s : SortedSet α cmp) : SortedSet α cmp :=
  ⟨s.toList.filter p, s.ascending.filter p⟩

@[simp] theorem toList_empty : (empty : SortedSet α cmp).toList = [] := rfl

@[simp] theorem toList_insert [Std.TransCmp cmp] (s : SortedSet α cmp) (a : α) :
    (s.insert a).toList = insertAscending cmp a s.toList := rfl

/-- A set has a member equal to `a` exactly if its list does. -/
theorem contains_eq_any [Std.TransCmp cmp] (s : SortedSet α cmp) (a : α) :
    s.contains a = s.toList.any (fun b => cmp a b == .eq) :=
  containsAscending_eq_any a s.ascending

@[simp] theorem toList_filter (p : α → Bool) (s : SortedSet α cmp) :
    (s.filter p).toList = s.toList.filter p := rfl

end SortedSet

end Configurator
