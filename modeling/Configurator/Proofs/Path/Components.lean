/-
The components of joined paths. Whatever way a root is spelled, joining it with the name of an entry
adds this name to its components and nothing else, so two entries below one root have equal paths only
if the same names lead to them. Main statements: the components of a path below a root, and how such a
path is spelled.
-/
import Configurator.Discovery
import Mathlib.Data.List.Induction

namespace Configurator

/-- A name that an entry of a directory can have. -/
structure IsName (name : Name) : Prop where
  ne_nil : name ≠ []
  slash_notMem : slash ∉ name
  nul_notMem : 0 ∉ name
  ne_dot : name ≠ [dot]
  ne_dots : name ≠ [dot, dot]

instance (name : Name) : Decidable (IsName name) :=
  decidable_of_iff (name ≠ [] ∧ slash ∉ name ∧ 0 ∉ name ∧ name ≠ [dot] ∧ name ≠ [dot, dot])
    ⟨fun ⟨h1, h2, h3, h4, h5⟩ => ⟨h1, h2, h3, h4, h5⟩, fun ⟨h1, h2, h3, h4, h5⟩ => ⟨h1, h2, h3, h4, h5⟩⟩

/-! ## Names as components -/

namespace Component

theorem ofPart?_name {name : Name} (h : IsName name) : ofPart? name = some (.name name) := by
  simp [ofPart?, h.ne_nil, h.ne_dot, h.ne_dots]

theorem ofFirstPart?_alone {part : Bytes} (h : part ≠ []) (alone : Bool) :
    ofFirstPart? part alone = ofFirstPart? part false := by
  simp [ofFirstPart?, h]

end Component

namespace Path

/-! ## Components -/

/-- The components of a path with a slash in it, seen from that slash. -/
theorem components_append_slash (l r : Bytes) {first : Bytes} {rest : List Bytes}
    (h : Text.pieces slash l = first :: rest) :
    (Path.mk (l ++ slash :: r)).components =
      (Component.ofFirstPart? first false).toList ++
        (rest ++ Text.pieces slash r).filterMap Component.ofPart? := by
  have hne : (rest ++ Text.pieces slash r).isEmpty = false := by
    simp [Text.pieces_ne_nil]
  simp only [components, Text.pieces_append_sep, h, List.cons_append, hne]

theorem components_slash_end (l r : Bytes) :
    (Path.mk (l ++ slash :: r)).components =
      (Path.mk (l ++ [slash])).components ++ (Text.pieces slash r).filterMap Component.ofPart? := by
  cases hl : Text.pieces slash l with
  | nil => exact absurd hl (Text.pieces_ne_nil _ _)
  | cons first rest =>
    rw [components_append_slash l r hl, components_append_slash l [] hl]
    simp [Text.pieces, Component.ofPart?, List.filterMap_append]

theorem components_append_slash_of_ne_nil {l : Bytes} (h : l ≠ []) :
    (Path.mk (l ++ [slash])).components = (Path.mk l).components := by
  cases hl : Text.pieces slash l with
  | nil => exact absurd hl (Text.pieces_ne_nil _ _)
  | cons first rest =>
    rw [components_append_slash l [] hl]
    have hfirst : Component.ofFirstPart? first rest.isEmpty = Component.ofFirstPart? first false := by
      cases rest with
      | nil =>
        -- the only part of a path without a slash is the path itself
        have hjoin := Text.intercalate_pieces slash l
        rw [hl] at hjoin
        have : first = l := by simpa [List.intercalate] using hjoin
        exact Component.ofFirstPart?_alone (this ▸ h) _
      | cons _ _ => rfl
    simp [components, hl, hfirst, Text.pieces, Component.ofPart?, List.filterMap_append]

theorem isAbsolute_name {name : Name} (h : IsName name) : (Path.mk name).isAbsolute = false := by
  simp only [isAbsolute, decide_eq_false_iff_not]
  intro hhead
  exact h.slash_notMem (List.mem_of_mem_head? hhead)

/-- Joining a path with the name of an entry adds this name to its components. -/
theorem components_join_name (p : Path) {name : Name} (h : IsName name) :
    (p.join ⟨name⟩).components = p.components ++ [.name name] := by
  obtain ⟨bytes⟩ := p
  have hpieces : (Text.pieces slash name).filterMap Component.ofPart? = [.name name] := by
    rw [Text.pieces_of_notMem h.slash_notMem]
    simp [Component.ofPart?_name h]
  simp only [join, isAbsolute_name h, Bool.false_eq_true, if_false, Bool.or_eq_true, decide_eq_true_eq]
  split
  · next hend =>
    rcases hend with rfl | hend
    · simp [components, Text.pieces_of_notMem h.slash_notMem, Text.pieces, Component.ofFirstPart?, h.ne_nil,
        h.ne_dot, Component.ofPart?_name h]
    · obtain ⟨l, rfl⟩ := List.getLast?_eq_some_iff.1 hend
      rw [List.append_assoc, List.singleton_append, components_slash_end, hpieces]
  · next hend =>
    obtain ⟨hne, -⟩ := not_or.1 hend
    rw [components_slash_end, components_append_slash_of_ne_nil hne, hpieces]

end Path

namespace Discovery

/-! ## Paths below a root -/

theorem below_append (root : Path) (names : List Name) (name : Name) :
    below root (names ++ [name]) = (below root names).join ⟨name⟩ := by
  simp [below]

/-- The components of a path below a root are those of the root and then the names. -/
theorem components_below (root : Path) {names : List Name} (h : ∀ n ∈ names, IsName n) :
    (below root names).components = root.components ++ names.map .name := by
  induction names using List.reverseRecOn with
  | nil => simp [below]
  | append_singleton names name ih =>
    rw [below_append, Path.components_join_name _ (h name (by simp)),
      ih (fun n hn => h n (by simp [hn]))]
    simp

/-- Different names lead to paths that compare as different, whatever the root. -/
theorem below_injective (root : Path) {names names' : List Name} (h : ∀ n ∈ names, IsName n)
    (h' : ∀ n ∈ names', IsName n) (heq : Path.order (below root names) (below root names') = .eq) :
    names = names' := by
  rw [Path.order_eq_iff, components_below root h, components_below root h'] at heq
  have hmap := List.append_cancel_left heq
  exact (List.map_inj_right (fun _ _ hn => Component.name.inj hn)).1 hmap

theorem fileName?_below (root : Path) {names : List Name} {name : Name}
    (h : ∀ n ∈ names ++ [name], IsName n) : (below root (names ++ [name])).fileName? = some name := by
  rw [Path.fileName?, components_below root h]
  simp

/-! ## Spelling -/

/-- The root as it was written, a slash unless it ends in one, and the names with slashes in
between. -/
def spelled (root : Path) (names : List Name) : Path :=
  ⟨root.bytes ++ (if root.bytes.getLast? = some slash then [] else [slash]) ++ [slash].intercalate names⟩

theorem join_name_bytes (p : Path) {name : Name} (h : IsName name) (hp : p.bytes ≠ []) :
    (p.join ⟨name⟩).bytes =
      p.bytes ++ (if p.bytes.getLast? = some slash then [] else [slash]) ++ name := by
  simp only [Path.join, Path.isAbsolute_name h, Bool.false_eq_true, if_false, hp, decide_false,
    Bool.false_or, decide_eq_true_eq]
  split <;> simp

theorem intercalate_append_singleton {sep : Bytes} {names : List Name} (h : names ≠ []) (name : Name) :
    sep.intercalate (names ++ [name]) = sep.intercalate names ++ sep ++ name := by
  induction names with
  | nil => exact absurd rfl h
  | cons n rest ih =>
    cases rest with
    | nil => simp [List.intercalate]
    | cons m more => simp_all [List.intercalate]

theorem spelled_bytes_append (root : Path) {names : List Name} (h : names ≠ []) (name : Name) :
    (spelled root (names ++ [name])).bytes = (spelled root names).bytes ++ slash :: name := by
  simp [spelled, intercalate_append_singleton h]

/-- A path below a root does not end in a slash, even if the root does. -/
theorem getLast?_spelled (root : Path) {names : List Name} (hne : names ≠ [])
    (h : ∀ n ∈ names, IsName n) : (spelled root names).bytes.getLast? ≠ some slash := by
  obtain ⟨front, last, rfl⟩ : ∃ front last, names = front ++ [last] :=
    ⟨_, _, (List.dropLast_concat_getLast hne).symm⟩
  have hlast := h last (by simp)
  have hend : ∃ body, (spelled root (front ++ [last])).bytes = body ++ last := by
    cases front with
    | nil =>
      refine ⟨root.bytes ++ (if root.bytes.getLast? = some slash then [] else [slash]), ?_⟩
      simp [spelled, List.intercalate]
    | cons _ _ => exact ⟨_, by rw [spelled_bytes_append root (by simp), List.append_cons]⟩
  obtain ⟨body, hbody⟩ := hend
  rw [hbody, List.getLast?_append, Option.or_of_isSome (by simpa using hlast.ne_nil)]
  intro hslash
  exact hlast.slash_notMem (List.mem_of_getLast? hslash)

/-- A path below a root that is not empty is spelled like the root, followed by the names. -/
theorem below_bytes {root : Path} (hroot : root.bytes ≠ []) {names : List Name} (hne : names ≠ [])
    (h : ∀ n ∈ names, IsName n) : (below root names).bytes = (spelled root names).bytes := by
  induction names using List.reverseRecOn with
  | nil => exact absurd rfl hne
  | append_singleton names name ih =>
    have hname := h name (by simp)
    have hnames : ∀ n ∈ names, IsName n := fun n hn => h n (by simp [hn])
    rw [below_append]
    by_cases hfront : names = []
    · -- only here the slash depends on how the root ends
      subst hfront
      rw [show below root [] = root from rfl, join_name_bytes root hname hroot]
      simp [spelled, List.intercalate]
    · have ih := ih hfront hnames
      have hfull : (below root names).bytes ≠ [] := by
        rw [ih]
        simp [spelled, hroot]
      rw [join_name_bytes _ hname hfull, ih, if_neg (getLast?_spelled root hfront hnames),
        spelled_bytes_append root hfront]
      simp

theorem below_eq_spelled {root : Path} (hroot : root.bytes ≠ []) {names : List Name} (hne : names ≠ [])
    (h : ∀ n ∈ names, IsName n) : below root names = spelled root names :=
  congrArg Path.mk (below_bytes hroot hne h)

end Discovery

end Configurator
