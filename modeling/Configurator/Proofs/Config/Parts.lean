/-
The parts of a configuration. A change touches one part, so a part of the configuration in the end is a
function of the changes to it: for the compiler and the root the last of them, for the endings the last of
them that names any, for the exclusions all of them, each in the spelling that came first. Main statement: a
configuration is the default one after a sequence of changes exactly when its parts are these, and every change
leaves the other parts alone.
-/
import Configurator.Proofs.Config.Adjusting

namespace Configurator.Config

/-! ## Parts -/

/-- A part of a configuration. -/
inductive Part where
  | compiler
  | sourceRoot
  | extensions
  | exclude
  deriving DecidableEq

/-- The part that a change is for. -/
def Adjustment.part : Adjustment → Part
  | compiler _ => .compiler
  | sourceRoot _ => .sourceRoot
  | extensions _ => .extensions
  | exclude _ => .exclude

theorem Adjustment.silent (a : Adjustment) :
    (a.part ≠ .compiler → a.compiler? = none) ∧ (a.part ≠ .sourceRoot → a.sourceRoot? = none) ∧
    (a.part ≠ .extensions → a.endings? = none) ∧ (a.part ≠ .exclude → a.excluded = []) := by
  cases a <;> simp [part, compiler?, sourceRoot?, endings?, excluded]

/-- Two configurations have the same part. -/
def SameAt (c c' : Config) : Part → Prop
  | .compiler => c.compiler = c'.compiler
  | .sourceRoot => c.sourceRoot = c'.sourceRoot
  | .extensions => c.extensions = c'.extensions
  | .exclude => c.exclude = c'.exclude

/-- A configuration is given by its parts. -/
theorem eq_of_sameAt {c c' : Config} (h : ∀ part, SameAt c c' part) : c = c' := by
  cases c
  cases c'
  rw [mk.injEq]
  exact ⟨h .compiler, h .sourceRoot, h .extensions, h .exclude⟩

/-- A change leaves the parts alone that it is not for. -/
theorem sameAt_adjust (c : Config) {a : Adjustment} {part : Part} (h : part ≠ a.part) :
    SameAt (adjust c a) c part := by
  obtain ⟨hcompiler, hroot, hendings, hexcluded⟩ := a.silent
  rw [adjust_eq]
  cases part with
  | compiler => rw [hcompiler h.symm]; rfl
  | sourceRoot => rw [hroot h.symm]; rfl
  | extensions => rw [hendings h.symm]; rfl
  | exclude => rw [hexcluded h.symm]; rfl

/-! ## Changes in another order -/

/-- Two sequences with the same changes to every part, in the same order: they are the same changes, mixed in
another way. -/
def Reordered (l l' : List Adjustment) : Prop :=
  ∀ part, l.filter (fun a => a.part = part) = l'.filter (fun a => a.part = part)

namespace Reordered

variable {l l' : List Adjustment}

/-- What is read off the changes to one part is the same in both sequences. -/
theorem flatMap_eq {β : Type} {named : Adjustment → List β} (h : Reordered l l') (part : Part)
    (hnone : ∀ a, a.part ≠ part → named a = []) : l.flatMap named = l'.flatMap named := by
  have hpart : ∀ k : List Adjustment, (k.filter fun a => a.part = part).flatMap named = k.flatMap named := by
    intro k
    induction k with
    | nil => rfl
    | cons a rest ih =>
      by_cases ha : a.part = part
      · rw [List.filter_cons_of_pos (by simpa using ha), List.flatMap_cons, List.flatMap_cons, ih]
      · rw [List.filter_cons_of_neg (by simpa using ha), List.flatMap_cons, hnone a ha, List.nil_append, ih]
  rw [← hpart l, ← hpart l', h part]

theorem filterMap_eq {β : Type} {named? : Adjustment → Option β} (h : Reordered l l') (part : Part)
    (hnone : ∀ a, a.part ≠ part → named? a = none) : l.filterMap named? = l'.filterMap named? := by
  rw [List.filterMap_eq_flatMap_toList, List.filterMap_eq_flatMap_toList]
  refine h.flatMap_eq part fun a ha => ?_
  rw [hnone a ha, Option.toList_none]

/-- Changes to different parts may change places, whatever configuration they are made to. -/
theorem foldl_adjust_eq (h : Reordered l l') (c : Config) : l.foldl adjust c = l'.foldl adjust c := by
  have hcompiler : l.filterMap Adjustment.compiler? = l'.filterMap Adjustment.compiler? :=
    h.filterMap_eq .compiler fun a => a.silent.1
  have hroot : l.filterMap Adjustment.sourceRoot? = l'.filterMap Adjustment.sourceRoot? :=
    h.filterMap_eq .sourceRoot fun a => a.silent.2.1
  have hendings : l.filterMap Adjustment.endings? = l'.filterMap Adjustment.endings? :=
    h.filterMap_eq .extensions fun a => a.silent.2.2.1
  have hexclusions : exclusions l = exclusions l' := h.flatMap_eq .exclude fun a => a.silent.2.2.2
  apply eq_of_sameAt
  intro part
  cases part with
  | compiler => simp only [SameAt, compiler_foldl_adjust, hcompiler]
  | sourceRoot => simp only [SameAt, sourceRoot_foldl_adjust, hroot]
  | extensions => simp only [SameAt, extensions_foldl_adjust, hendings]
  | exclude => simp only [SameAt, exclude_foldl_adjust, hexclusions]

end Reordered

/-! ## The configuration in the end -/

theorem lastEndings_ne_nil (l : List Adjustment) : lastEndings l ≠ [] := by
  rw [lastEndings]
  cases hlast : (l.filterMap Adjustment.endings?).getLast? with
  | none => simp [defaultExtensions]
  | some endings =>
    obtain ⟨a, -, ha⟩ := List.mem_filterMap.1 (List.mem_of_getLast? hlast)
    rintro rfl
    cases a <;> simp [Adjustment.endings?] at ha

/-- The parts of a configuration that is made by a sequence of changes. -/
structure MadeBy (l : List Adjustment) (c : Config) : Prop where
  compiler : c.compiler = lastCompiler l
  sourceRoot : c.sourceRoot = lastSourceRoot l
  mem_extensions : ∀ ending, ending ∈ c.extensions.toList ↔ ending ∈ lastEndings l
  /-- Of the exclusions with the same components the first one is kept. -/
  mem_exclude : ∀ p, p ∈ c.exclude.toList ↔
    ∃ before after, exclusions l = before ++ p :: after ∧ ∀ q ∈ before, p.components ≠ q.components

theorem madeBy_ofAdjustments (l : List Adjustment) : MadeBy l (ofAdjustments l) where
  compiler := compiler_ofAdjustments l
  sourceRoot := sourceRoot_ofAdjustments l
  mem_extensions ending := by rw [extensions_ofAdjustments, SortedSet.mem_ofList_iff]
  mem_exclude p := by
    rw [exclude_ofAdjustments, SortedSet.mem_ofList_iff_firstIn]
    simp only [SortedSet.FirstIn, ne_eq, Path.order_eq_iff]

/-- No two configurations are made by the same changes. -/
theorem MadeBy.unique {l : List Adjustment} {c c' : Config} (h : MadeBy l c) (h' : MadeBy l c') : c = c' := by
  apply eq_of_sameAt
  intro part
  cases part with
  | compiler => exact h.compiler.trans h'.compiler.symm
  | sourceRoot => exact h.sourceRoot.trans h'.sourceRoot.symm
  | extensions =>
    exact SortedSet.eq_of_mem_iff fun ending => (h.mem_extensions ending).trans (h'.mem_extensions ending).symm
  | exclude => exact SortedSet.eq_of_mem_iff fun p => (h.mem_exclude p).trans (h'.mem_exclude p).symm

/-- The default configuration after a sequence of changes is the one that is made by them. Some ending is always
looked for; the exclusions are those that were named, up to their spelling, in the order of their components. A
change touches the part it is for and no other, so changes to different parts may change places. -/
theorem ofAdjustments_exact (l : List Adjustment) :
    (∀ c, c = ofAdjustments l ↔ MadeBy l c) ∧
    (ofAdjustments l).extensions.toList ≠ [] ∧
    (∀ p, (ofAdjustments l).exclude.contains p = true ↔ ∃ q ∈ exclusions l, p.components = q.components) ∧
    (ofAdjustments l).exclude.toList.Pairwise (fun p q => Path.order p q = .lt) ∧
    (∀ c a part, part ≠ a.part → SameAt (adjust c a) c part) ∧
    ∀ l', Reordered l l' → ∀ c, l.foldl adjust c = l'.foldl adjust c := by
  refine ⟨fun c => ⟨?_, ?_⟩, ?_, ?_, (ofAdjustments l).exclude.ascending, fun c a part => sameAt_adjust c,
    fun l' => Reordered.foldl_adjust_eq⟩
  · rintro rfl
    exact madeBy_ofAdjustments l
  · intro h
    exact h.unique (madeBy_ofAdjustments l)
  · obtain ⟨ending, hending⟩ := List.exists_mem_of_ne_nil _ (lastEndings_ne_nil l)
    exact List.ne_nil_of_mem (((madeBy_ofAdjustments l).mem_extensions ending).2 hending)
  · intro p
    rw [exclude_ofAdjustments, SortedSet.contains_ofList_iff]
    simp only [Path.order_eq_iff]

/-- Changes as they may come: an exclusion in two spellings, endings that are named and then none. -/
def chained : List Adjustment :=
  [.exclude [.ofString "lib/a.c"], .compiler "gcc", .extensions [".h", ".c"],
    .exclude [.ofString "lib//./a.c", .ofString "a.c"], .extensions [], .compiler "clang"]

/-- The same changes, part by part. -/
def grouped : List Adjustment :=
  [.compiler "gcc", .compiler "clang", .extensions [".h", ".c"], .extensions [],
    .exclude [.ofString "lib/a.c"], .exclude [.ofString "lib//./a.c", .ofString "a.c"]]

theorem ofAdjustments_exact_chained :
    Reordered chained grouped ∧ ofAdjustments chained = ofAdjustments grouped ∧
    MadeBy chained (ofAdjustments chained) ∧
    lastCompiler chained = "clang" ∧ lastEndings chained = [".h", ".c"] ∧
    (ofAdjustments chained).exclude.toList = [.ofString "a.c", .ofString "lib/a.c"] ∧
    ∀ c, SameAt (adjust c (.extensions [])) c .exclude := by
  obtain ⟨hmade, -, -, -, hkeeps, hreordered⟩ := ofAdjustments_exact chained
  have hmixed : Reordered chained grouped := by
    intro part
    cases part <;> rfl
  exact ⟨hmixed, hreordered grouped hmixed default, (hmade _).1 rfl, rfl, rfl, by decide +kernel,
    fun c => hkeeps c (.extensions []) .exclude (by decide)⟩

end Configurator.Config
