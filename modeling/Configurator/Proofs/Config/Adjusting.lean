/-
What a sequence of changes makes of a configuration. Compilers, roots and endings replace one another, so the
last one that is named counts; exclusions add up. Main statement: each part of the configuration, read off
the changes.
-/
import Configurator.Config
import Configurator.Proofs.Container.Members

namespace Configurator.Config

/-! ## What a change names -/

namespace Adjustment

/-- The compiler that a change names. -/
def compiler? : Adjustment → Option String
  | compiler name => some name
  | _ => none

/-- The root that a change names. -/
def sourceRoot? : Adjustment → Option Path
  | sourceRoot root => some root
  | _ => none

/-- The endings that a change names, if there are any. -/
def endings? : Adjustment → Option (List String)
  | extensions endings => if endings.isEmpty then none else some endings
  | _ => none

/-- The exclusions that a change names. -/
def excluded : Adjustment → List Path
  | exclude paths => paths
  | _ => []

end Adjustment

section Named

variable (l : List Adjustment)

/-- The last compiler that is named. -/
def lastCompiler : String := (l.filterMap Adjustment.compiler?).getLast?.getD defaultCompiler

/-- The last root that is named. -/
def lastSourceRoot : Path := (l.filterMap Adjustment.sourceRoot?).getLast?.getD (.ofString defaultSourceRoot)

/-- The last endings that are named. -/
def lastEndings : List String := (l.filterMap Adjustment.endings?).getLast?.getD defaultExtensions

/-- All exclusions that are named. -/
def exclusions : List Path := l.flatMap Adjustment.excluded

end Named

/-! ## What becomes of it -/

/-- A change replaces what it names and adds the exclusions that it names. -/
theorem adjust_eq (c : Config) (a : Adjustment) :
    adjust c a =
      { compiler := a.compiler?.getD c.compiler
        sourceRoot := a.sourceRoot?.getD c.sourceRoot
        extensions := (a.endings?.map SortedSet.ofList).getD c.extensions
        exclude := c.exclude.insertAll a.excluded } := by
  cases a with
  | compiler name | sourceRoot root | exclude paths => rfl
  | extensions endings =>
    simp only [adjust, withExtensions, Adjustment.endings?]
    split <;> rfl

/-- A part that changes replace or leave alone is, after all of them, what the last replacing one says. -/
theorem foldl_adjust_of_replaces {β : Type} {part : Config → β} {named? : Adjustment → Option β}
    (h : ∀ c a, part (adjust c a) = (named? a).getD (part c)) (l : List Adjustment) (c : Config) :
    part (l.foldl adjust c) = (l.filterMap named?).getLast?.getD (part c) := by
  induction l generalizing c with
  | nil => rfl
  | cons a rest ih =>
    rw [List.foldl_cons, ih, h, List.filterMap_cons]
    cases named? a with
    | none => rfl
    | some value => cases hrest : (rest.filterMap named?).getLast? <;> simp [List.getLast?_cons, hrest]

section Folding

variable (l : List Adjustment) (c : Config)

theorem compiler_foldl_adjust :
    (l.foldl adjust c).compiler = (l.filterMap Adjustment.compiler?).getLast?.getD c.compiler :=
  foldl_adjust_of_replaces (fun c a => by rw [adjust_eq]) l c

theorem sourceRoot_foldl_adjust :
    (l.foldl adjust c).sourceRoot = (l.filterMap Adjustment.sourceRoot?).getLast?.getD c.sourceRoot :=
  foldl_adjust_of_replaces (fun c a => by rw [adjust_eq]) l c

theorem extensions_foldl_adjust :
    (l.foldl adjust c).extensions =
      ((l.filterMap Adjustment.endings?).getLast?.map SortedSet.ofList).getD c.extensions := by
  have hparts : (l.foldl adjust c).extensions =
      (l.filterMap fun a => a.endings?.map SortedSet.ofList).getLast?.getD c.extensions :=
    foldl_adjust_of_replaces (fun c a => by rw [adjust_eq]) l c
  rw [hparts, ← List.map_filterMap, List.getLast?_map]

end Folding

theorem exclude_foldl_adjust (l : List Adjustment) (c : Config) :
    (l.foldl adjust c).exclude = c.exclude.insertAll (exclusions l) := by
  induction l generalizing c with
  | nil => rfl
  | cons a rest ih =>
    rw [List.foldl_cons, ih, adjust_eq, ← SortedSet.insertAll_append]
    rfl

variable (l : List Adjustment)

theorem compiler_ofAdjustments : (ofAdjustments l).compiler = lastCompiler l := compiler_foldl_adjust l default

theorem sourceRoot_ofAdjustments : (ofAdjustments l).sourceRoot = lastSourceRoot l :=
  sourceRoot_foldl_adjust l default

theorem extensions_ofAdjustments : (ofAdjustments l).extensions = .ofList (lastEndings l) := by
  rw [ofAdjustments, extensions_foldl_adjust, lastEndings]
  cases (l.filterMap Adjustment.endings?).getLast? <;> rfl

theorem exclude_ofAdjustments : (ofAdjustments l).exclude = .ofList (exclusions l) :=
  exclude_foldl_adjust l default

end Configurator.Config
