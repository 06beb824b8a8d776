/-
What a command line says. It says plain arguments, values of options, and flags, one item after the other; options
are what the items say, in whatever order arguments, values and flags are mixed. Options take the items one by one
and refuse a second value or a second flag where one is all. Main statements: the same items say the same options,
and an item that options say behind what was said before is taken.
-/
import Configurator.CommandLine
import Mathlib.Data.Option.Basic

namespace Configurator.CommandLine

/-! ## Items -/

/-- One thing that a command line says. -/
inductive Item where
  | argument (text : String)
  | value (option : ValueOption) (text : String)
  | dryRun
  | verbose
  deriving DecidableEq, Repr

namespace Item

/-- The text of a plain argument. -/
def argument? : Item → Option String
  | argument text => some text
  | _ => none

/-- The value that is said for an option. -/
def value? (option : ValueOption) : Item → Option String
  | value o text => if o = option then some text else none
  | _ => none

/-- The item looks like nothing else: an argument does not begin like an option, and a value is not empty and
begins neither like an option nor with the sign in front of a value. -/
def Plain : Item → Prop
  | argument text => text.toList.head? ≠ some '-'
  | value _ text => text ≠ "" ∧ text.toList.head? ≠ some '-' ∧ text.toList.head? ≠ some '='
  | dryRun | verbose => True

instance : DecidablePred Plain
  | argument text => inferInstanceAs (Decidable (text.toList.head? ≠ some '-'))
  | value _ text =>
    inferInstanceAs (Decidable (text ≠ "" ∧ text.toList.head? ≠ some '-' ∧ text.toList.head? ≠ some '='))
  | dryRun | verbose => .isTrue trivial

end Item

/-- The name of a format. -/
def formatName : Format → String
  | .text => "text"
  | .json => "json"

namespace Options

/-- The values that the options have for an option. -/
def values (o : Options) : ValueOption → List String
  | .directory => o.directory.toList
  | .compiler => o.compiler.toList
  | .sourceDir => o.sourceDir.toList
  | .extension => o.extensions
  | .exclude => o.exclude
  | .format => (o.format.map formatName).toList

/-- The items say the options: the arguments in their order, the values of each option in their order, and each
flag once if it is raised. How these are mixed is left open. -/
structure SaidBy (o : Options) (items : List Item) : Prop where
  args : items.filterMap Item.argument? = o.args
  values : ∀ option, items.filterMap (Item.value? option) = o.values option
  dryRun : items.count .dryRun = o.dryRun.toNat
  verbose : items.count .verbose = o.verbose.toNat

/-- No argument and no value looks like something else. -/
structure Plain (o : Options) : Prop where
  args : ∀ arg ∈ o.args, (Item.argument arg).Plain
  values : ∀ option, ∀ value ∈ o.values option, (Item.value option value).Plain

/-- Takes an item. -/
def take (o : Options) : Item → Except Stop Options
  | .argument text => .ok { o with args := o.args ++ [text] }
  | .value option text => o.accept option text
  | .dryRun => o.raise .dryRun
  | .verbose => o.raise .verbose

/-! ## Taking an item -/

variable {o o' target : Options} {item : Item} {said rest : List Item}

/-- The options say what they said before, and the item. -/
structure Adds (o : Options) (item : Item) (o' : Options) : Prop where
  args : o'.args = o.args ++ item.argument?.toList
  values : ∀ option, o'.values option = o.values option ++ (item.value? option).toList
  dryRun : o'.dryRun.toNat = o.dryRun.toNat + [item].count .dryRun
  verbose : o'.verbose.toNat = o.verbose.toNat + [item].count .verbose

theorem SaidBy.adds (h : o.SaidBy said) (hadds : o.Adds item o') : o'.SaidBy (said ++ [item]) := by
  refine ⟨?_, fun option => ?_, ?_, ?_⟩
  · rw [List.filterMap_append, h.args, hadds.args]
    cases item <;> rfl
  · rw [List.filterMap_append, h.values, hadds.values]
    cases hvalue : item.value? option <;> simp [hvalue]
  · rw [List.count_append, h.dryRun, hadds.dryRun]
  · rw [List.count_append, h.verbose, hadds.verbose]

theorem values_of_given {option : ValueOption} (h : o.given option = true) :
    o.values option ≠ [] ∧ ∀ o' : Options, (o'.values option).length ≤ 1 := by
  cases option with
  | extension | exclude => cases h
  | directory | compiler | sourceDir | format =>
    obtain ⟨value, hvalue⟩ := Option.isSome_iff_exists.1 h
    exact ⟨by simp [values, hvalue], fun o' => Option.length_toList_le⟩

theorem formatOfName?_formatName (format : Format) : formatOfName? (formatName format) = some format := by
  cases format <;> rfl

/-- An option that is free takes a value. -/
theorem accept_adds {option : ValueOption} {text : String} (hfree : o.given option = false) (hne : text ≠ "")
    (hformat : option = .format → ∃ format, formatName format = text) :
    ∃ o', o.accept option text = .ok o' ∧ o.Adds (.value option text) o' := by
  -- an option with one value is free when it has none, so the new value is all it has then;
  -- `extension` and `exclude` always take one more
  cases option with
  | directory =>
    have hnone : o.directory = none := by simpa [given] using hfree
    refine ⟨{ o with directory := some text }, by simp [accept, hfree, hne], (List.append_nil _).symm, ?_,
      rfl, rfl⟩
    intro p
    cases p <;> simp [values, Item.value?, hnone]
  | compiler =>
    have hnone : o.compiler = none := by simpa [given] using hfree
    refine ⟨{ o with compiler := some text }, by simp [accept, hfree], (List.append_nil _).symm, ?_, rfl, rfl⟩
    intro p
    cases p <;> simp [values, Item.value?, hnone]
  | sourceDir =>
    have hnone : o.sourceDir = none := by simpa [given] using hfree
    refine ⟨{ o with sourceDir := some text }, by simp [accept, hfree, hne], (List.append_nil _).symm, ?_,
      rfl, rfl⟩
    intro p
    cases p <;> simp [values, Item.value?, hnone]
  | extension =>
    refine ⟨{ o with extensions := o.extensions ++ [text] }, by simp [accept, hfree], (List.append_nil _).symm, ?_,
      rfl, rfl⟩
    intro p
    cases p <;> simp [values, Item.value?]
  | exclude =>
    refine ⟨{ o with exclude := o.exclude ++ [text] }, by simp [accept, hfree, hne], (List.append_nil _).symm, ?_,
      rfl, rfl⟩
    intro p
    cases p <;> simp [values, Item.value?]
  | format =>
    obtain ⟨format, rfl⟩ := hformat rfl
    have hnone : o.format = none := by simpa [given] using hfree
    refine ⟨{ o with format := some format }, by simp [accept, hfree, hne, formatOfName?_formatName],
      (List.append_nil _).symm, ?_, rfl, rfl⟩
    intro p
    cases p <;> simp [values, Item.value?, hnone]

theorem raise_adds_dryRun (h : o.dryRun = false) : ∃ o', o.raise .dryRun = .ok o' ∧ o.Adds .dryRun o' := by
  refine ⟨{ o with dryRun := true }, by simp [raise, h], (List.append_nil _).symm, ?_, by simp [h], rfl⟩
  intro p
  cases p <;> simp [values, Item.value?]

theorem raise_adds_verbose (h : o.verbose = false) : ∃ o', o.raise .verbose = .ok o' ∧ o.Adds .verbose o' := by
  refine ⟨{ o with verbose := true }, by simp [raise, h], (List.append_nil _).symm, ?_, rfl, by simp [h]⟩
  intro p
  cases p <;> simp [values, Item.value?]

/-- An option that may be given once is still free when its value is said. -/
theorem SaidBy.given_eq_false {option : ValueOption} {text : String} (h : o.SaidBy said)
    (htarget : target.SaidBy (said ++ .value option text :: rest)) : o.given option = false := by
  have hvalues : o.values option ++ text :: rest.filterMap (Item.value? option) = target.values option := by
    rw [← htarget.values, ← h.values, List.filterMap_append]
    simp [Item.value?]
  rw [← Bool.not_eq_true]
  intro hgiven
  obtain ⟨hne, hone⟩ := values_of_given hgiven
  have hlength := hone target
  rw [← hvalues, List.length_append, List.length_cons] at hlength
  have := List.length_pos_iff.2 hne
  omega

/-- A flag that may be raised once is not raised yet when it is said. -/
theorem eq_false_of_count {flag : Item} {raised raised' : Bool} (h : said.count flag = raised.toNat)
    (htarget : (said ++ flag :: rest).count flag = raised'.toNat) : raised = false := by
  rw [List.count_append, List.count_cons_self, h] at htarget
  have := raised'.toNat_le
  cases raised with
  | false => rfl
  | true =>
    rw [Bool.toNat_true] at htarget
    omega

/-- What is said as a format is the name of one. -/
theorem SaidBy.exists_format {text : String} (htarget : target.SaidBy (said ++ .value .format text :: rest)) :
    ∃ format, formatName format = text := by
  have hmem : text ∈ target.values .format := by
    rw [← htarget.values]
    exact List.mem_filterMap.2 ⟨_, List.mem_append_right _ List.mem_cons_self, rfl⟩
  simp only [Options.values, Option.toList_map, List.mem_map] at hmem
  obtain ⟨format, -, hname⟩ := hmem
  exact ⟨format, hname⟩

/-- An item that some options say behind what was said before is taken. -/
theorem SaidBy.take (h : o.SaidBy said) (htarget : target.SaidBy (said ++ item :: rest)) (hplain : item.Plain) :
    ∃ o', o.take item = .ok o' ∧ o'.SaidBy (said ++ [item]) := by
  have hadds : ∃ o', o.take item = .ok o' ∧ o.Adds item o' := by
    cases item with
    | argument text =>
      refine ⟨{ o with args := o.args ++ [text] }, rfl, rfl, fun p => ?_, rfl, rfl⟩
      cases p <;> simp [Options.values, Item.value?]
    | value option text =>
      refine accept_adds (h.given_eq_false htarget) hplain.1 ?_
      rintro rfl
      exact htarget.exists_format
    | dryRun => exact raise_adds_dryRun (eq_false_of_count h.dryRun htarget.dryRun)
    | verbose => exact raise_adds_verbose (eq_false_of_count h.verbose htarget.verbose)
  obtain ⟨o', htake, hadds⟩ := hadds
  exact ⟨o', htake, h.adds hadds⟩

/-! ## What items say -/

theorem formatName_injective : Function.Injective formatName := by
  intro format format' h
  have hread := congrArg formatOfName? h
  rwa [formatOfName?_formatName, formatOfName?_formatName, Option.some_inj] at hread

/-- The same items say the same options. -/
theorem SaidBy.unique {items : List Item} (h : o.SaidBy items) (h' : o'.SaidBy items) : o = o' := by
  have hvalues (option : ValueOption) : o.values option = o'.values option :=
    (h.values option).symm.trans (h'.values option)
  have hsingle {α : Type} {value value' : Option α} (heq : value.toList = value'.toList) : value = value' := by
    simpa using congrArg List.head? heq
  have hraised {flag flag' : Bool} (heq : flag.toNat = flag'.toNat) : flag = flag' := by
    cases flag <;> cases flag' <;> first | rfl | cases heq
  have hformat : o.format = o'.format :=
    Option.map_injective formatName_injective (hsingle (hvalues .format))
  have hdryRun : o.dryRun = o'.dryRun := hraised (h.dryRun.symm.trans h'.dryRun)
  have hverbose : o.verbose = o'.verbose := hraised (h.verbose.symm.trans h'.verbose)
  cases o
  cases o'
  rw [mk.injEq]
  exact ⟨h.args.symm.trans h'.args, hsingle (hvalues .directory), hsingle (hvalues .compiler),
    hsingle (hvalues .sourceDir), hvalues .extension, hvalues .exclude, hdryRun, hformat, hverbose⟩

theorem saidBy_nil : ({} : Options).SaidBy [] :=
  ⟨rfl, fun option => by cases option <;> rfl, rfl, rfl⟩

theorem Plain.plain_of_mem {items : List Item} (hplain : o.Plain) (h : o.SaidBy items) (hitem : item ∈ items) :
    item.Plain := by
  cases item with
  | argument text =>
    apply hplain.args
    rw [← h.args]
    exact List.mem_filterMap.2 ⟨_, hitem, rfl⟩
  | value option text =>
    apply hplain.values option
    rw [← h.values]
    exact List.mem_filterMap.2 ⟨_, hitem, if_pos rfl⟩
  | dryRun | verbose => trivial

end Options

end Configurator.CommandLine
