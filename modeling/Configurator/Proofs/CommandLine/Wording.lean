/-
The wordings of a command line. Options are worded item by item, mixed in any order that keeps the arguments and
the values of each option in their own order, and each item in any of its forms. Reading an item does the same in
every form: it hands the item to the options that were read so far. Main statement: every wording of options is
accepted and read as these options, and the debug build is chosen without a question exactly if their only
argument is its shortcut.
-/
import Configurator.Program
import Configurator.Proofs.CommandLine.Items
import Configurator.Proofs.Dialogue.Profile
import Mathlib.Data.List.Forall2
import Mathlib.Data.List.TakeWhile

namespace Configurator.CommandLine

/-! ## Forms -/

/-- The forms in which an item is written, each with the arguments that it takes. -/
inductive Item.Form : Item → List String → Prop where
  | argument {text : String} : Form (.argument text) [text]
  | apart {option : ValueOption} {text : String} : Form (.value option text) ["--" ++ option.longName, text]
  | joined {option : ValueOption} {text : String} :
    Form (.value option text) ["--" ++ option.longName ++ "=" ++ text]
  | shortApart {text : String} : Form (.value .directory text) ["-C", text]
  | shortAttached {text : String} : Form (.value .directory text) ["-C" ++ text]
  | shortJoined {text : String} : Form (.value .directory text) ["-C=" ++ text]
  | dryRun : Form .dryRun ["--dry-run"]
  | verbose : Form .verbose ["--verbose"]
  | shortVerbose : Form .verbose ["-v"]

/-- The command line is a wording of the options. -/
def Options.WordedAs (o : Options) (line : List String) : Prop :=
  ∃ items words, o.SaidBy items ∧ List.Forall₂ Item.Form items words ∧ line = words.flatten

/-! ## Reading an item -/

namespace Reading

variable {r : Reading} {o o' : Options}

/-- The reading stands between two items, and the options say what it has read. -/
structure Between (r : Reading) (o : Options) : Prop where
  optionsAllowed : r.plainOnly = false
  settle : r.settle = .ok o

theorem between_start : ({} : Reading).Between {} := ⟨rfl, rfl⟩

theorem read_long (h : r.plainOnly = false) {arg : String} {c : Char} {text : List Char}
    (harg : arg.toList = '-' :: '-' :: c :: text) : r.read arg = r.readLong (c :: text) := by
  simp only [read, h, harg, Bool.false_eq_true, if_false]

theorem read_short (h : r.plainOnly = false) {arg : String} {c : Char} {letters : List Char} (hc : c ≠ '-')
    (harg : arg.toList = '-' :: c :: letters) : r.read arg = r.readShort (c :: letters) := by
  simp only [read, h, harg, Bool.false_eq_true, if_false]
  split
  · next heq => simp_all
  · next heq => simp_all
  · next heq => simp_all
  · next hnone => exact absurd rfl (hnone _ _)

theorem read_value (h : r.plainOnly = false) {arg : String} (harg : arg.toList.head? ≠ some '-') :
    r.read arg = r.readValue arg := by
  simp only [read, h, Bool.false_eq_true, if_false]
  split
  · next heq => simp [heq] at harg
  · next heq => simp [heq] at harg
  · next heq => simp [heq] at harg
  · rfl

/-! ### Long names -/

theorem ofName?_longName (option : ValueOption) : Long.ofName? option.longName = some (.option option) := by
  cases option <;> rfl

theorem longName_ne_sign (option : ValueOption) : ∀ c ∈ option.longName.toList, decide (c ≠ '=') = true := by
  cases option <;> simp [ValueOption.longName]

theorem exists_longName (option : ValueOption) : ∃ c text, option.longName.toList = c :: text := by
  cases option <;> exact ⟨_, _, rfl⟩

theorem readLong_longName (option : ValueOption) : r.readLong option.longName.toList = r.await option := by
  have htake : option.longName.toList.takeWhile (· ≠ '=') = option.longName.toList :=
    List.takeWhile_eq_self_iff.2 (longName_ne_sign option)
  have hdrop : option.longName.toList.dropWhile (· ≠ '=') = [] :=
    List.dropWhile_eq_nil_iff.2 (longName_ne_sign option)
  simp only [readLong, htake, hdrop, String.ofList_toList, ofName?_longName]

theorem readLong_joined (option : ValueOption) (text : String) :
    r.readLong (option.longName.toList ++ '=' :: text.toList) = r.accept option text := by
  have htake : (option.longName.toList ++ '=' :: text.toList).takeWhile (· ≠ '=') = option.longName.toList := by
    rw [List.takeWhile_append_of_pos (longName_ne_sign option), List.takeWhile_cons_of_neg (by decide),
      List.append_nil]
  have hdrop : (option.longName.toList ++ '=' :: text.toList).dropWhile (· ≠ '=') = '=' :: text.toList := by
    rw [List.dropWhile_append_of_pos (longName_ne_sign option), List.dropWhile_cons_of_neg (by decide)]
  simp only [readLong, htake, hdrop, String.ofList_toList, ofName?_longName]

theorem readLong_flagName (flag : Flag) : r.readLong flag.longName.toList = r.raise flag := by
  cases flag <;> rfl

/-! ### Short letters -/

theorem readShort_attached {text : String} (hne : text ≠ "") (hsign : text.toList.head? ≠ some '=') :
    r.readShort ('C' :: text.toList) = r.accept .directory text := by
  obtain ⟨c, more, htext⟩ := List.exists_cons_of_ne_nil (String.toList_eq_nil_iff.not.2 hne)
  have hc : c ≠ '=' := by
    rintro rfl
    exact hsign (by rw [htext]; rfl)
  have hread : r.readShort ('C' :: c :: more) = r.accept .directory (String.ofList (c :: more)) := by
    rw [readShort] <;> simp [hc]
  rw [htext, hread, ← htext, String.ofList_toList]

theorem readShort_verbose : r.readShort ['v'] = r.raise .verbose := by
  rw [readShort]
  cases r.raise .verbose <;> rfl

/-! ### One item -/

/-- The option is named by one argument, and its value is the next one. -/
theorem between_of_await (hr : r.Between o) {option : ValueOption} {arg text : String}
    (htext : text.toList.head? ≠ some '-') (hread : r.read arg = r.await option)
    (htake : o.accept option text = .ok o') : ∃ r', [arg, text].foldlM read r = .ok r' ∧ r'.Between o' := by
  refine ⟨{ r with options := o, pending := .holding option text }, ?_, hr.optionsAllowed, htake⟩
  have hawait : r.await option = .ok { r with options := o, pending := .awaiting option } := by
    rw [await, hr.settle]
    rfl
  have hvalue : read { r with options := o, pending := .awaiting option } text =
      .ok { r with options := o, pending := .holding option text } := by
    rw [read_value _ htext]
    · rfl
    · exact hr.optionsAllowed
  rw [List.foldlM_cons, hread, hawait]
  show List.foldlM read { r with options := o, pending := .awaiting option } [text] = _
  rw [List.foldlM_cons, hvalue]
  rfl

theorem between_of_accept (hr : r.Between o) {option : ValueOption} {arg text : String}
    (hread : r.read arg = r.accept option text) (htake : o.accept option text = .ok o') :
    ∃ r', [arg].foldlM read r = .ok r' ∧ r'.Between o' := by
  refine ⟨{ r with options := o', pending := .nothing }, ?_, hr.optionsAllowed, rfl⟩
  rw [List.foldlM_cons, hread, accept, hr.settle]
  show (o.accept option text >>= _) >>= _ = _
  rw [htake]
  rfl

theorem between_of_raise (hr : r.Between o) {flag : Flag} {arg : String} (hread : r.read arg = r.raise flag)
    (htake : o.raise flag = .ok o') : ∃ r', [arg].foldlM read r = .ok r' ∧ r'.Between o' := by
  refine ⟨{ r with options := o', pending := .nothing }, ?_, hr.optionsAllowed, rfl⟩
  rw [List.foldlM_cons, hread, raise, hr.settle]
  show (o.raise flag >>= _) >>= _ = _
  rw [htake]
  rfl

/-- Behind an item each form of the next one hands it to the options. -/
theorem Between.read_form {item : Item} {words : List String} (hr : r.Between o) (hform : item.Form words)
    (hplain : item.Plain) (htake : o.take item = .ok o') :
    ∃ r', words.foldlM read r = .ok r' ∧ r'.Between o' := by
  cases hform with
  | @argument text =>
    cases htake
    refine ⟨{ r with options := { o with args := o.args ++ [text] }, pending := .nothing }, ?_,
      hr.optionsAllowed, rfl⟩
    -- no value is awaited, for what was read before was settled
    have hplainly : r.readValue text = r.plain text := by
      rw [readValue]
      split
      · next option hpending =>
        have hsettle := hr.settle
        rw [Reading.settle, hpending] at hsettle
        cases hsettle
      · rfl
    rw [List.foldlM_cons, read_value hr.optionsAllowed hplain, hplainly, plain, hr.settle]
    rfl
  | @apart option text =>
    refine between_of_await hr hplain.2.1 ?_ htake
    obtain ⟨c, name, hname⟩ := exists_longName option
    have harg : ("--" ++ option.longName).toList = '-' :: '-' :: c :: name := by simp [hname]
    rw [read_long hr.optionsAllowed harg, ← hname, readLong_longName]
  | @joined option text =>
    refine between_of_accept hr ?_ htake
    obtain ⟨c, name, hname⟩ := exists_longName option
    have harg : ("--" ++ option.longName ++ "=" ++ text).toList =
        '-' :: '-' :: c :: (name ++ '=' :: text.toList) := by simp [hname]
    rw [read_long hr.optionsAllowed harg, ← List.cons_append, ← hname, readLong_joined]
  | @shortApart text =>
    refine between_of_await hr hplain.2.1 ?_ htake
    rw [read_short hr.optionsAllowed (by decide) rfl]
    rfl
  | @shortAttached text =>
    refine between_of_accept hr ?_ htake
    have harg : ("-C" ++ text).toList = '-' :: 'C' :: text.toList := by simp
    rw [read_short hr.optionsAllowed (by decide) harg, readShort_attached hplain.1 hplain.2.2]
  | @shortJoined text =>
    refine between_of_accept hr ?_ htake
    have harg : ("-C=" ++ text).toList = '-' :: 'C' :: '=' :: text.toList := by simp
    rw [read_short hr.optionsAllowed (by decide) harg]
    show r.accept .directory (String.ofList text.toList) = _
    rw [String.ofList_toList]
  | dryRun =>
    have hread : r.read "--dry-run" = r.raise .dryRun :=
      (read_long hr.optionsAllowed rfl).trans (readLong_flagName .dryRun)
    exact between_of_raise hr hread htake
  | verbose =>
    have hread : r.read "--verbose" = r.raise .verbose :=
      (read_long hr.optionsAllowed rfl).trans (readLong_flagName .verbose)
    exact between_of_raise hr hread htake
  | shortVerbose =>
    have hread : r.read "-v" = r.raise .verbose :=
      (read_short hr.optionsAllowed (by decide) rfl).trans readShort_verbose
    exact between_of_raise hr hread htake

end Reading

/-! ## Reading a whole command line -/

variable {o target : Options} {line : List String} {items : List Item}

/-- The items that are left lead from the options that were read to those that all items say. -/
theorem Reading.read_items {words : List (List String)} (hforms : List.Forall₂ Item.Form items words)
    {said : List Item} {r : Reading} (hr : r.Between o) (ho : o.SaidBy said)
    (htarget : target.SaidBy (said ++ items)) (hplain : ∀ item ∈ items, item.Plain) :
    ∃ r', words.flatten.foldlM Reading.read r = .ok r' ∧ r'.Between target := by
  induction hforms generalizing said r o with
  | nil =>
    rw [List.append_nil] at htarget
    rw [htarget.unique ho]
    exact ⟨r, rfl, hr⟩
  | @cons item others rest words hform _ ih =>
    obtain ⟨o', htake, ho'⟩ := ho.take htarget (hplain item List.mem_cons_self)
    obtain ⟨r', hread, hr'⟩ := hr.read_form hform (hplain item List.mem_cons_self) htake
    rw [List.append_cons] at htarget
    obtain ⟨last, hrest, hlast⟩ :=
      ih hr' ho' htarget fun item hitem => hplain item (List.mem_cons_of_mem _ hitem)
    refine ⟨last, ?_, hlast⟩
    rw [List.flatten_cons, List.foldlM_append, hread]
    exact hrest

/-- Every wording of plain options is accepted and read as these options, however the items are mixed and in
whatever form each of them is, so the run does not depend on the wording. The debug build is chosen without a
byte read or written exactly if the only argument that is said is the shortcut, wherever it stands, and whatever
the values of options are. -/
theorem parse_wording (hplain : o.Plain) (h : o.WordedAs line) :
    parse line = .ok o ∧
    (∀ runner s, Program.runWith runner { s with args := line } = .finished (Program.execute runner o s)) ∧
    ∀ c : Console, (((Dialogue.resolveProfile o.args).run.run c).1 = .ok (some .debug) ∧
      ((Dialogue.resolveProfile o.args).run.run c).2.unread = c.unread ∧
      ((Dialogue.resolveProfile o.args).run.run c).2.written = c.written) ↔ o.args = ["d"] := by
  have hparse : parse line = .ok o := by
    obtain ⟨items, words, hsaid, hforms, rfl⟩ := h
    obtain ⟨r, hread, hr⟩ :=
      Reading.read_items hforms Reading.between_start Options.saidBy_nil hsaid fun _ => hplain.plain_of_mem hsaid
    rw [parse, hread]
    exact hr.settle
  refine ⟨hparse, fun runner s => ?_, Console.resolveProfile_silent_iff o.args⟩
  simp only [Program.runWith, hparse]
  rfl

/-- Options with the shortcut and with values that are spelled like it. -/
def shortcutOptions : Options where
  args := ["d"]
  directory := some "d"
  compiler := some "d"
  extensions := [".c", "d"]
  format := some .json
  dryRun := true
  verbose := true

/-- The items of a command line, each with the form that it takes there. -/
def mixed : List (Item × List String) := [
  (.value .compiler "d", ["--compiler", "d"]),
  (.value .directory "d", ["-Cd"]),
  (.value .extension ".c", ["--extension=.c"]),
  (.verbose, ["-v"]),
  (.argument "d", ["d"]),
  (.dryRun, ["--dry-run"]),
  (.value .extension "d", ["--extension", "d"]),
  (.value .format "json", ["--format=json"])]

/-- The case of this command line: the shortcut between options is found, and with it the debug build. -/
theorem parse_wording_mixed :
    shortcutOptions.Plain ∧ shortcutOptions.WordedAs (mixed.flatMap Prod.snd) ∧
    parse (mixed.flatMap Prod.snd) = .ok shortcutOptions ∧
    ((Dialogue.resolveProfile shortcutOptions.args).run.run (Console.mk [] [] none 0 [])).1 =
      .ok (some .debug) := by
  have hplain : shortcutOptions.Plain := by
    refine ⟨by decide, fun option => ?_⟩
    cases option <;> decide
  have hworded : shortcutOptions.WordedAs (mixed.flatMap Prod.snd) := by
    refine ⟨mixed.map Prod.fst, mixed.map Prod.snd, ⟨rfl, fun option => ?_, rfl, rfl⟩, ?_, rfl⟩
    · cases option <;> rfl
    · exact .cons .apart (.cons .shortAttached (.cons .joined (.cons .shortVerbose (.cons .argument
        (.cons .dryRun (.cons .apart (.cons .joined .nil)))))))
  obtain ⟨hparse, -, hshortcut⟩ := parse_wording hplain hworded
  exact ⟨hplain, hworded, hparse, ((hshortcut _).2 rfl).1⟩

end Configurator.CommandLine
