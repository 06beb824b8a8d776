/-
Choosing a profile on a console. The menu and, for a custom build, the three questions take turns over
one input. Main statement: what is chosen, which lines are read for it and how many of them were no
answer, for every input. The debug build is chosen without an answer exactly by its shortcut.
-/
import Configurator.Proofs.Dialogue.Reading

namespace Configurator

namespace Reading

/-- Reads answers about features one by one. -/
def features : List Feature → Choices → List Bytes → Reading Choices
  | [], choices => done choices
  | feature :: rest, choices => fun lines =>
    (ask yesNo? lines).andThen fun enabled => features rest (choices.set feature enabled)

/-- Reads what to build: nothing for the argument `d`, else an answer to the menu and, for a custom
build, an answer about the rich terminal, one about the approval of commands and one about
assertions. -/
def profile (args : List String) (lines : List Bytes) : Reading (Option Profile) :=
  if args = ["d"] then done (some .debug) lines
  else
    (ask menuChoice? lines).andThen fun
      | .quit => done none
      | .build .release => done (some .release)
      | .build .debug => done (some .debug)
      | .build .custom => fun lines =>
        (ask yesNo? lines).andThen fun rich lines =>
          (ask yesNo? lines).andThen fun approve lines =>
            (ask yesNo? lines).andThen fun keep => done (some (.custom ⟨rich, approve, keep⟩))

end Reading

namespace Console

open Dialogue

theorem reads_askFeaturesFrom (number : Nat) (features : List Feature) (choices : Choices) :
    Reads (askFeaturesFrom number features choices) (Reading.features features choices) := by
  induction features generalizing number choices with
  | nil => exact .done choices
  | cons feature rest ih =>
    refine .skip (reads_say _) (Reads.bind (reads_askYesNo _) fun enabled => ?_)
    exact .skip (reads_note _) (ih _ _)

theorem reads_askFeatures : Reads askFeatures (Reading.features Feature.all {}) :=
  reads_askFeaturesFrom 1 Feature.all {}

/-- The three answers of a custom build are read one after the other. -/
theorem features_all (lines : List Bytes) :
    ((Reading.features Feature.all {} lines).andThen fun choices =>
        Reading.done (some (Profile.custom choices))) =
      (Reading.ask yesNo? lines).andThen fun rich lines =>
        (Reading.ask yesNo? lines).andThen fun approve lines =>
          (Reading.ask yesNo? lines).andThen fun keep =>
            Reading.done (some (.custom ⟨rich, approve, keep⟩)) := by
  simp only [Feature.all, Reading.features, Reading.andThen_assoc, Reading.done_andThen]
  rfl

/-- The dialogue that follows an answer to the menu. -/
theorem resolveProfile_of_ne {args : List String} (h : args ≠ ["d"]) :
    (resolveProfile args : Dialogue Console (Option Profile)) = (do
      match ← Prompter.chooseMenu with
      | .build kind =>
        Prompter.note (kindChosen kind)
        return some (← profileOfKind kind)
      | .quit => return none) := by
  unfold resolveProfile chooseKind debugShortcut
  rw [if_neg h, bind_assoc]
  congr 1
  funext choice
  cases choice <;> rfl

/-! ## The shortcut -/

/-- The profile of a kind is of this kind. -/
theorem kind_of_profileOfKind {kind : Kind} {c : Console} {p : Profile}
    (h : ((profileOfKind kind).run.run c).1 = .ok p) : p.kind = kind := by
  cases kind with
  | release | debug =>
    cases h
    rfl
  | custom =>
    rw [profileOfKind, run_bind] at h
    generalize (askFeatures : Dialogue Console Choices).run.run c = out at h
    obtain ⟨e | choices, c'⟩ := out
    · cases h
    · cases h
      rfl

/-- Without the shortcut the debug build is chosen by an answer to the menu. -/
theorem length_unread_resolveProfile_lt {args : List String} (hargs : args ≠ ["d"]) {c : Console}
    (h : ((resolveProfile args).run.run c).1 = .ok (some .debug)) :
    ((resolveProfile args).run.run c).2.unread.length < c.unread.length := by
  have hmenu : (Prompter.chooseMenu : Dialogue Console MenuChoice).run.run c =
      c.ask (Utf8.bytes menuPrompt) menuChoice? := rfl
  have hshorter := @length_unread_ask_lt MenuChoice (Utf8.bytes menuPrompt) menuChoice? c
  rw [resolveProfile_of_ne hargs, run_bind, hmenu] at h ⊢
  generalize c.ask (Utf8.bytes menuPrompt) menuChoice? = out at h hshorter ⊢
  obtain ⟨e | kind | _, c'⟩ := out
  · cases h
  · dsimp only at h ⊢
    have hkind : kind = .debug := by
      have hnoted : (Prompter.note (kindChosen kind) : Dialogue Console Unit).run.run c' =
          (.ok (), { c' with journal := c'.journal ++ [kindChosen kind] }) := rfl
      have hof := @kind_of_profileOfKind kind { c' with journal := c'.journal ++ [kindChosen kind] }
      rw [run_bind, hnoted] at h
      dsimp only at h
      rw [run_bind] at h
      generalize (profileOfKind kind : Dialogue Console Profile).run.run _ = out at h hof
      obtain ⟨e | p, c''⟩ := out
      · cases h
      · cases h
        exact (hof rfl).symm
    subst hkind
    exact hshorter rfl
  · cases h

/-- The debug build is chosen without a byte read or written exactly if its shortcut is the only argument. -/
theorem resolveProfile_silent_iff (args : List String) (c : Console) :
    (((resolveProfile args).run.run c).1 = .ok (some .debug) ∧
      ((resolveProfile args).run.run c).2.unread = c.unread ∧
      ((resolveProfile args).run.run c).2.written = c.written) ↔ args = ["d"] := by
  constructor
  · rintro ⟨hresult, hunread, -⟩
    refine Decidable.byContradiction fun hargs => ?_
    have hshorter := length_unread_resolveProfile_lt hargs hresult
    rw [hunread] at hshorter
    exact Nat.lt_irrefl _ hshorter
  · rintro rfl
    exact ⟨rfl, rfl, rfl⟩

/-! ## The whole choice -/

/-- The whole choice of a profile is one reading of the lines. -/
theorem reads_resolveProfile (args : List String) :
    Reads (resolveProfile args) (Reading.profile args) := by
  unfold Reading.profile
  by_cases hargs : args = ["d"]
  · subst hargs
    exact fun _ h => ⟨rfl, rfl, rfl, h⟩
  · simp only [if_neg hargs]
    rw [resolveProfile_of_ne hargs]
    refine reads_chooseMenu.bind fun choice => ?_
    rcases choice with kind | _
    · refine .skip (reads_note _) ?_
      cases kind with
      | release => exact .done _
      | debug => exact .done _
      | custom =>
        have hread := reads_askFeatures.bind fun choices => Reads.done (some (Profile.custom choices))
        simp only [features_all] at hread
        simpa only [profileOfKind, bind_assoc, pure_bind] using hread
    · exact .done none

/-- On an output without a limit the choice of a profile reads the lines of the input like
`Reading.profile`: its result is that of the reading, the input keeps exactly the lines behind the last
one that was read, and the count of lines that were no answer grows by those passed over. The argument
`d` chooses the debug build without reading or writing a byte, and the answers of a custom build decide
its flags one by one. -/
theorem resolveProfile_reading (args : List String) (c : Console) (h : c.room = none) :
    ((resolveProfile args).run.run c).1 = (Reading.profile args (lines c.unread)).result ∧
      ((resolveProfile args).run.run c).2.unread = (Reading.profile args (lines c.unread)).rest.flatten ∧
      ((resolveProfile args).run.run c).2.rejected =
        c.rejected + (Reading.profile args (lines c.unread)).rejected ∧
      (args = ["d"] → ((resolveProfile args).run.run c).1 = .ok (some .debug) ∧
        ((resolveProfile args).run.run c).2.unread = c.unread ∧
        ((resolveProfile args).run.run c).2.written = c.written) ∧
      ∀ rich approve keep, (Profile.custom ⟨rich, approve, keep⟩).flags =
        ["-DNO_TESTS", "-O2", "-DSETTING_RICH_TERMINAL=" ++ (if rich then "1" else "0"),
          "-DSETTING_APPROVE_COMMANDS=" ++ (if approve then "1" else "0")] ++
          if keep then [] else ["-DNO_INCLUDE_ASSERTS"] := by
  obtain ⟨hresult, hrest, hrejected, -⟩ := reads_resolveProfile args c h
  refine ⟨hresult, ?_, hrejected, ?_, ?_⟩
  · rw [← hrest, flatten_lines]
  · rintro rfl
    exact ⟨rfl, rfl, rfl⟩
  · rintro (_ | _) (_ | _) (_ | _) <;> rfl

/-- An input with a line that is no answer to the menu, the choice of a custom build, and its three
answers, the last of them without an end of line. -/
def customInput : Bytes :=
  [0x78, 0x0A, 0x33, 0x0A, 0x79, 0x0A, 0x6E, 0x6F, 0x0A, 0x20, 0x59]

/-- The case of this input: the build that it chooses, and the line that was no answer. -/
theorem resolveProfile_reading_custom :
    (Console.mk customInput [] none 0 []).room = none ∧
      ((resolveProfile []).run.run (Console.mk customInput [] none 0 [])).1 =
        .ok (some (.custom ⟨true, false, true⟩)) ∧
      ((resolveProfile []).run.run (Console.mk customInput [] none 0 [])).2.rejected = 1 := by
  obtain ⟨hresult, -, hrejected, -⟩ := resolveProfile_reading [] (Console.mk customInput [] none 0 []) rfl
  have hreading : Reading.profile [] (lines customInput) =
      ⟨.ok (some (.custom ⟨true, false, true⟩)), [], 1⟩ := by rfl
  refine ⟨rfl, by rw [hresult, hreading], ?_⟩
  rw [hrejected, hreading]
  rfl

end Console

end Configurator
