/-
Questions, round by round. In one round the question is written and a line is read for it; this settles the
question, or the line was no answer and there is another round. Main statement: on an output without a limit there
is one round for each line in front that is no answer and one more; the line read in it, or the end of the input,
says what the question comes to.
-/
import Configurator.Proofs.Dialogue.Reading

namespace Configurator.Console

variable {α : Type}

/-! ## Rounds -/

/-- What a round comes to. -/
inductive Round (α : Type) where
  | settled (result : Except PromptError α) (c : Console)
  /-- The question has to be put again. -/
  | again (c : Console)

/-- Writes a question and reads a line for it. -/
def round (question : Bytes) (parse : String → Option α) (c : Console) : Round α :=
  match c.write question with
  | (.error e, full) => .settled (.error e) full
  | (.ok (), asked) =>
    let line := (cutLine asked.unread).1
    let after := { asked with unread := (cutLine asked.unread).2 }
    if line = [] then .settled (.error .closed) asked
    else
      match Utf8.decode? line with
      | none => .settled (.error (.stream .undecodable)) after
      | some text =>
        match parse text with
        | some answer => .settled (.ok answer) after
        | none => .again (after.reject text)

/-- What a question comes to within so many rounds, if it is settled by then. -/
def askWithin (question : Bytes) (parse : String → Option α) :
    Nat → Console → Option (Except PromptError α × Console)
  | 0, _ => none
  | n + 1, c =>
    match round question parse c with
    | .settled result c => some (result, c)
    | .again c => askWithin question parse n c

/-- Asking is going from round to round. -/
theorem ask_eq_round (question : Bytes) (parse : String → Option α) (c : Console) :
    c.ask question parse =
      match round question parse c with
      | .settled result c => (result, c)
      | .again c => c.ask question parse := by
  rw [ask]
  split
  · next hw => simp only [round, hw]
  · next hw =>
    simp only [round, hw]
    split
    · rfl
    · cases Utf8.decode? (cutLine _).1 with
      | none => rfl
      | some text =>
        dsimp only
        cases parse text <;> rfl

/-- A round on an output without a limit goes by the first line of the input. -/
theorem round_of_lines (question : Bytes) (parse : String → Option α) {c : Console} (h : c.room = none) :
    round question parse c =
      match lines c.unread with
      | [] => .settled (.error .closed) { c with written := c.written ++ question }
      | line :: rest =>
        let after := { c with unread := rest.flatten, written := c.written ++ question }
        match Reading.judge parse line with
        | .accepted answer => .settled (.ok answer) after
        | .undecodable => .settled (.error (.stream .undecodable)) after
        | .rejected => .again (after.reject ((Utf8.decode? line).getD "")) := by
  rw [round, write_unlimited question h]
  by_cases hnil : c.unread = []
  · simp [hnil, cutLine]
  · have hline : (cutLine c.unread).1 ≠ [] := by rwa [Ne, cutLine_fst_eq_nil_iff]
    rw [lines_eq_cutLine hnil]
    simp only [hline, if_false, flatten_lines, Reading.judge]
    cases Utf8.decode? (cutLine c.unread).1 with
    | none => rfl
    | some text =>
      dsimp only
      cases parse text <;> rfl

/-! ## Lines that are no answer -/

/-- Whether a line is text and no answer. -/
def isRefused (parse : String → Option α) (line : Bytes) : Bool :=
  (Utf8.decode? line).any fun text => (parse text).isNone

/-- How many lines in front are no answer. -/
def refusedCount (parse : String → Option α) (ls : List Bytes) : Nat :=
  (ls.takeWhile (isRefused parse)).length

theorem refusedCount_cons (parse : String → Option α) (line : Bytes) (rest : List Bytes) :
    refusedCount parse (line :: rest) = if isRefused parse line then refusedCount parse rest + 1 else 0 := by
  rw [refusedCount, List.takeWhile_cons]
  split <;> rfl

theorem refusedCount_le (parse : String → Option α) (ls : List Bytes) : refusedCount parse ls ≤ ls.length :=
  (List.takeWhile_prefix _).length_le

theorem isRefused_eq (parse : String → Option α) (line : Bytes) :
    isRefused parse line = match Reading.judge parse line with
      | .rejected => true
      | _ => false := by
  rw [isRefused, Reading.judge]
  cases Utf8.decode? line with
  | none => rfl
  | some text =>
    dsimp only
    cases h : parse text <;> simp [h]

/-- What a question comes to on the lines behind those in front that are no answer. -/
inductive Settles (parse : String → Option α) : List Bytes → Except PromptError α → Prop
  | answered {line : Bytes} {rest : List Bytes} {text : String} {answer : α}
      (htext : Utf8.decode? line = some text) (hanswer : parse text = some answer) :
      Settles parse (line :: rest) (.ok answer)
  | undecodable {line : Bytes} {rest : List Bytes} (h : Utf8.decode? line = none) :
      Settles parse (line :: rest) (.error (.stream .undecodable))
  | ended : Settles parse [] (.error .closed)

/-! ## All rounds of a question -/

/-- On the console a question came to its result and the second console in one round more than there are lines in
front that are no answer. -/
structure Exactly (question : Bytes) (parse : String → Option α) (c : Console)
    (out : Except PromptError α × Console) : Prop where
  rounds : ∀ n, askWithin question parse n c =
    if n ≤ refusedCount parse (lines c.unread) then none else some out
  result : Settles parse ((lines c.unread).drop (refusedCount parse (lines c.unread))) out.1
  unread : c.unread = ((lines c.unread).take (refusedCount parse (lines c.unread) + 1)).flatten ++ out.2.unread
  rejected : out.2.rejected = c.rejected + refusedCount parse (lines c.unread)
  written : out.2.written =
    c.written ++ (List.replicate (refusedCount parse (lines c.unread) + 1) question).flatten

namespace Exactly

variable {question : Bytes} {parse : String → Option α} {c c' : Console}

/-- A question that is settled in the first round. -/
theorem of_settled {result : Except PromptError α} (hround : round question parse c = .settled result c')
    (hcount : refusedCount parse (lines c.unread) = 0) (hresult : Settles parse (lines c.unread) result)
    (hunread : c'.unread = ((lines c.unread).drop 1).flatten) (hrejected : c'.rejected = c.rejected)
    (hwritten : c'.written = c.written ++ question) : Exactly question parse c (c.ask question parse) := by
  rw [ask_eq_round, hround]
  refine ⟨fun n => ?_, ?_, ?_, ?_, ?_⟩
  · cases n with
    | zero => simp [askWithin]
    | succ n => simp [askWithin, hround, hcount]
  · rwa [hcount]
  · rw [hcount, hunread, ← List.flatten_append, Nat.zero_add, List.take_append_drop, flatten_lines]
  · rw [hcount, hrejected, Nat.add_zero]
  · rw [hcount, hwritten]
    simp

/-- A question that is put again after a line that is no answer. -/
theorem of_again (hround : round question parse c = .again c') {line : Bytes} {rest : List Bytes}
    (hlines : lines c.unread = line :: rest) (hrefused : isRefused parse line = true)
    (hunread : c'.unread = rest.flatten) (hrejected : c'.rejected = c.rejected + 1)
    (hwritten : c'.written = c.written ++ question) (h : Exactly question parse c' (c'.ask question parse)) :
    Exactly question parse c (c.ask question parse) := by
  have hrest : lines c'.unread = rest := by rw [hunread, lines_flatten_of_cons hlines]
  have hcount : refusedCount parse (lines c.unread) = refusedCount parse rest + 1 := by
    rw [hlines, refusedCount_cons, if_pos hrefused]
  obtain ⟨hrounds', hresult', hunread', hrejected', hwritten'⟩ := h
  rw [hrest] at hrounds' hresult' hunread' hrejected' hwritten'
  rw [ask_eq_round, hround]
  refine ⟨fun n => ?_, ?_, ?_, ?_, ?_⟩
  · cases n with
    | zero => simp [askWithin]
    | succ n => simp only [askWithin, hround, hrounds', hcount, Nat.succ_le_succ_iff]
  · rwa [hcount, hlines, List.drop_succ_cons]
  · rw [hcount, hlines, List.take_succ_cons, List.flatten_cons, List.append_assoc, ← hunread', hunread,
      ← List.flatten_cons, ← hlines, flatten_lines]
  · rw [hcount, hrejected', hrejected]
    omega
  · rw [hcount, hwritten', hwritten, List.append_assoc, ← List.flatten_cons, ← List.replicate_succ]

/-- It never takes more rounds than there are lines, and one more. -/
theorem askWithin_lines {out : Except PromptError α × Console} (h : Exactly question parse c out) :
    askWithin question parse ((lines c.unread).length + 1) c = some out := by
  have hle := refusedCount_le parse (lines c.unread)
  rw [h.rounds, if_neg (by omega)]

end Exactly

/-- Putting a question until it is answered takes one round more than there are lines in front that are no
answer. -/
theorem ask_exactly (question : Bytes) (parse : String → Option α) {c : Console} (h : c.room = none) :
    Exactly question parse c (c.ask question parse) := by
  -- by induction on the lines that are left: a line that is no answer leads to a console with the rest of them
  induction hl : lines c.unread generalizing c with
  | nil =>
    have hround := round_of_lines question parse h
    rw [hl] at hround
    exact .of_settled hround (by rw [hl]; rfl) (by rw [hl]; exact .ended)
      (by rw [hl]; exact (lines_eq_nil_iff _).1 hl) rfl rfl
  | cons line rest ih =>
    have hround := round_of_lines question parse h
    have hrefused := isRefused_eq parse line
    have hcount := refusedCount_cons parse line rest
    rw [hl] at hround
    unfold Reading.judge at hround hrefused
    cases htext : Utf8.decode? line with
    | none =>
      simp only [htext] at hround hrefused
      simp only [hrefused, Bool.false_eq_true, if_false] at hcount
      exact .of_settled hround (by rw [hl, hcount]) (by rw [hl]; exact .undecodable htext) (by rw [hl]; rfl)
        rfl rfl
    | some text =>
      simp only [htext] at hround hrefused
      cases hanswer : parse text with
      | some answer =>
        simp only [hanswer] at hround hrefused
        simp only [hrefused, Bool.false_eq_true, if_false] at hcount
        exact .of_settled hround (by rw [hl, hcount]) (by rw [hl]; exact .answered htext hanswer)
          (by rw [hl]; rfl) rfl rfl
      | none =>
        simp only [hanswer] at hround hrefused
        exact .of_again hround hl hrefused rfl rfl rfl (ih h (lines_flatten_of_cons hl))

/-- On an output without a limit a yes/no question and the menu take one round for each line in front that is text
and no answer, and one more, so never more than one round more than there are lines. The next line decides: an
answer is given as it is read, a line that is not text is a fault of the stream, and without one the input has
ended. The lines read for it, as many as there were rounds, are gone from the input; the lines that were no answer
are counted, and for each round the question stands in the output. -/
theorem question_exact (c : Console) (h : c.room = none) :
    (∀ question : String,
      let prompt := Utf8.bytes (question ++ " (y/n): ")
      let out := (Prompter.askYesNo question).run.run c
      Exactly prompt yesNo? c out ∧ askWithin prompt yesNo? ((lines c.unread).length + 1) c = some out) ∧
    let prompt := Utf8.bytes "Select build option:\n1. Release\n2. Debug\n3. Custom (recommended)\nQ. Quit\n:"
    let out := Prompter.chooseMenu.run.run c
    Exactly prompt menuChoice? c out ∧ askWithin prompt menuChoice? ((lines c.unread).length + 1) c = some out := by
  have hmenu : menuPrompt = "Select build option:\n1. Release\n2. Debug\n3. Custom (recommended)\nQ. Quit\n:" := by
    decide +kernel
  rw [← hmenu]
  have hexactly (question : String) := ask_exactly (Utf8.bytes (yesNoPrompt question)) yesNo? h
  have hchosen := ask_exactly (Utf8.bytes menuPrompt) menuChoice? h
  exact ⟨fun question => ⟨hexactly question, (hexactly question).askWithin_lines⟩, hchosen,
    hchosen.askWithin_lines⟩

/-- An input with a line that is no answer, one that is not text, and an answer without an end of line. -/
def brokenInput : Bytes := [0x61, 0x0A, 0xC3, 0x0A, 0x79]

/-- The case of this input: the second round is the last one, and the answer is left. -/
theorem question_exact_broken :
    (Console.mk brokenInput [] none 0 []).room = none ∧
    ((Prompter.askYesNo "Go?").run.run (Console.mk brokenInput [] none 0 [])).1 = .error (.stream .undecodable) ∧
    ((Prompter.askYesNo "Go?").run.run (Console.mk brokenInput [] none 0 [])).2.rejected = 1 ∧
    brokenInput = [0x61, 0x0A] ++ [0xC3, 0x0A] ++
      ((Prompter.askYesNo "Go?").run.run (Console.mk brokenInput [] none 0 [])).2.unread ∧
    ((Prompter.askYesNo "Go?").run.run (Console.mk brokenInput [] none 0 [])).2.written =
      Utf8.bytes "Go? (y/n): Go? (y/n): " := by
  obtain ⟨hexactly, -⟩ := (question_exact (Console.mk brokenInput [] none 0 []) rfl).1 "Go?"
  have hcount : refusedCount yesNo? (lines brokenInput) = 1 := by decide +kernel
  obtain ⟨-, hresult, hunread, hrejected, hwritten⟩ := hexactly
  simp only [hcount] at hresult hunread hrejected hwritten
  refine ⟨rfl, ?_, hrejected, hunread, hwritten.trans (by decide +kernel)⟩
  generalize ((Prompter.askYesNo "Go?").run.run (Console.mk brokenInput [] none 0 [])).1 = result at hresult
  have hleft : (lines brokenInput).drop 1 = [[0xC3, 0x0A], [0x79]] := by decide +kernel
  rw [hleft] at hresult
  cases hresult with
  | answered htext =>
    have hnone : Utf8.decode? [0xC3, 0x0A] = none := by decide +kernel
    cases hnone.symm.trans htext
  | undecodable => rfl

end Configurator.Console
