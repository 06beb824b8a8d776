/-
Conversations that are written down. Next to any prompter a record can be kept of every question that is
put, of yes/no questions and of the menu alike, with what came of it. From such a record the answers can be
prepared that were accepted. Main statement: keeping a record changes neither a result nor the prompter.
-/
import Configurator.Dialogue.Prepared
import Configurator.Proofs.Dialogue.Correspondence

namespace Configurator

/-! ## Records -/

/-- A question that was put, with its answer or the reason why there is none. -/
inductive Exchange where
  | yesNo (question : String) (outcome : Except PromptError Bool)
  | menu (outcome : Except PromptError MenuChoice)

namespace Exchange

/-- The yes/no question of an exchange. -/
def question? : Exchange → Option String
  | yesNo question _ => some question
  | menu _ => none

/-- The answer to a yes/no question, if one was accepted. -/
def answer? : Exchange → Option Bool
  | yesNo _ outcome => outcome.toOption
  | menu _ => none

/-- The choice from the menu, if one was accepted. -/
def choice? : Exchange → Option MenuChoice
  | yesNo _ _ => none
  | menu outcome => outcome.toOption

end Exchange

/-- The questions, answers and choices of a whole conversation, from the first one on. -/
abbrev Record := List Exchange

namespace Record

/-- Every yes/no question, answered or not. -/
def questions (record : Record) : List String := record.filterMap Exchange.question?

/-- The accepted answers to yes/no questions. -/
def answers (record : Record) : List Bool := record.filterMap Exchange.answer?

/-- The accepted choices from the menu. -/
def choices (record : Record) : List MenuChoice := record.filterMap Exchange.choice?

@[simp] theorem questions_append (r r' : Record) :
    questions (r ++ r') = questions r ++ questions r' := List.filterMap_append

@[simp] theorem answers_append (r r' : Record) : answers (r ++ r') = answers r ++ answers r' :=
  List.filterMap_append

@[simp] theorem choices_append (r r' : Record) : choices (r ++ r') = choices r ++ choices r' :=
  List.filterMap_append

@[simp] theorem questions_singleton (x : Exchange) : questions [x] = x.question?.toList := by
  cases h : x.question? <;> simp [questions, h]

@[simp] theorem answers_singleton (x : Exchange) : answers [x] = x.answer?.toList := by
  cases h : x.answer? <;> simp [answers, h]

@[simp] theorem choices_singleton (x : Exchange) : choices [x] = x.choice?.toList := by
  cases h : x.choice? <;> simp [choices, h]

/-- The prompter that is prepared with what was accepted. -/
def rehearsal (record : Record) : Prepared :=
  ({ answers := record.answers } : Prepared).withMenu record.choices

end Record

/-! ## Keeping a record -/

/-- A prompter next to which a record is kept. -/
structure Recorded (σ : Type) where
  prompter : σ
  record : Record := []

namespace Recorded

variable {σ : Type}

/-- Lets the prompter act; `entry` says what is written down about the result. -/
def acting {α : Type} (d : Dialogue σ α) (entry : Except PromptError α → Record) :
    Dialogue (Recorded σ) α :=
  .mk (fun r =>
    let out := d.run.run r.prompter
    (out.1, ⟨out.2, r.record ++ entry out.1⟩))

theorem acting_agree {α : Type} (d : Dialogue σ α) (entry : Except PromptError α → Record)
    (r : Recorded σ) (s : σ) (h : r.prompter = s) :
    Dialogue.Agree (fun (r : Recorded σ) s => r.prompter = s) ((acting d entry).run.run r)
      (d.run.run s) := by
  subst h
  exact ⟨rfl, rfl⟩

variable [Prompter σ]

instance : Prompter (Recorded σ) where
  say text := acting (Prompter.say text) fun _ => []
  askYesNo question := acting (Prompter.askYesNo question) fun outcome => [.yesNo question outcome]
  chooseMenu := acting Prompter.chooseMenu fun outcome => [.menu outcome]
  note event := acting (Prompter.note event) fun _ => []

/-- A recorded conversation corresponds to the one without a record. -/
def plain : Dialogue.Correspondence (Recorded σ) σ :=
  .ofStates (fun r s => r.prompter = s) (fun _ => acting_agree _ _) (fun _ => acting_agree _ _)
    (acting_agree _ _) (fun _ => acting_agree _ _)

/-- A sequence of steps gives the same, and leaves the same state after each of them, with and without a
record. -/
theorem performAll_plain (steps : List Dialogue.Step) (r : Recorded σ) :
    (Dialogue.performAll steps r).map (fun x => (x.1, x.2.prompter)) =
      Dialogue.performAll steps r.prompter :=
  Dialogue.performAll_map (fun step => plain.perform step) steps r

theorem stateAfter_plain (steps : List Dialogue.Step) (r : Recorded σ) :
    (Dialogue.stateAfter steps r).prompter = Dialogue.stateAfter steps r.prompter :=
  Dialogue.stateAfter_map (fun step => plain.perform step) steps r

end Recorded

end Configurator
