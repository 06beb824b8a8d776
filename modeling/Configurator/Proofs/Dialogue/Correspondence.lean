/-
Dialogues with two prompters. A dialogue knows its prompter only by the questions that it puts, so what
relates two prompters question by question relates them over whole dialogues. Main statements: every step
of a conversation and the choice of a profile go alike with two prompters that correspond, and so does a
sequence of steps where the correspondence is a relation of their states.
-/
import Configurator.Proofs.Dialogue.Reading
import Mathlib.Data.List.Forall2

namespace Configurator.Dialogue

/-- The results are the same and the states after them are related. -/
def Agree {σ τ α : Type} (R : σ → τ → Prop) (x : Except PromptError α × σ)
    (y : Except PromptError α × τ) : Prop :=
  x.1 = y.1 ∧ R x.2 y.2

/-- A relation between dialogues with two prompters that holds of the single questions and is kept when
dialogues are put together. -/
structure Correspondence (σ τ : Type) [Prompter σ] [Prompter τ] where
  Rel : {α : Type} → Dialogue σ α → Dialogue τ α → Prop
  pure {α : Type} (a : α) : Rel (Pure.pure a) (Pure.pure a)
  bind {α β : Type} {d : Dialogue σ α} {e : Dialogue τ α} {f : α → Dialogue σ β} {g : α → Dialogue τ β} :
    Rel d e → (∀ a, Rel (f a) (g a)) → Rel (d >>= f) (e >>= g)
  say (text : String) : Rel (Prompter.say text) (Prompter.say text)
  askYesNo (question : String) : Rel (Prompter.askYesNo question) (Prompter.askYesNo question)
  chooseMenu : Rel Prompter.chooseMenu Prompter.chooseMenu
  note (event : Log.Event) : Rel (Prompter.note event) (Prompter.note event)

variable {σ τ : Type} [Prompter σ] [Prompter τ]

namespace Correspondence

variable (C : Correspondence σ τ)

theorem askFeaturesFrom (number : Nat) (features : List Feature) (choices : Choices) :
    C.Rel (Dialogue.askFeaturesFrom number features choices)
      (Dialogue.askFeaturesFrom number features choices) := by
  induction features generalizing number choices with
  | nil => exact C.pure choices
  | cons feature rest ih =>
    refine C.bind (C.say _) fun _ => C.bind (C.askYesNo _) fun enabled => ?_
    exact C.bind (C.note _) fun _ => ih _ _

theorem askFeatures : C.Rel Dialogue.askFeatures Dialogue.askFeatures :=
  C.askFeaturesFrom 1 Feature.all {}

theorem chooseKind (args : List String) :
    C.Rel (Dialogue.chooseKind args) (Dialogue.chooseKind args) := by
  unfold Dialogue.chooseKind
  split
  · exact C.pure _
  · refine C.bind C.chooseMenu fun choice => ?_
    cases choice <;> exact C.pure _

theorem profileOfKind (kind : Kind) :
    C.Rel (Dialogue.profileOfKind kind) (Dialogue.profileOfKind kind) := by
  cases kind with
  | release => exact C.pure _
  | debug => exact C.pure _
  | custom => exact C.bind C.askFeatures fun _ => C.pure _

theorem resolveProfile (args : List String) :
    C.Rel (Dialogue.resolveProfile args) (Dialogue.resolveProfile args) := by
  refine C.bind (C.chooseKind args) fun kind => ?_
  cases kind with
  | none => exact C.pure none
  | some kind => exact C.bind (C.note _) fun _ => C.bind (C.profileOfKind kind) fun _ => C.pure _

theorem perform (step : Step) : C.Rel (Dialogue.perform step) (Dialogue.perform step) := by
  cases step with
  | say text => exact C.bind (C.say text) fun _ => C.pure _
  | yesNo question => exact C.bind (C.askYesNo question) fun _ => C.pure _
  | menu => exact C.bind C.chooseMenu fun _ => C.pure _
  | features => exact C.bind C.askFeatures fun _ => C.pure _

end Correspondence

/-! ## Relations of states -/

/-- Two prompters correspond when, from related states on, every question gives the same and leaves
related states. -/
def Correspondence.ofStates (R : σ → τ → Prop)
    (say : ∀ text s t, R s t →
      Agree R ((Prompter.say text).run.run s) ((Prompter.say text).run.run t))
    (askYesNo : ∀ question s t, R s t →
      Agree R ((Prompter.askYesNo question).run.run s) ((Prompter.askYesNo question).run.run t))
    (chooseMenu : ∀ s t, R s t →
      Agree R (Prompter.chooseMenu.run.run s) (Prompter.chooseMenu.run.run t))
    (note : ∀ event s t, R s t →
      Agree R ((Prompter.note event).run.run s) ((Prompter.note event).run.run t)) :
    Correspondence σ τ where
  Rel d e := ∀ s t, R s t → Agree R (d.run.run s) (e.run.run t)
  pure a s t h := ⟨rfl, h⟩
  bind {α β d e f g} hd hf s t h := by
    obtain ⟨hresult, hstate⟩ := hd s t h
    rw [run_bind, run_bind]
    generalize d.run.run s = x at hresult hstate
    generalize e.run.run t = y at hresult hstate
    obtain ⟨x, s'⟩ := x
    obtain ⟨y, t'⟩ := y
    dsimp only at hresult hstate
    subst hresult
    cases x with
    | error err => exact ⟨rfl, hstate⟩
    | ok a => exact hf a s' t' hstate
  say := say
  askYesNo := askYesNo
  chooseMenu := chooseMenu
  note := note

/-! ## Sequences of steps -/

/-- The state after a sequence of steps. -/
def stateAfter (steps : List Step) (s : σ) : σ :=
  steps.foldl (fun s step => ((perform step).run.run s).2) s

/-- Where every step keeps the states related, so does a sequence, and the results are the same at every
step. -/
theorem performAll_agree {R : σ → τ → Prop}
    (h : ∀ step s t, R s t → Agree R ((perform step).run.run s) ((perform step).run.run t))
    (steps : List Step) {s : σ} {t : τ} (hst : R s t) :
    List.Forall₂ (Agree R) (performAll steps s) (performAll steps t) ∧
      R (stateAfter steps s) (stateAfter steps t) := by
  induction steps generalizing s t with
  | nil => exact ⟨.nil, hst⟩
  | cons step rest ih =>
    have hstep := h step s t hst
    obtain ⟨hrest, hlast⟩ := ih hstep.2
    exact ⟨.cons hstep hrest, hlast⟩

/-- Where a part of every state is a state of the other prompter and every step does to this part what it does
to such a state, so does a sequence. -/
theorem performAll_map {f : σ → τ}
    (h : ∀ step s t, f s = t →
      Agree (fun s t => f s = t) ((perform step).run.run s) ((perform step).run.run t))
    (steps : List Step) (s : σ) :
    (performAll steps s).map (fun x => (x.1, f x.2)) = performAll steps (f s) := by
  induction steps generalizing s with
  | nil => rfl
  | cons step rest ih =>
    obtain ⟨hresult, hstate⟩ := h step s (f s) rfl
    simp only [performAll, List.map_cons]
    rw [ih, hresult, hstate]
    rfl

theorem stateAfter_map {f : σ → τ}
    (h : ∀ step s t, f s = t →
      Agree (fun s t => f s = t) ((perform step).run.run s) ((perform step).run.run t))
    (steps : List Step) (s : σ) : f (stateAfter steps s) = stateAfter steps (f s) :=
  (performAll_agree h steps rfl).2

/-- What every question keeps, a sequence of steps keeps. -/
theorem stateAfter_keeps {I : σ → Prop}
    (say : ∀ text s, I s → I ((Prompter.say text).run.run s).2)
    (askYesNo : ∀ question s, I s → I ((Prompter.askYesNo question).run.run s).2)
    (chooseMenu : ∀ s, I s → I (Prompter.chooseMenu.run.run s).2)
    (note : ∀ event s, I s → I ((Prompter.note event).run.run s).2) (steps : List Step) {s : σ}
    (h : I s) : I (stateAfter steps s) := by
  -- a prompter corresponds to itself as long as the invariant holds
  let C : Correspondence σ σ := .ofStates (fun s t => s = t ∧ I s)
    (by rintro text s _ ⟨rfl, hs⟩; exact ⟨rfl, rfl, say text s hs⟩)
    (by rintro question s _ ⟨rfl, hs⟩; exact ⟨rfl, rfl, askYesNo question s hs⟩)
    (by rintro s _ ⟨rfl, hs⟩; exact ⟨rfl, rfl, chooseMenu s hs⟩)
    (by rintro event s _ ⟨rfl, hs⟩; exact ⟨rfl, rfl, note event s hs⟩)
  exact (performAll_agree (fun step => C.perform step) steps ⟨rfl, h⟩).2.2

@[simp] theorem stateAfter_cons (step : Step) (steps : List Step) (s : σ) :
    stateAfter (step :: steps) s = stateAfter steps ((perform step).run.run s).2 := rfl

end Configurator.Dialogue
