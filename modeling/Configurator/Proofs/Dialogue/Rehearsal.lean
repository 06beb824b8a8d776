/-
Prepared answers in the place of a console. A conversation on a console, whose input is text and whose
output takes any number of bytes, is recorded, and the same conversation is held with the answers prepared
that were accepted. Lines that were no answer are missing from the record, and the two kinds of answers are
prepared apart; still every question meets its own answer, and where the input had ended the prepared
answers have run out. Main statement: both conversations give the same at every step and ask the same.
-/
import Configurator.Proofs.Dialogue.Profile
import Configurator.Proofs.Dialogue.Recording

namespace Configurator

open Dialogue

/-! ## Inputs that are text -/

namespace Reading

variable {α : Type} (parse : String → Option α)

theorem rest_ask_suffix (ls : List Bytes) : (ask parse ls).rest <:+ ls := by
  induction ls with
  | nil => exact List.suffix_refl _
  | cons line rest ih =>
    simp only [ask]
    split
    · exact List.suffix_cons _ _
    · exact List.suffix_cons _ _
    · exact ih.trans (List.suffix_cons _ _)

/-- Lines that are text are read up to an answer or to their end. -/
theorem ask_of_text {ls : List Bytes} (h : ∀ line ∈ ls, Utf8.isText line = true) :
    (ls ≠ [] ∧ ∃ a, (ask parse ls).result = .ok a) ∨
      (ask parse ls).result = .error .closed ∧ (ask parse ls).rest = [] := by
  induction ls with
  | nil => exact .inr ⟨rfl, rfl⟩
  | cons line rest ih =>
    have hline : Utf8.decode? line ≠ none := by
      have := h line List.mem_cons_self
      rw [Utf8.isText, Option.isSome_iff_ne_none] at this
      exact this
    have ih := ih fun l hl => h l (List.mem_cons_of_mem _ hl)
    simp only [ask, judge]
    cases hd : Utf8.decode? line with
    | none => exact absurd hd hline
    | some text =>
      dsimp only
      cases parse text with
      | some answer => exact .inl ⟨by simp, answer, rfl⟩
      | none =>
        rcases ih with ⟨-, a, ha⟩ | hend
        · exact .inl ⟨by simp, a, ha⟩
        · exact .inr hend

end Reading

namespace Console

/-- A console on which a question can fail only because the input has ended. -/
structure Ready (c : Console) : Prop where
  room : c.room = none
  text : ∀ line ∈ lines c.unread, Utf8.isText line = true

/-- What comes of a question on such a console: an answer, or the input has ended and is used up. -/
structure Asked {α : Type} (c : Console) (out : Except PromptError α × Console) : Prop where
  ready : out.2.Ready
  result : (c.unread ≠ [] ∧ ∃ a, out.1 = .ok a) ∨ out.1 = .error .closed ∧ out.2.unread = []

theorem Ready.ask {c : Console} (h : c.Ready) {α : Type} (question : Bytes)
    (parse : String → Option α) : Asked c (c.ask question parse) := by
  obtain ⟨hresult, hrest, -, hroom⟩ := ask_readAs question parse c h.room
  refine ⟨⟨hroom, fun line hline => ?_⟩, ?_⟩
  · rw [hrest] at hline
    exact h.text line ((Reading.rest_ask_suffix parse _).subset hline)
  · rw [hresult, ← lines_eq_nil_iff (c.ask question parse).2.unread, hrest, Ne,
      ← lines_eq_nil_iff c.unread]
    exact Reading.ask_of_text parse h.text

end Console

/-! ## One conversation beside the other -/

namespace Rehearsal

/-- From the recorded conversation the whole record can come: it goes on from what is written down, and
once the input has ended no answer is added. -/
structure Leads (r : Recorded Console) (whole : Record) : Prop where
  goesOn : r.record <+: whole
  ended : r.prompter.unread = [] →
    whole.answers = r.record.answers ∧ whole.choices = r.record.choices

/-- The prepared answers that are left are those which the whole record still has to come, and the same
questions have been asked. -/
structure InStep (whole : Record) (r : Recorded Console) (p : Prepared) : Prop where
  answers : whole.answers = r.record.answers ++ p.answers
  choices : whole.choices = r.record.choices ++ p.menu
  asked : p.asked = r.record.questions

/-- From `r` on, a recorded conversation ends like `e` with prepared answers. -/
structure Replays {α : Type} (r : Recorded Console) (out : Except PromptError α × Recorded Console)
    (e : Prepared → Except PromptError α × Prepared) : Prop where
  ready : out.2.prompter.Ready
  closed : ∀ err, out.1 = .error err → err = .closed
  leads : ∀ whole, Leads out.2 whole → Leads r whole
  follows : ∀ whole p, Leads out.2 whole → InStep whole r p →
    (e p).1 = out.1 ∧ InStep whole out.2 (e p).2

/-- A question leads on to whatever its answer leads to, provided that nothing is accepted at the end of
the input. -/
theorem Leads.of_entry {r : Recorded Console} {c : Console} {entry : Exchange} {whole : Record}
    (h : Leads ⟨c, r.record ++ [entry]⟩ whole)
    (hend : r.prompter.unread = [] → c.unread = [] ∧ entry.answer? = none ∧ entry.choice? = none) :
    Leads r whole where
  goesOn := (List.prefix_append _ _).trans h.goesOn
  ended hnil := by
    obtain ⟨hc, hanswer, hchoice⟩ := hend hnil
    obtain ⟨hanswers, hchoices⟩ := h.ended hc
    rw [hanswers, hchoices]
    simp [hanswer, hchoice]

theorem replays_silent {α : Type} {r : Recorded Console} {c : Console} (a : α) (hready : c.Ready)
    (hunread : c.unread = r.prompter.unread) :
    Replays r (.ok a, ⟨c, r.record⟩) (fun p => (.ok a, p)) where
  ready := hready
  closed := by simp
  leads whole h := ⟨h.goesOn, fun hnil => h.ended (hunread.trans hnil)⟩
  follows whole p _ hp := ⟨rfl, hp.answers, hp.choices, hp.asked⟩

/-- What is left of a queue when an exchange is written down: what the exchange adds to the record is the
next in the queue. -/
theorem exists_left {β : Type} (f : Exchange → Option β) {record whole : Record} {entry : Exchange}
    {left : List β} (hwhole : record ++ [entry] <+: whole)
    (h : whole.filterMap f = record.filterMap f ++ left) :
    ∃ later, left = (f entry).toList ++ later ∧
      whole.filterMap f = (record ++ [entry]).filterMap f ++ later := by
  obtain ⟨rest, rfl⟩ := hwhole
  refine ⟨rest.filterMap f, ?_, List.filterMap_append⟩
  rw [List.filterMap_append, List.filterMap_append, List.append_assoc] at h
  rw [← List.append_cancel_left h]
  cases hf : f entry <;> simp [hf]

/-- The prepared answers that are left when an exchange is written down: its answer is the next one, and
none follows where the input has ended. -/
theorem InStep.next {whole : Record} {r : Recorded Console} {p : Prepared} (hp : InStep whole r p)
    {c : Console} {entry : Exchange} (hl : Leads ⟨c, r.record ++ [entry]⟩ whole) :
    ∃ answers menu, p.answers = entry.answer?.toList ++ answers ∧
      p.menu = entry.choice?.toList ++ menu ∧ (c.unread = [] → answers = [] ∧ menu = []) ∧
      InStep whole ⟨c, r.record ++ [entry]⟩
        { answers := answers, menu := menu, asked := p.asked ++ entry.question?.toList } := by
  obtain ⟨answers, hanswers, hwhole⟩ := exists_left Exchange.answer? hl.goesOn hp.answers
  obtain ⟨menu, hmenu, hwhole'⟩ := exists_left Exchange.choice? hl.goesOn hp.choices
  refine ⟨answers, menu, hanswers, hmenu, fun hnil => ?_, hwhole, hwhole', ?_⟩
  · obtain ⟨hend, hend'⟩ := hl.ended hnil
    exact ⟨List.self_eq_append_right.1 (hend.symm.trans hwhole),
      List.self_eq_append_right.1 (hend'.symm.trans hwhole')⟩
  · simp [hp.asked]

/-- An exchange is rehearsed by whatever takes the next prepared answer of its kind, and finds none where
nothing is prepared. -/
theorem replays_exchange {α : Type} {entry : Except PromptError α → Exchange}
    {e : Prepared → Except PromptError α × Prepared}
    (hok : ∀ a answers menu asked,
      e ⟨(entry (.ok a)).answer?.toList ++ answers, (entry (.ok a)).choice?.toList ++ menu, asked⟩ =
        (.ok a, ⟨answers, menu, asked ++ (entry (.ok a)).question?.toList⟩))
    (hclosed : ∀ asked, e ⟨[], [], asked⟩ =
      (.error .closed, ⟨[], [], asked ++ (entry (.error .closed)).question?.toList⟩))
    (hnone : (entry (.error .closed)).answer? = none ∧ (entry (.error .closed)).choice? = none)
    {r : Recorded Console} {out : Except PromptError α × Console} (h : Console.Asked r.prompter out) :
    Replays r (out.1, ⟨out.2, r.record ++ [entry out.1]⟩) e := by
  obtain ⟨outcome, c⟩ := out
  obtain ⟨hready, ⟨hne, a, rfl⟩ | ⟨rfl, hnil⟩⟩ := h
  · refine ⟨hready, by simp, fun whole hl => hl.of_entry fun hnil => absurd hnil hne, ?_⟩
    rintro whole ⟨_, _, asked⟩ hl hp
    obtain ⟨answers, menu, rfl, rfl, -, hnext⟩ := hp.next hl
    rw [hok]
    exact ⟨rfl, hnext⟩
  · refine ⟨hready, by simp, fun whole hl => hl.of_entry fun _ => ⟨hnil, hnone⟩, ?_⟩
    rintro whole ⟨_, _, asked⟩ hl hp
    obtain ⟨answers, menu, rfl, rfl, hend, hnext⟩ := hp.next hl
    obtain ⟨rfl, rfl⟩ := hend hnil
    simp only [hnone.1, hnone.2, Option.toList_none, List.append_nil, hclosed, true_and]
    exact hnext

theorem replays_answer (question : String) {r : Recorded Console}
    {out : Except PromptError Bool × Console} (h : Console.Asked r.prompter out) :
    Replays r (out.1, ⟨out.2, r.record ++ [.yesNo question out.1]⟩) (Prepared.answer question) :=
  replays_exchange (fun _ _ _ _ => rfl) (fun _ => rfl) ⟨rfl, rfl⟩ h

theorem replays_choice {r : Recorded Console} {out : Except PromptError MenuChoice × Console}
    (h : Console.Asked r.prompter out) :
    Replays r (out.1, ⟨out.2, r.record ++ [.menu out.1]⟩) Prepared.choose :=
  replays_exchange
    (fun _ _ _ _ => by simp [Prepared.choose, Exchange.answer?, Exchange.choice?, Exchange.question?,
      Except.toOption])
    (fun _ => by simp [Prepared.choose, Exchange.question?]) ⟨rfl, rfl⟩ h

/-! ## Whole conversations -/

theorem replays_bind {α β : Type} {r : Recorded Console} {d : Dialogue (Recorded Console) α}
    {e : Dialogue Prepared α} {f : α → Dialogue (Recorded Console) β} {g : α → Dialogue Prepared β}
    (h : Replays r (d.run.run r) (fun p => e.run.run p))
    (hf : ∀ a r', r'.prompter.Ready → Replays r' ((f a).run.run r') (fun p => (g a).run.run p)) :
    Replays r ((d >>= f).run.run r) (fun p => (e >>= g).run.run p) := by
  rw [run_bind]
  generalize d.run.run r = out at h
  obtain ⟨err | a, r'⟩ := out
  · refine ⟨h.ready, by simpa using h.closed, h.leads, fun whole p hl hp => ?_⟩
    obtain ⟨hresult, hstep⟩ := h.follows whole p hl hp
    dsimp only at hresult hstep ⊢
    rw [run_bind]
    generalize e.run.run p = y at hresult hstep
    obtain ⟨_, p'⟩ := y
    obtain rfl := hresult
    exact ⟨rfl, hstep⟩
  · have hnext := hf a r' h.ready
    refine ⟨hnext.ready, hnext.closed, fun whole hl => h.leads whole (hnext.leads whole hl), ?_⟩
    intro whole p hl hp
    obtain ⟨hresult, hstep⟩ := h.follows whole p (hnext.leads whole hl) hp
    dsimp only at hresult hstep ⊢
    rw [run_bind]
    generalize e.run.run p = y at hresult hstep
    obtain ⟨_, p'⟩ := y
    obtain rfl := hresult
    exact hnext.follows whole p' hl hstep

/-- Dialogues on a recorded console and with prepared answers correspond when the one is the rehearsal
of the other from every console on that can only end. -/
def replays : Correspondence (Recorded Console) Prepared where
  Rel d e := ∀ r, r.prompter.Ready → Replays r (d.run.run r) (fun p => e.run.run p)
  pure a r h := replays_silent a h rfl
  bind hd hf r h := replays_bind (hd r h) hf
  say text r h := by
    have hrun : (Prompter.say text : Dialogue (Recorded Console) Unit).run.run r =
        (.ok (), ⟨{ r.prompter with
          written := r.prompter.written ++ Utf8.bytes (text ++ "\n") }, r.record⟩) := by
      show (_, (⟨_, r.record ++ []⟩ : Recorded Console)) = _
      rw [List.append_nil, show (Prompter.say text : Dialogue Console Unit).run.run r.prompter =
        r.prompter.write (Utf8.bytes (text ++ "\n")) from rfl, Console.write_unlimited _ h.room]
    rw [hrun]
    exact replays_silent () ⟨h.room, h.text⟩ rfl
  askYesNo question _ h := replays_answer question (h.ask _ _)
  chooseMenu _ h := replays_choice (h.ask _ _)
  note event r h := by
    show Replays r (_, (⟨_, r.record ++ []⟩ : Recorded Console)) _
    rw [List.append_nil]
    exact replays_silent () ⟨h.room, h.text⟩ rfl

/-- What one step keeps, a sequence of steps keeps: each step gives the same, and the state after the last
one is what the record leads to. -/
theorem replays_performAll (steps : List Step) {r : Recorded Console} (h : r.prompter.Ready) :
    (∀ x ∈ performAll steps r, ∀ err, x.1 = .error err → err = .closed) ∧
    (∀ whole, Leads (stateAfter steps r) whole → Leads r whole) ∧
    ∀ whole p, Leads (stateAfter steps r) whole → InStep whole r p →
      (performAll steps p).map Prod.fst = (performAll steps r).map Prod.fst ∧
      InStep whole (stateAfter steps r) (stateAfter steps p) := by
  induction steps generalizing r with
  | nil => exact ⟨by simp [performAll], fun _ => id, fun _ _ _ hp => ⟨rfl, hp⟩⟩
  | cons step rest ih =>
    have hstep := replays.perform step r h
    obtain ⟨hclosed, hleads, hfollows⟩ := ih hstep.ready
    refine ⟨?_, fun whole hl => hstep.leads whole (hleads whole hl), fun whole p hl hp => ?_⟩
    · simp only [performAll, List.mem_cons, forall_eq_or_imp]
      exact ⟨hstep.closed, hclosed⟩
    · obtain ⟨hresult, hp'⟩ := hstep.follows whole p (hleads whole hl) hp
      obtain ⟨hresults, hlast⟩ := hfollows whole _ hl hp'
      refine ⟨?_, hlast⟩
      simp only [performAll, List.map_cons]
      rw [hresults, hresult]

theorem Leads.refl (r : Recorded Console) : Leads r r.record := ⟨List.prefix_refl _, fun _ => ⟨rfl, rfl⟩⟩

theorem inStep_rehearsal (whole : Record) (c : Console) : InStep whole ⟨c, []⟩ whole.rehearsal :=
  ⟨rfl, rfl, rfl⟩

/-- At the end nothing is left. -/
theorem InStep.eq_of_whole {r : Recorded Console} {p : Prepared} (h : InStep r.record r p) :
    p = { asked := r.record.questions } := by
  obtain ⟨answers, menu, asked⟩ := p
  obtain ⟨hanswers, hmenu, hasked⟩ := h
  obtain rfl : answers = [] := List.self_eq_append_right.1 hanswers
  obtain rfl : menu = [] := List.self_eq_append_right.1 hmenu
  obtain rfl : asked = r.record.questions := hasked
  rfl

/-- On a console whose input is lines of text and whose output takes any number of bytes, write down a
sequence of steps, or the choice of a profile. The record leaves the conversation as it is, and a question
without an answer is one at the end of the input. With the accepted answers and choices prepared, the same
conversation gives the same at every step, asks the same questions in the same order, the unanswered ones
included, and uses up everything that was prepared. -/
theorem rehearsal_agrees (c : Console) (hroom : c.room = none)
    (htext : ∀ line ∈ Console.lines c.unread, Utf8.isText line = true) :
    (∀ steps : List Step, let record := (stateAfter steps (Recorded.mk c [])).record
      (performAll steps (Recorded.mk c [])).map (fun x => (x.1, x.2.prompter)) = performAll steps c ∧
      (performAll steps record.rehearsal).map Prod.fst = (performAll steps c).map Prod.fst ∧
      stateAfter steps record.rehearsal = { asked := record.questions } ∧
      ∀ x ∈ performAll steps c, ∀ err, x.1 = .error err → err = .closed) ∧
    ∀ args : List String, let recorded := (resolveProfile args).run.run (Recorded.mk c [])
      (recorded.1, recorded.2.prompter) = (resolveProfile args).run.run c ∧
      (resolveProfile args).run.run recorded.2.record.rehearsal =
        (recorded.1, { asked := recorded.2.record.questions }) ∧
      ∀ err, recorded.1 = .error err → err = .closed := by
  have hready : c.Ready := ⟨hroom, htext⟩
  constructor
  · intro steps record
    -- what is prepared is the record of the whole conversation, to which the records on the way lead
    obtain ⟨hclosed, -, hfollows⟩ := replays_performAll steps (r := ⟨c, []⟩) hready
    obtain ⟨hresults, hlast⟩ := hfollows record record.rehearsal (.refl _) (inStep_rehearsal record c)
    have hplain := Recorded.performAll_plain steps (Recorded.mk c [])
    have hfst : (performAll steps (Recorded.mk c [])).map Prod.fst = (performAll steps c).map Prod.fst := by
      rw [← hplain, List.map_map]
      rfl
    refine ⟨hplain, hresults.trans hfst, hlast.eq_of_whole, fun x hx err herr => ?_⟩
    rw [← hplain, List.mem_map] at hx
    obtain ⟨y, hy, rfl⟩ := hx
    exact hclosed y hy err herr
  · intro args recorded
    have hreplays := replays.resolveProfile args ⟨c, []⟩ hready
    obtain ⟨hresult, hprompter⟩ := Recorded.plain.resolveProfile args ⟨c, []⟩ c rfl
    obtain ⟨hreplayed, hlast⟩ := hreplays.follows recorded.2.record recorded.2.record.rehearsal (.refl _)
      (inStep_rehearsal _ c)
    exact ⟨Prod.ext hresult hprompter, Prod.ext hreplayed hlast.eq_of_whole, hreplays.closed⟩

/-- An input with a line that is no answer to the menu, the choice of a custom build and two of its three
answers. -/
def brokenOff : Bytes := Utf8.bytes "x\n3\nmaybe\ny\nno\n"

/-- The case of this input: the third question of the custom build finds it ended, and so it does when
the choice and the two answers are prepared. -/
theorem rehearsal_agrees_brokenOff :
    (Console.mk brokenOff [] none 0 []).room = none ∧
      (∀ line ∈ Console.lines brokenOff, Utf8.isText line = true) ∧
      ((resolveProfile []).run.run
        ((resolveProfile []).run.run (Recorded.mk (Console.mk brokenOff [] none 0 []) [])).2.record.rehearsal).1 =
        .error .closed := by
  have hroom : (Console.mk brokenOff [] none 0 []).room = none := rfl
  have htext : ∀ line ∈ Console.lines brokenOff, Utf8.isText line = true := by decide +kernel
  refine ⟨hroom, htext, ?_⟩
  obtain ⟨hplain, hreplayed, -⟩ := (rehearsal_agrees _ hroom htext).2 []
  rw [hreplayed]
  have hresult := (Console.reads_resolveProfile [] _ hroom).result
  rw [← hplain] at hresult
  rw [hresult]
  decide +kernel

end Rehearsal

end Configurator
