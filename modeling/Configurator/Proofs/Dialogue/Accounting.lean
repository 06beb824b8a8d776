/-
The lines of a whole conversation. On an output without a limit a question is written once for every line
that is read for it, and once more where the input has ended; a line that is read is an answer, or no
answer, or not text. Main statement: after every sequence of steps the lines that were read are the first
ones of the input, and they add up with the answers, the refusals and the prompts; once the input has ended
for a question it has ended for all that follow.
-/
import Configurator.Proofs.Dialogue.Recording
import Configurator.Proofs.Dialogue.Trace

namespace Configurator

open Dialogue

/-! ## Questions without an answer -/

/-- Why there is no answer, where there is none. -/
def refusal? {α : Type} : Except PromptError α → Option PromptError
  | .ok _ => none
  | .error cause => some cause

/-- Why the question of an exchange has no answer, where it has none. -/
def Exchange.refusal? : Exchange → Option PromptError
  | yesNo _ outcome => Configurator.refusal? outcome
  | menu outcome => Configurator.refusal? outcome

/-- How many questions of a record came to an answer, or to none for one cause. -/
def Record.tally (record : Record) (refusal : Option PromptError) : Nat :=
  record.countP (fun x => x.refusal? = refusal)

/-- The causes of the questions without an answer. -/
def Record.refusals (record : Record) : List PromptError := record.filterMap Exchange.refusal?

theorem Record.tally_concat (record : Record) (x : Exchange) (refusal : Option PromptError) :
    (record ++ [x]).tally refusal = record.tally refusal + if x.refusal? = refusal then 1 else 0 := by
  simp [Record.tally, List.countP_singleton]

@[simp] theorem Record.refusals_append (r r' : Record) :
    Record.refusals (r ++ r') = r.refusals ++ r'.refusals := List.filterMap_append

theorem refusal?_eq_some_iff {α : Type} {outcome : Except PromptError α} {cause : PromptError} :
    refusal? outcome = some cause ↔ outcome = .error cause := by
  cases outcome <;> simp [refusal?]

/-! ## The lines of one question -/

namespace Console

variable {α : Type}

/-- The lines that acts read. -/
def heard (acts : List Act) : List Bytes := acts.filterMap Act.line?

@[simp] theorem heard_append (acts acts' : List Act) : heard (acts ++ acts') = heard acts ++ heard acts' :=
  List.filterMap_append

/-- How often acts put a question or the menu. -/
def prompts (acts : List Act) : Nat := acts.countP Act.isPrompt

@[simp] theorem prompts_append (acts acts' : List Act) :
    prompts (acts ++ acts') = prompts acts + prompts acts' := List.countP_append

/-- The acts of a question account for the lines that are read for it. -/
structure Balanced (ls : List Bytes) (acts : List Act) (r : Reading α) : Prop where
  lines : ls = heard acts ++ r.rest
  heard : (heard acts).length =
    (if refusal? r.result = none then 1 else 0) + r.rejected +
      if refusal? r.result = some (.stream .undecodable) then 1 else 0
  prompts : prompts acts = (Console.heard acts).length + if refusal? r.result = some .closed then 1 else 0
  closed : r.result = .error .closed → r.rest = []
  ended : ls = [] → r.result = .error .closed

theorem balanced_ask (prompt : Bytes) (parse : String → Option α) (ls : List Bytes) :
    Balanced ls (asking prompt parse none ls) (Reading.ask parse ls) := by
  induction ls with
  | nil => exact ⟨rfl, rfl, rfl, fun _ => rfl, fun _ => rfl⟩
  | cons line rest ih =>
    simp only [asking, Reading.ask, fits, if_true, Option.map_none]
    cases Reading.judge parse line with
    | accepted answer => exact ⟨rfl, rfl, rfl, by simp, by simp⟩
    | undecodable => exact ⟨rfl, rfl, rfl, by simp, by simp⟩
    | rejected =>
      -- the question is put once more, and one more line is read and counted as no answer
      have hheard := ih.heard
      have hprompts := ih.prompts
      refine ⟨congrArg (line :: ·) ih.lines, ?_, ?_, ih.closed, by simp⟩
      · simp only [heard, List.filterMap_cons, Act.line?, List.length_cons] at hheard ⊢
        omega
      · simp only [prompts, heard, List.countP_cons, List.filterMap_cons, Act.isPrompt, Act.line?,
          List.length_cons, if_true, Bool.false_eq_true, if_false] at hprompts ⊢
        omega

theorem ask_closed (prompt : Bytes) (parse : String → Option α) {c : Console} (h : c.room = none) :
    (c.unread = [] → (c.ask prompt parse).1 = .error .closed) ∧
      ((c.ask prompt parse).1 = .error .closed → (c.ask prompt parse).2.unread = []) := by
  obtain ⟨hresult, hrest, -, -⟩ := ask_readAs prompt parse c h
  have hbalanced := balanced_ask prompt parse (lines c.unread)
  rw [hresult, ← lines_eq_nil_iff (c.ask prompt parse).2.unread, hrest]
  exact ⟨fun hnil => hbalanced.ended ((lines_eq_nil_iff _).2 hnil), hbalanced.closed⟩

end Console

/-! ## Whole conversations -/

open Console

/-- The record and the trace account for the lines of the input that were read. -/
structure Accounts (input : Bytes) (r : Recorded Traced) : Prop where
  room : r.prompter.console.room = none
  written : r.prompter.console.written = spoken r.prompter.acts
  lines : lines input = heard r.prompter.acts ++ lines r.prompter.console.unread
  heard : (heard r.prompter.acts).length =
    r.record.tally none + r.prompter.console.rejected + r.record.tally (some (.stream .undecodable))
  prompts : prompts r.prompter.acts = (Console.heard r.prompter.acts).length + r.record.tally (some .closed)
  closed : ∀ x ∈ r.record, x.refusal? = some .closed → r.prompter.console.unread = []
  ended : r.record.Pairwise fun x y => x.refusal? = some .closed → y.refusal? = some .closed

namespace Accounts

variable {input : Bytes} {r : Recorded Traced}

/-- An act that neither reads nor puts a question changes nothing in the account. -/
theorem quiet (h : Accounts input r) {act : Act} (hact : act.overruns = false) (hline : act.line? = none)
    (hprompt : act.isPrompt = false)
    (hunread : (act.effect r.prompter.console).unread = r.prompter.console.unread)
    (hrejected : (act.effect r.prompter.console).rejected = r.prompter.console.rejected) :
    Accounts input ⟨⟨act.effect r.prompter.console, r.prompter.acts ++ [act]⟩, r.record⟩ := by
  obtain ⟨hroom, hwritten⟩ := effect_fluent hact h.room
  have hheard : Console.heard (r.prompter.acts ++ [act]) = Console.heard r.prompter.acts := by
    simp [Console.heard, hline]
  have hprompts : Console.prompts (r.prompter.acts ++ [act]) = Console.prompts r.prompter.acts := by
    simp [Console.prompts, hprompt]
  refine ⟨hroom, ?_, ?_, ?_, ?_, ?_, h.ended⟩
  · simp [hwritten, h.written]
  · rw [hheard, hunread]
    exact h.lines
  · rw [hheard, hrejected]
    exact h.heard
  · rw [hheard, hprompts]
    exact h.prompts
  · rw [hunread]
    exact h.closed

/-- The acts of a question keep the account, with what came of the question written down. -/
theorem asked (h : Accounts input r) {α : Type} (prompt : Bytes) (parse : String → Option α)
    {entry : Except PromptError α → Exchange} (hentry : ∀ outcome, (entry outcome).refusal? = refusal? outcome) :
    let out := r.prompter.console.ask prompt parse
    Accounts input ⟨⟨out.2, r.prompter.acts ++
      asking prompt parse r.prompter.console.room (Console.lines r.prompter.console.unread)⟩,
      r.record ++ [entry out.1]⟩ := by
  intro out
  obtain ⟨hresult, hrest, hrejected, hroom⟩ := ask_readAs prompt parse r.prompter.console h.room
  obtain ⟨hended, hclosed⟩ := ask_closed prompt parse h.room
  have hbalanced := balanced_ask prompt parse (Console.lines r.prompter.console.unread)
  have htally (refusal : Option PromptError) : (r.record ++ [entry out.1]).tally refusal =
      r.record.tally refusal +
        if refusal? (Reading.ask parse (Console.lines r.prompter.console.unread)).result = refusal then 1 else 0 := by
    rw [Record.tally_concat, hentry, ← hresult]
  -- what the question adds to both sides of each account
  have hheard := hbalanced.heard
  have hprompts := hbalanced.prompts
  rw [h.room]
  refine ⟨hroom, ?_, ?_, ?_, ?_, fun x hx hx' => hclosed ?_, ?_⟩
  · rw [written_ask prompt parse h.room, h.written, spoken_append]
  · rw [h.lines, heard_append, List.append_assoc, hrest, ← hbalanced.lines]
  · have := h.heard
    rw [heard_append, List.length_append, htally, htally, hrejected]
    omega
  · have := h.prompts
    rw [prompts_append, heard_append, List.length_append, htally]
    omega
  · rcases List.mem_append.1 hx with hx | hx
    · exact hended (h.closed x hx hx')
    · rw [List.mem_singleton.1 hx, hentry] at hx'
      exact refusal?_eq_some_iff.1 hx'
  · refine List.pairwise_append.2 ⟨h.ended, List.pairwise_singleton _ _, fun x hx y hy hx' => ?_⟩
    rw [List.mem_singleton.1 hy, hentry]
    exact refusal?_eq_some_iff.2 (hended (h.closed x hx hx'))

end Accounts

/-- A dialogue kept the account, and the causes of its questions without an answer are those for which it
failed. -/
structure Accounted {α : Type} (input : Bytes) (r : Recorded Traced)
    (out : Except PromptError α × Recorded Traced) : Prop where
  accounts : Accounts input out.2
  refusals : out.2.record.refusals = r.record.refusals ++ (refusal? out.1).toList

namespace Accounted

variable {input : Bytes} {r : Recorded Traced}

/-- A text that was shown, or an event that was noted. -/
theorem of_quiet (h : Accounts input r) {act : Act} (hact : act.overruns = false) (hline : act.line? = none)
    (hprompt : act.isPrompt = false)
    (hunread : (act.effect r.prompter.console).unread = r.prompter.console.unread)
    (hrejected : (act.effect r.prompter.console).rejected = r.prompter.console.rejected)
    {out : Except PromptError Unit × Console} (hout : out = (.ok (), act.effect r.prompter.console)) :
    Accounted input r (out.1, ⟨⟨out.2, r.prompter.acts ++ [act]⟩, r.record ++ []⟩) := by
  subst hout
  rw [List.append_nil]
  exact ⟨h.quiet hact hline hprompt hunread hrejected, (List.append_nil _).symm⟩

/-- A question that was put. -/
theorem of_asked (h : Accounts input r) {α : Type} (prompt : Bytes) (parse : String → Option α)
    {entry : Except PromptError α → Exchange} (hentry : ∀ outcome, (entry outcome).refusal? = refusal? outcome) :
    let out := r.prompter.console.ask prompt parse
    Accounted input r (out.1, ⟨⟨out.2, r.prompter.acts ++
      asking prompt parse r.prompter.console.room (Console.lines r.prompter.console.unread)⟩,
      r.record ++ [entry out.1]⟩) := by
  intro out
  refine ⟨h.asked prompt parse hentry, ?_⟩
  rw [Record.refusals_append, ← hentry]
  cases hx : (entry out.1).refusal? <;> simp [Record.refusals, hx]

/-- What goes on after a part that kept the account keeps it. -/
theorem bind {α β : Type} {d : Dialogue (Recorded Traced) α} {f : α → Dialogue (Recorded Traced) β}
    (h : Accounted input r (d.run.run r))
    (hf : ∀ a r', Accounts input r' → Accounted input r' ((f a).run.run r')) :
    Accounted input r ((d >>= f).run.run r) := by
  rw [run_bind]
  generalize d.run.run r = out at h
  obtain ⟨e | a, r'⟩ := out
  · exact ⟨h.accounts, h.refusals⟩
  · obtain ⟨haccounts, hrefusals⟩ := hf a r' h.accounts
    refine ⟨haccounts, ?_⟩
    rw [hrefusals, h.refusals]
    simp [refusal?]

/-- Every dialogue keeps the account. -/
def always (input : Bytes) : Correspondence (Recorded Traced) (Recorded Traced) where
  Rel d _ := ∀ r, Accounts input r → Accounted input r (d.run.run r)
  pure a r h := ⟨h, (List.append_nil _).symm⟩
  bind hd hf r h := (hd r h).bind hf
  say text r h := by
    have hact : writing .told (Utf8.bytes (text ++ "\n")) r.prompter.console.room =
        .told (Utf8.bytes (text ++ "\n")) := by
      rw [h.room]
      rfl
    have hwrite := write_unlimited (Utf8.bytes (text ++ "\n")) h.room
    have heffect : Act.effect r.prompter.console (.told (Utf8.bytes (text ++ "\n"))) =
      { r.prompter.console with written := r.prompter.console.written ++ Utf8.bytes (text ++ "\n") } :=
      congrArg Prod.snd hwrite
    show Accounted input r (_, ⟨⟨_, r.prompter.acts ++ [writing .told _ r.prompter.console.room]⟩, _⟩)
    rw [hact]
    exact of_quiet h rfl rfl rfl (by rw [heffect]) (by rw [heffect])
      (hwrite.trans (congrArg (Prod.mk _) heffect.symm))
  askYesNo question r h := of_asked h _ _ fun _ => rfl
  chooseMenu r h := of_asked h _ _ fun _ => rfl
  note event r h :=
    @of_quiet input r h (.noted event) rfl rfl rfl rfl rfl
      (.ok (), Act.effect r.prompter.console (.noted event)) rfl

/-- What one step keeps, a sequence of steps keeps: the causes in the record are those for which the steps
failed. -/
theorem performAll (steps : List Step) {r : Recorded Traced} (h : Accounts input r) :
    Accounts input (stateAfter steps r) ∧
      (stateAfter steps r).record.refusals =
        r.record.refusals ++ (Dialogue.performAll steps r).filterMap fun x => refusal? x.1 := by
  induction steps generalizing r with
  | nil => exact ⟨h, (List.append_nil _).symm⟩
  | cons step rest ih =>
    obtain ⟨hstep, hrefusals⟩ := (always input).perform step r h
    obtain ⟨hrest, hlater⟩ := ih hstep
    refine ⟨hrest, ?_⟩
    rw [stateAfter_cons, hlater, hrefusals, Dialogue.performAll, List.append_assoc]
    cases hx : refusal? ((perform step).run.run r).1 <;> simp [hx]

end Accounted

theorem accounts_fresh (input : Bytes) : Accounts input ⟨⟨{ unread := input }, []⟩, []⟩ :=
  ⟨rfl, rfl, rfl, rfl, rfl, nofun, .nil⟩

/-- On an input and an output without a limit, hold a conversation of any steps; let a record be kept of its
questions and a trace of what happens on the streams. Neither changes the conversation: it gives the same at
every step, and the acts of the trace lead to what is on the console. A question has no answer exactly for the
causes for which steps fail. The lines that were read, whole ones each, are the first of the input; they
are as many as the answers, the lines that were no answer and the lines that were not text; with the
questions that found the input ended they are as many as the prompts. That the input has ended is said only
when it is used up, and then of every later question. -/
theorem line_accounting (input : Bytes) (steps : List Step) :
    let free : Console := { unread := input }
    let start : Recorded Traced := ⟨⟨free, []⟩, []⟩
    let last := stateAfter steps start
    let console := last.prompter.console
    let acts := last.prompter.acts
    (performAll steps start).map (fun x => (x.1, x.2.prompter.console)) = performAll steps free ∧
      console = stateAfter steps free ∧ console = free.replay acts ∧ console.written = spoken acts ∧
      last.record.refusals = (performAll steps free).filterMap (fun x => refusal? x.1) ∧
      input = (heard acts).flatten ++ console.unread ∧ lines input = heard acts ++ lines console.unread ∧
      (heard acts).length =
        last.record.tally none + console.rejected + last.record.tally (some (.stream .undecodable)) ∧
      prompts acts = (heard acts).length + last.record.tally (some .closed) ∧
      (∀ x ∈ last.record, x.refusal? = some .closed → console.unread = []) ∧
      last.record.Pairwise (fun x y => x.refusal? = some .closed → y.refusal? = some .closed) := by
  intro free start last console acts
  obtain ⟨haccounts, hrefusals⟩ := Accounted.performAll steps (accounts_fresh input)
  -- without the record the trace is left, and without the trace the console
  have hprompter : last.prompter = stateAfter steps start.prompter := Recorded.stateAfter_plain steps start
  have hplain : (performAll steps start).map (fun x => (x.1, x.2.prompter.console)) = performAll steps free := by
    rw [← Traced.performAll_plain steps start.prompter, ← Recorded.performAll_plain steps start, List.map_map]
    rfl
  refine ⟨hplain, ?_, ?_, haccounts.written, ?_, ?_, haccounts.lines, haccounts.heard, haccounts.prompts,
    haccounts.closed, haccounts.ended⟩
  · rw [show console = last.prompter.console from rfl, hprompter]
    exact Traced.stateAfter_plain steps start.prompter
  · show last.prompter.console = free.replay last.prompter.acts
    rw [hprompter]
    exact Traced.tells_stateAfter steps free
  · rw [hrefusals, ← hplain, List.filterMap_map]
    rfl
  · rw [← flatten_lines console.unread, ← List.flatten_append, ← haccounts.lines, flatten_lines]

end Configurator
