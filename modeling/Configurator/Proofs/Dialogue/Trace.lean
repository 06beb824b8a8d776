/-
What happens on the two streams of a console, act by act. Next to a console a trace can be kept of every
text that is written or for which there is no room, of every line that is read, and of every line that was
no answer, in the order in which these things happen. Main statements: a trace leaves the conversation as it
is, what is on the console after a conversation is what the acts of its trace do one after the other, and a
conversation depends on the input that is left alone, whatever was written before.
-/
import Configurator.Proofs.Dialogue.Correspondence

namespace Configurator

namespace Console

/-! ## Acts -/

/-- One thing that happens on a console. -/
inductive Act where
  /-- A text was written to which no line is an answer. -/
  | told (text : Bytes)
  /-- A question or the menu was written. -/
  | asked (prompt : Bytes)
  /-- There was no room for a text; what fitted was kept. -/
  | overran (text : Bytes)
  /-- A line was read. -/
  | read (line : Bytes)
  /-- The line that was read last was no answer. -/
  | rejected (text : String)
  | noted (event : Log.Event)

namespace Act

/-- The bytes that an act writes in full. -/
def text : Act → Bytes
  | told text => text
  | asked prompt => prompt
  | _ => []

/-- The line that an act reads. -/
def line? : Act → Option Bytes
  | read line => some line
  | _ => none

/-- Whether a question or the menu was written. -/
def isPrompt : Act → Bool
  | asked _ => true
  | _ => false

/-- Whether there was no room for a text. -/
def overruns : Act → Bool
  | overran _ => true
  | _ => false

/-- What an act does to a console. -/
def effect (c : Console) : Act → Console
  | told text | asked text | overran text => (c.write text).2
  | read line => { c with unread := c.unread.drop line.length }
  | rejected text => c.reject text
  | noted event => { c with journal := c.journal ++ [event] }

end Act

/-- The console after acts one after the other. -/
def replay (c : Console) (acts : List Act) : Console := acts.foldl Act.effect c

@[simp] theorem replay_nil (c : Console) : c.replay [] = c := rfl

@[simp] theorem replay_cons (c : Console) (act : Act) (acts : List Act) :
    c.replay (act :: acts) = (act.effect c).replay acts := rfl

@[simp] theorem replay_append (c : Console) (acts acts' : List Act) :
    c.replay (acts ++ acts') = (c.replay acts).replay acts' := List.foldl_append

/-! ## Acts without a failure -/

/-- The bytes that acts write in full. -/
def spoken (acts : List Act) : Bytes := acts.flatMap Act.text

@[simp] theorem spoken_nil : spoken [] = [] := rfl

@[simp] theorem spoken_cons (act : Act) (acts : List Act) :
    spoken (act :: acts) = act.text ++ spoken acts := rfl

@[simp] theorem spoken_append (acts acts' : List Act) :
    spoken (acts ++ acts') = spoken acts ++ spoken acts' := List.flatMap_append

/-- Acts without a failure. -/
def Fluent (acts : List Act) : Prop := ∀ act ∈ acts, act.overruns = false

theorem Fluent.head {act : Act} {acts : List Act} (h : Fluent (act :: acts)) : act.overruns = false :=
  h act List.mem_cons_self

theorem Fluent.tail {act : Act} {acts : List Act} (h : Fluent (act :: acts)) : Fluent acts :=
  fun a ha => h a (List.mem_cons_of_mem _ ha)

theorem Fluent.append {acts acts' : List Act} (h : Fluent acts) (h' : Fluent acts') :
    Fluent (acts ++ acts') := by
  intro act hact
  rcases List.mem_append.1 hact with hact | hact
  · exact h act hact
  · exact h' act hact

theorem effect_fluent {act : Act} (h : act.overruns = false) {c : Console} (hroom : c.room = none) :
    (act.effect c).room = none ∧ (act.effect c).written = c.written ++ act.text := by
  cases act with
  | told text | asked text => simp [Act.effect, Act.text, write, hroom]
  | overran text => simp [Act.overruns] at h
  | read line => simp [Act.effect, Act.text, hroom]
  | rejected text => simp [Act.effect, Act.text, hroom, reject]
  | noted event => simp [Act.effect, Act.text, hroom]

/-- Acts without a failure write all their texts. -/
theorem replay_fluent {acts : List Act} (h : Fluent acts) {c : Console} (hroom : c.room = none) :
    (c.replay acts).room = none ∧ (c.replay acts).written = c.written ++ spoken acts := by
  induction acts generalizing c with
  | nil => exact ⟨hroom, (List.append_nil _).symm⟩
  | cons act rest ih =>
    obtain ⟨hnone, hwritten⟩ := effect_fluent h.head hroom
    obtain ⟨hroom', hwritten'⟩ := ih h.tail hnone
    exact ⟨hroom', by rw [replay_cons, hwritten', hwritten, spoken_cons, List.append_assoc]⟩

/-! ## The acts of a question -/

/-- Whether an output with so much room takes a text. -/
def fits (text : Bytes) : Option Nat → Bool
  | none => true
  | some room => text.length ≤ room

theorem write_of_fits {text : Bytes} {c : Console} (h : fits text c.room = true) :
    c.write text = (.ok (), { c with
      written := c.written ++ text, room := c.room.map (· - text.length) }) := by
  obtain ⟨unread, written, _ | room, rejected, journal⟩ := c
  · rfl
  · simp only [fits, decide_eq_true_eq] at h
    simp [write, h]

theorem write_of_not_fits {text : Bytes} {c : Console} (h : ¬ fits text c.room = true) :
    (c.write text).1 = .error (.stream .full) := by
  obtain ⟨unread, written, _ | room, rejected, journal⟩ := c
  · simp [fits] at h
  · simp only [fits, decide_eq_true_eq] at h
    simp [write, h]

/-- Writing a text, or finding no room for it. -/
def writing (act : Bytes → Act) (text : Bytes) (room : Option Nat) : Act :=
  if fits text room then act text else .overran text

variable {α : Type}

/-- Putting a question until a line answers it, on an output with so much room and an input with these
lines. -/
def asking (prompt : Bytes) (parse : String → Option α) : Option Nat → List Bytes → List Act
  | room, [] => [writing .asked prompt room]
  | room, line :: rest =>
    if fits prompt room then
      match Reading.judge parse line with
      | .accepted _ => [.asked prompt, .read line]
      | .undecodable => [.asked prompt, .read line]
      | .rejected =>
        .asked prompt :: .read line :: .rejected ((Utf8.decode? line).getD "") ::
          asking prompt parse (room.map (· - prompt.length)) rest
    else [.overran prompt]

/-- A question fails for want of room if this is among its acts, and else comes to what its lines come to;
the acts lead to the console behind it. -/
theorem ask_eq (prompt : Bytes) (parse : String → Option α) (c : Console) :
    let acts := asking prompt parse c.room (lines c.unread)
    c.ask prompt parse =
      (if acts.any Act.overruns then .error (.stream .full) else (Reading.ask parse (lines c.unread)).result,
        c.replay acts) := by
  induction hl : lines c.unread generalizing c with
  | nil =>
    by_cases hfits : fits prompt c.room
    · rw [ask_of_ended parse (write_of_fits hfits) ((lines_eq_nil_iff _).1 hl), asking, writing, if_pos hfits]
      simp [Act.effect, Act.overruns, Reading.ask, write_of_fits hfits]
    · rw [ask_of_full parse (Prod.ext (write_of_not_fits hfits) rfl), asking, writing, if_neg hfits]
      rfl
  | cons line rest ih =>
    by_cases hfits : fits prompt c.room
    · have hunread : c.unread.drop line.length = rest.flatten := by
        rw [← flatten_lines c.unread, hl, List.flatten_cons, List.drop_left]
      rw [ask_of_line parse (write_of_fits hfits) hl, asking, if_pos hfits, Reading.ask]
      cases Reading.judge parse line with
      | accepted answer => simp [Act.effect, Act.overruns, write_of_fits hfits, hunread]
      | undecodable => simp [Act.effect, Act.overruns, write_of_fits hfits, hunread]
      | rejected =>
        -- the question is put again on the lines that are left, with less room
        dsimp only
        rw [ih _ (lines_flatten_of_cons hl)]
        simp [Act.effect, Act.overruns, write_of_fits hfits, hunread, reject]
    · rw [ask_of_full parse (Prod.ext (write_of_not_fits hfits) rfl), asking, if_neg hfits]
      rfl

/-- On an output without a limit nothing fails. -/
theorem fluent_asking {α : Type} (prompt : Bytes) (parse : String → Option α) (ls : List Bytes) :
    Fluent (asking prompt parse none ls) := by
  induction ls with
  | nil => simp [Fluent, asking, writing, fits, Act.overruns]
  | cons line rest ih =>
    simp only [asking, fits, if_true]
    cases Reading.judge parse line with
    | accepted answer => simp [Fluent, Act.overruns]
    | undecodable => simp [Fluent, Act.overruns]
    | rejected =>
      rintro act (_ | ⟨_, _ | ⟨_, _ | ⟨_, hact⟩⟩⟩)
      · rfl
      · rfl
      · rfl
      · exact ih act hact

theorem written_ask (prompt : Bytes) (parse : String → Option α) {c : Console} (h : c.room = none) :
    (c.ask prompt parse).2.written = c.written ++ spoken (asking prompt parse none (lines c.unread)) := by
  have hreplay := congrArg Prod.snd (ask_eq prompt parse c)
  rw [h] at hreplay
  exact (congrArg Console.written hreplay).trans (replay_fluent (fluent_asking _ _ _) h).2

theorem fluent_writing {act : Bytes → Act} (hact : ∀ text, (act text).overruns = false) (text : Bytes) :
    Fluent [writing act text none] := by
  simp [Fluent, writing, fits, hact]

/-! ## A conversation that goes on behind a text -/

/-- Two consoles with the same input left and without a limit on the output, of which the first has written
a text before all that the second has. -/
structure Ahead (text : Bytes) (c d : Console) : Prop where
  unread : c.unread = d.unread
  room : c.room = none
  room' : d.room = none
  written : c.written = text ++ d.written

namespace Ahead

variable {text : Bytes} {c d : Console}

theorem say (h : Ahead text c d) (line : String) :
    Dialogue.Agree (Ahead text) ((Prompter.say line).run.run c) ((Prompter.say line).run.run d) := by
  show Dialogue.Agree (Ahead text) (c.write _) (d.write _)
  rw [write_unlimited _ h.room, write_unlimited _ h.room']
  exact ⟨rfl, h.unread, h.room, h.room', by simp [h.written]⟩

theorem ask (h : Ahead text c d) (prompt : Bytes) (parse : String → Option α) :
    Dialogue.Agree (Ahead text) (c.ask prompt parse) (d.ask prompt parse) := by
  obtain ⟨hresult, hrest, -, hroom⟩ := ask_readAs prompt parse c h.room
  obtain ⟨hresult', hrest', -, hroom'⟩ := ask_readAs prompt parse d h.room'
  rw [h.unread] at hresult hrest
  refine ⟨hresult.trans hresult'.symm, ?_, hroom, hroom', ?_⟩
  · rw [← flatten_lines (c.ask prompt parse).2.unread, hrest, ← hrest', flatten_lines]
  · rw [written_ask prompt parse h.room, written_ask prompt parse h.room', h.unread, h.written,
      List.append_assoc]

end Ahead

/-- What a dialogue gives, reads and writes depends on the input that is left alone. -/
def ahead (text : Bytes) : Dialogue.Correspondence Console Console :=
  .ofStates (Ahead text) (fun line _ _ h => h.say line) (fun _ _ _ h => h.ask _ _) (fun _ _ h => h.ask _ _)
    (fun _ _ _ h => ⟨rfl, h.unread, h.room, h.room', h.written⟩)

end Console

/-! ## Keeping a trace -/

/-- A console next to which a trace is kept. -/
structure Traced where
  console : Console
  acts : List Console.Act := []

namespace Traced

open Console

/-- Lets the console act; `acts` says what happens on it. -/
def acting {α : Type} (d : Dialogue Console α) (acts : Console → List Act) : Dialogue Traced α :=
  .mk (fun t =>
    let out := d.run.run t.console
    (out.1, ⟨out.2, t.acts ++ acts t.console⟩))

instance : Prompter Traced where
  say text := acting (Prompter.say text) fun c => [writing .told (Utf8.bytes (text ++ "\n")) c.room]
  askYesNo question := acting (Prompter.askYesNo question) fun c =>
    asking (Utf8.bytes (yesNoPrompt question)) yesNo? c.room (lines c.unread)
  chooseMenu := acting Prompter.chooseMenu fun c =>
    asking (Utf8.bytes menuPrompt) menuChoice? c.room (lines c.unread)
  note event := acting (Prompter.note event) fun _ => [.noted event]

theorem acting_agree {α : Type} (d : Dialogue Console α) (acts : Console → List Act) (t : Traced)
    (c : Console) (h : t.console = c) :
    Dialogue.Agree (fun (t : Traced) c => t.console = c) ((acting d acts).run.run t) (d.run.run c) := by
  subst h
  exact ⟨rfl, rfl⟩

/-- A traced conversation corresponds to the one without a trace. -/
def plain : Dialogue.Correspondence Traced Console :=
  .ofStates (fun t c => t.console = c) (fun _ => acting_agree _ _) (fun _ => acting_agree _ _)
    (acting_agree _ _) (fun _ => acting_agree _ _)

/-- A sequence of steps gives the same, and leaves the same console after each of them, with and without a
trace. -/
theorem performAll_plain (steps : List Dialogue.Step) (t : Traced) :
    (Dialogue.performAll steps t).map (fun x => (x.1, x.2.console)) = Dialogue.performAll steps t.console :=
  Dialogue.performAll_map (fun step => plain.perform step) steps t

theorem stateAfter_plain (steps : List Dialogue.Step) (t : Traced) :
    (Dialogue.stateAfter steps t).console = Dialogue.stateAfter steps t.console :=
  Dialogue.stateAfter_map (fun step => plain.perform step) steps t

/-! ## Traces that tell everything -/

/-- From the first console the acts of the trace lead to the one that is there. -/
def Tells (c : Console) (t : Traced) : Prop := t.console = c.replay t.acts

theorem acting_tells {α : Type} {d : Dialogue Console α} {acts : Console → List Act}
    (h : ∀ c, (d.run.run c).2 = c.replay (acts c)) {c : Console} {t : Traced} (ht : Tells c t) :
    Tells c ((acting d acts).run.run t).2 := by
  show (d.run.run t.console).2 = c.replay (t.acts ++ acts t.console)
  rw [h, replay_append, ← show t.console = c.replay t.acts from ht]

theorem write_replay (act : Bytes → Act) (hact : ∀ c text, (act text).effect c = (c.write text).2)
    (text : Bytes) (c : Console) : (c.write text).2 = c.replay [writing act text c.room] := by
  unfold writing
  split
  · exact (hact c text).symm
  · rfl

/-- After every sequence of steps the acts of the trace lead to the console. -/
theorem tells_stateAfter (steps : List Dialogue.Step) (c : Console) :
    Tells c (Dialogue.stateAfter steps ⟨c, []⟩) := by
  refine Dialogue.stateAfter_keeps (fun text t => acting_tells fun c => ?_)
    (fun question t => acting_tells fun c => congrArg Prod.snd (ask_eq _ _ c))
    (fun t => acting_tells fun c => congrArg Prod.snd (ask_eq _ _ c))
    (fun event t => acting_tells fun c => rfl) steps rfl
  exact write_replay .told (fun _ _ => rfl) _ c

end Traced

end Configurator
