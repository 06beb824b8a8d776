/-
Conversations on an output that fills up. Every text is written before the line that answers it is read, so
a conversation on an output with limited room is the conversation without a limit up to the first text for
which there is no room, and nothing but failures from there on. Main statement: what an output with room for
so many bytes makes of a sequence of steps, step by step and act by act.
-/
import Configurator.Proofs.Dialogue.Trace

namespace Configurator

open Dialogue

namespace Console

/-! ## Acts within a limit -/

/-- The acts up to the first text for which so much room is not enough. -/
def within : Nat → List Act → List Act
  | _, [] => []
  | room, act :: rest =>
    if act.text.length ≤ room then act :: within (room - act.text.length) rest else [.overran act.text]

theorem within_of_le {room : Nat} {acts : List Act} (h : (spoken acts).length ≤ room) :
    within room acts = acts := by
  induction acts generalizing room with
  | nil => rfl
  | cons act rest ih =>
    simp only [spoken_cons, List.length_append] at h
    rw [within, if_pos (by omega), ih (by omega)]

theorem within_append (room : Nat) (acts acts' : List Act) :
    within room (acts ++ acts') =
      if (spoken acts).length ≤ room then acts ++ within (room - (spoken acts).length) acts'
      else within room acts := by
  induction acts generalizing room with
  | nil => simp
  | cons act rest ih =>
    simp only [List.cons_append, within, spoken_cons, List.length_append]
    by_cases hact : act.text.length ≤ room
    · rw [if_pos hact, if_pos hact, ih, Nat.sub_sub]
      by_cases hrest : (spoken rest).length ≤ room - act.text.length
      · rw [if_pos hrest, if_pos (by omega)]
      · rw [if_neg hrest, if_neg (by omega)]
    · rw [if_neg hact, if_neg hact, if_neg (by omega)]

/-- Within a limit something fails exactly if the limit is too small. -/
theorem any_overruns_within {acts : List Act} (h : Fluent acts) (room : Nat) :
    (within room acts).any Act.overruns = decide (room < (spoken acts).length) := by
  induction acts generalizing room with
  | nil => simp [within]
  | cons act rest ih =>
    simp only [within, spoken_cons, List.length_append]
    split
    · rw [List.any_cons, h.head, Bool.false_or, ih h.tail]
      congr 1
      exact propext ⟨fun h => by omega, fun h => by omega⟩
    · simp only [List.any_cons, Act.overruns, List.any_nil, Bool.or_false]
      exact (decide_eq_true (by omega)).symm

/-- Behind a text for which there is no room nothing follows. -/
theorem eq_nil_of_within {acts : List Act} (h : Fluent acts) {room : Nat} {before after : List Act}
    {text : Bytes} (hwithin : within room acts = before ++ .overran text :: after) : after = [] := by
  induction acts generalizing room before with
  | nil => simp [within] at hwithin
  | cons act rest ih =>
    rw [within] at hwithin
    split at hwithin
    · cases before with
      | nil =>
        obtain ⟨rfl, -⟩ := List.cons.inj hwithin
        simpa [Act.overruns] using h.head
      | cons first before =>
        obtain ⟨-, hrest⟩ := List.cons.inj hwithin
        exact ih h.tail hrest
    · cases before with
      | nil => exact (List.cons.inj hwithin).2.symm
      | cons first before => simp at hwithin

/-! ## Consoles with a limit -/

/-- The console on an output with so much room. -/
def limited (room : Nat) (c : Console) : Console := { c with room := some room }

/-- An act without a failure does the same on an output with room for it. -/
theorem effect_limited {act : Act} (h : act.overruns = false) {c : Console} (hroom : c.room = none) {room : Nat}
    (hfits : act.text.length ≤ room) :
    act.effect (c.limited room) = (act.effect c).limited (room - act.text.length) := by
  cases act with
  | told text | asked text =>
    simp only [Act.text] at hfits
    simp [Act.effect, Act.text, limited, write, hroom, hfits]
  | overran text => simp [Act.overruns] at h
  | read line => simp [Act.effect, Act.text, limited]
  | rejected text => simp [Act.effect, Act.text, limited, reject]
  | noted event => simp [Act.effect, Act.text, limited]

/-- With room for all their texts, acts do the same as without a limit. -/
theorem replay_limited {acts : List Act} (h : Fluent acts) {c : Console} (hroom : c.room = none) {room : Nat}
    (hfits : (spoken acts).length ≤ room) :
    (c.limited room).replay acts = (c.replay acts).limited (room - (spoken acts).length) := by
  induction acts generalizing c room with
  | nil => rfl
  | cons act rest ih =>
    simp only [spoken_cons, List.length_append] at hfits
    rw [replay_cons, effect_limited h.head hroom (show act.text.length ≤ room by omega),
      ih h.tail (effect_fluent h.head hroom).1 (by omega), replay_cons, spoken_cons, List.length_append,
      Nat.sub_sub]

/-- With room for a part of their texts, acts write this part. -/
theorem replay_within {acts : List Act} (h : Fluent acts) {c : Console} (hroom : c.room = none) {room : Nat}
    (hfull : room < (spoken acts).length) :
    ((c.limited room).replay (within room acts)).room = some 0 ∧
      ((c.limited room).replay (within room acts)).written = c.written ++ (spoken acts).take room := by
  induction acts generalizing c room with
  | nil => simp at hfull
  | cons act rest ih =>
    simp only [spoken_cons, List.length_append] at hfull
    rw [within]
    split
    · next hfits =>
      obtain ⟨hnone, hwritten⟩ := effect_fluent h.head hroom
      obtain ⟨hroom', hwritten'⟩ := ih h.tail hnone (show room - act.text.length < (spoken rest).length by omega)
      rw [replay_cons, effect_limited h.head hroom hfits]
      refine ⟨hroom', ?_⟩
      rw [hwritten', hwritten, spoken_cons, List.take_append, List.take_of_length_le hfits, List.append_assoc]
    · next hfits =>
      simp only [replay_cons, replay_nil, Act.effect, write, limited, hfits, if_false, true_and]
      rw [spoken_cons, List.take_append_of_le_length (by omega)]

/-! ## Questions with a limit -/

theorem writing_within (act : Bytes → Act) (hact : ∀ text, (act text).text = text) (text : Bytes) (room : Nat) :
    [writing act text (some room)] = within room [writing act text none] := by
  by_cases h : text.length ≤ room <;> simp [writing, fits, within, hact, h]

/-- On an output with limited room the acts of a question are those within the limit. -/
theorem asking_within {α : Type} (prompt : Bytes) (parse : String → Option α) (room : Nat)
    (ls : List Bytes) :
    asking prompt parse (some room) ls = within room (asking prompt parse none ls) := by
  induction ls generalizing room with
  | nil => exact writing_within .asked (fun _ => rfl) prompt room
  | cons line rest ih =>
    simp only [asking, fits, if_true, decide_eq_true_eq]
    by_cases hfits : prompt.length ≤ room
    · cases Reading.judge parse line <;> simp [within, Act.text, hfits, ih]
    · cases Reading.judge parse line <;> simp [within, Act.text, hfits]

/-- Writing a text succeeds unless there is no room for it. -/
theorem write_eq {act : Bytes → Act} (hact : ∀ text, (act text).overruns = false)
    (heffect : ∀ c text, (act text).effect c = (c.write text).2) (text : Bytes) (c : Console) :
    c.write text =
      (if [writing act text c.room].any Act.overruns then .error (.stream .full) else .ok (),
        c.replay [writing act text c.room]) := by
  refine Prod.ext ?_ (Traced.write_replay act heffect text c)
  unfold writing
  by_cases hfits : fits text c.room
  · simp [write_of_fits hfits, hfits, hact]
  · simp [write_of_not_fits hfits, hfits, Act.overruns]

theorem rejected_write (text : Bytes) (c : Console) : (c.write text).2.rejected = c.rejected := by
  unfold write
  split
  · rfl
  · split <;> rfl

theorem write_of_no_room {text : Bytes} (h : text ≠ []) {c : Console} (hroom : c.room = some 0) :
    c.write text = (.error (.stream .full), c) := by
  obtain ⟨unread, written, room, rejected, journal⟩ := c
  obtain rfl : room = some 0 := hroom
  simp [write, h]

end Console

namespace Traced

open Console

/-! ## Conversations with a limit -/

/-- The traced console on an output with so much room. -/
def limited (room : Nat) (t : Traced) : Traced := { t with console := t.console.limited room }

/-- The traced console after acts. -/
def followed (t : Traced) (acts : List Act) : Traced := ⟨t.console.replay acts, t.acts ++ acts⟩

/-- A conversation without a limit comes to `out` by acts without a failure; with a limit it comes to the
same if there is room for them, and else fails with the acts within the limit. -/
structure Bounded {α : Type} (t : Traced) (acts : List Act) (out : Except PromptError α × Traced)
    (bounded : Nat → Except PromptError α × Traced) : Prop where
  fluent : Fluent acts
  follows : out.2 = t.followed acts
  fits : ∀ room, (spoken acts).length ≤ room →
    bounded room = (out.1, out.2.limited (room - (spoken acts).length))
  full : ∀ room, room < (spoken acts).length →
    bounded room = (.error (.stream .full), (t.limited room).followed (within room acts))

/-- On an output with limited room the first dialogue is bounded by what the second one does without a
limit. -/
def BoundedBy {α : Type} (d e : Dialogue Traced α) : Prop :=
  ∀ t : Traced, t.console.room = none →
    ∃ acts, Bounded t acts (e.run.run t) fun room => d.run.run (t.limited room)

theorem BoundedBy.bind {α β : Type} {d e : Dialogue Traced α} {f g : α → Dialogue Traced β}
    (hd : BoundedBy d e) (hf : ∀ a, BoundedBy (f a) (g a)) : BoundedBy (d >>= f) (e >>= g) := by
  intro t hroom
  obtain ⟨acts, hfluent, hfollows, hfits, hfull⟩ := hd t hroom
  simp only [run_bind]
  generalize e.run.run t = out at hfollows hfits
  obtain ⟨err | a, t'⟩ := out
  · exact ⟨acts, hfluent, hfollows, fun room h => by rw [hfits room h], fun room h => by rw [hfull room h]⟩
  · obtain rfl : t' = t.followed acts := hfollows
    obtain ⟨acts', hfluent', hfollows', hfits', hfull'⟩ := hf a (t.followed acts) (replay_fluent hfluent hroom).1
    refine ⟨acts ++ acts', ?_, ?_, fun room h => ?_, fun room h => ?_⟩
    · exact hfluent.append hfluent'
    · rw [hfollows']
      simp [followed]
    · rw [spoken_append, List.length_append] at h
      rw [hfits room (by omega)]
      dsimp only
      rw [hfits' _ (by omega), spoken_append, List.length_append, Nat.sub_sub]
    · rw [spoken_append, List.length_append] at h
      rw [within_append]
      -- the room ends in the second part, or already in the first one
      by_cases hfirst : (spoken acts).length ≤ room
      · rw [hfits room hfirst, if_pos hfirst]
        dsimp only
        rw [hfull' _ (by omega)]
        simp [followed, limited, replay_limited hfluent hroom hfirst]
      · rw [hfull room (by omega), if_neg hfirst]

/-- What comes to its result by acts, unless there is no room for one of them, is bounded by a limit. -/
theorem acting_bounded {α : Type} {d : Dialogue Console α} {acts : Console → List Act}
    {result : Console → Except PromptError α}
    (hrun : ∀ c, d.run.run c =
      (if (acts c).any Act.overruns then .error (.stream .full) else result c, c.replay (acts c)))
    (hresult : ∀ c room, result (c.limited room) = result c)
    (hfluent : ∀ c, c.room = none → Fluent (acts c))
    (hwithin : ∀ c room, c.room = none → acts (c.limited room) = within room (acts c)) :
    BoundedBy (acting d acts) (acting d acts) := by
  intro t h
  have hacting : ∀ t : Traced, (acting d acts).run.run t =
      (if (acts t.console).any Act.overruns then .error (.stream .full) else result t.console,
        t.followed (acts t.console)) := by
    intro t
    show (_, (⟨(d.run.run t.console).2, _⟩ : Traced)) = _
    rw [hrun]
    rfl
  have hany : (acts t.console).any Act.overruns = false := by
    simpa [Fluent] using hfluent t.console h
  simp only [hacting]
  refine ⟨acts t.console, hfluent _ h, rfl, fun room hroom => ?_, fun room hroom => ?_⟩
  · simp only [limited, hwithin _ _ h, hresult, hany, within_of_le hroom, followed]
    rw [replay_limited (hfluent _ h) h hroom]
  · simp only [limited, hwithin _ _ h, any_overruns_within (hfluent _ h), hroom, decide_true, if_true]

theorem BoundedBy.pure {α : Type} (a : α) : BoundedBy (Pure.pure a) (Pure.pure a) := by
  intro t _
  have hfollows : t = t.followed [] := by simp [followed]
  exact ⟨[], by simp [Fluent], hfollows, fun room _ => rfl, fun room h => by simp at h⟩

/-- Every dialogue with limited room is bounded by the same dialogue without a limit. -/
def bounded : Correspondence Traced Traced where
  Rel := BoundedBy
  pure := .pure
  bind := .bind
  say text := acting_bounded (write_eq (fun _ => rfl) (fun _ _ => rfl) _) (fun _ _ => rfl)
    (fun c h => by rw [h]; exact fluent_writing (fun _ => rfl) _)
    (fun c room h => by rw [h]; exact writing_within .told (fun _ => rfl) _ room)
  askYesNo question := acting_bounded (ask_eq _ _) (fun _ _ => rfl)
    (fun c h => by rw [h]; exact fluent_asking _ _ _)
    (fun c room h => by rw [h]; exact asking_within _ _ room _)
  chooseMenu := acting_bounded (ask_eq _ _) (fun _ _ => rfl)
    (fun c h => by rw [h]; exact fluent_asking _ _ _)
    (fun c room h => by rw [h]; exact asking_within _ _ room _)
  note event := @acting_bounded Unit (Prompter.note event) (fun _ => [.noted event]) (fun _ => .ok ())
    (fun _ => rfl) (fun _ _ => rfl) (fun c h => by simp [Fluent, Act.overruns])
    (fun c room h => by simp [within, Act.text])

/-! ## Outputs without room -/

/-- The traced console after a text for which there was no room. -/
def stuckAt (t : Traced) (text : Bytes) : Traced := ⟨t.console, t.acts ++ [.overran text]⟩

theorem acting_stuck {α : Type} {d : Dialogue Console α} {acts : Console → List Act} {t : Traced} {text : Bytes}
    (hrun : d.run.run t.console = (.error (.stream .full), t.console))
    (hacts : acts t.console = [.overran text]) :
    (acting d acts).run.run t = (.error (.stream .full), t.stuckAt text) := by
  show ((d.run.run t.console).1, (⟨(d.run.run t.console).2, t.acts ++ acts t.console⟩ : Traced)) = _
  rw [hrun, hacts, stuckAt]

theorem writing_stuck (act : Bytes → Act) {text : Bytes} (hne : text ≠ []) :
    writing act text (some 0) = .overran text := by
  simp [writing, fits, hne]

theorem asking_stuck {α : Type} {prompt : Bytes} (hne : prompt ≠ []) (parse : String → Option α) {t : Traced}
    (h : t.console.room = some 0) :
    t.console.ask prompt parse = (.error (.stream .full), t.console) ∧
      asking prompt parse t.console.room (lines t.console.unread) = [.overran prompt] := by
  refine ⟨ask_of_full parse (write_of_no_room hne h), ?_⟩
  rw [h]
  cases lines t.console.unread <;> simp [asking, writing_stuck, fits, hne]

theorem bytes_append_ne_nil (s : String) {t : String} (h : Utf8.bytes t ≠ []) : Utf8.bytes (s ++ t) ≠ [] := by
  rw [Utf8.bytes_append]
  exact List.append_ne_nil_of_right_ne_nil _ h

/-- Where there is no room, every step writes first, fails, and leaves the console as it is. -/
theorem perform_stuck (step : Step) {t : Traced} (h : t.console.room = some 0) :
    ∃ text, (perform step).run.run t = (.error (.stream .full), t.stuckAt text) := by
  have hsay : ∀ text, (Prompter.say text : Dialogue Traced Unit).run.run t =
      (.error (.stream .full), t.stuckAt (Utf8.bytes (text ++ "\n"))) := by
    intro text
    have hne : Utf8.bytes (text ++ "\n") ≠ [] := bytes_append_ne_nil text (by decide +kernel)
    exact acting_stuck (write_of_no_room hne h) (by rw [h, writing_stuck _ hne])
  cases step with
  | say text =>
    refine ⟨Utf8.bytes (text ++ "\n"), ?_⟩
    rw [perform, run_bind, hsay]
  | yesNo question =>
    have hne : Utf8.bytes (yesNoPrompt question) ≠ [] := bytes_append_ne_nil question (by decide +kernel)
    obtain ⟨hrun, hacts⟩ := asking_stuck hne yesNo? h
    refine ⟨Utf8.bytes (yesNoPrompt question), ?_⟩
    rw [perform, run_bind, show (Prompter.askYesNo question : Dialogue Traced Bool).run.run t = _ from
      acting_stuck hrun hacts]
  | menu =>
    have hne : Utf8.bytes menuPrompt ≠ [] := by decide +kernel
    obtain ⟨hrun, hacts⟩ := asking_stuck hne menuChoice? h
    refine ⟨Utf8.bytes menuPrompt, ?_⟩
    rw [perform, run_bind, show (Prompter.chooseMenu : Dialogue Traced MenuChoice).run.run t = _ from
      acting_stuck hrun hacts]
  | features =>
    refine ⟨Utf8.bytes (featureHeading 1 .richTerminal ++ "\n"), ?_⟩
    rw [perform, run_bind, askFeatures, Feature.all, askFeaturesFrom, run_bind, hsay]

/-! ## Sequences of steps -/

/-- The traced console that acts lead to. -/
def reached (c : Console) (acts : List Act) : Traced := ⟨c.replay acts, acts⟩

/-- A conversation without a limit and the same with one, both from the same console on: there was room for
everything, or the second one stopped within the limit and has only failed since. -/
inductive Halves (limit : Nat) (c : Console) : Traced → Traced → Prop
  | fitting {acts : List Act} (fluent : Fluent acts) (fits : (spoken acts).length ≤ limit) :
    Halves limit c (reached c acts) ((reached c acts).limited (limit - (spoken acts).length))
  | stopped {acts failures : List Act} (fluent : Fluent acts) (full : limit < (spoken acts).length)
    (failing : ∀ act ∈ failures, ∃ text, act = .overran text) :
    Halves limit c (reached c acts)
      ⟨(c.limited limit).replay (within limit acts), within limit acts ++ failures⟩

/-- What a step gives on both. -/
structure Truncates (limit : Nat) (c : Console) (x y : Except PromptError Reply × Traced) : Prop where
  halves : Halves limit c x.2 y.2
  fits : (spoken x.2.acts).length ≤ limit → y.1 = x.1
  full : limit < (spoken x.2.acts).length → y.1 = .error (.stream .full)

/-- Each step leads on by acts without a failure, and is bounded by a limit. -/
theorem perform_reached (step : Step) {c : Console} (hroom : c.room = none) {acts : List Act}
    (h : Fluent acts) :
    ∃ added, Fluent (acts ++ added) ∧
      ((perform step).run.run (reached c acts)).2 = reached c (acts ++ added) ∧
      Bounded (reached c acts) added ((perform step).run.run (reached c acts)) fun room =>
        (perform step).run.run ((reached c acts).limited room) := by
  obtain ⟨added, hbounded⟩ := bounded.perform step (reached c acts) (replay_fluent h hroom).1
  refine ⟨added, h.append hbounded.fluent, ?_, hbounded⟩
  rw [hbounded.follows, followed, reached, reached, replay_append]

theorem Halves.perform {limit : Nat} {c : Console} (hroom : c.room = none) {t t' : Traced}
    (h : Halves limit c t t') (step : Step) :
    Truncates limit c ((perform step).run.run t) ((perform step).run.run t') := by
  cases h with
  | @fitting acts fluent hfits =>
    obtain ⟨added, fluent', hout, -, -, hfit, hstop⟩ := perform_reached step hroom fluent
    have hlength : (spoken (acts ++ added)).length = (spoken acts).length + (spoken added).length := by
      rw [spoken_append, List.length_append]
    by_cases hadded : (spoken added).length ≤ limit - (spoken acts).length
    · rw [hfit _ hadded]
      refine ⟨?_, fun _ => rfl, fun hfull => ?_⟩
      · rw [hout, Nat.sub_sub, ← hlength]
        exact .fitting fluent' (by omega)
      · rw [hout, reached] at hfull
        dsimp only at hfull
        omega
    · -- in this step is the first text for which there is no room
      rw [hstop _ (by omega)]
      refine ⟨?_, fun hle => ?_, fun _ => rfl⟩
      · have hstopped := @Halves.stopped limit c _ [] fluent' (by omega) (by simp)
        rw [within_append, if_pos hfits, replay_append, replay_limited fluent hroom hfits,
          List.append_nil] at hstopped
        rw [hout]
        exact hstopped
      · rw [hout, reached] at hle
        dsimp only at hle
        omega
  | @stopped acts failures fluent hfull failing =>
    -- the room was used up before this step, which so fails at its first text
    obtain ⟨added, fluent', hout, -⟩ := perform_reached step hroom fluent
    have hlength : (spoken (acts ++ added)).length = (spoken acts).length + (spoken added).length := by
      rw [spoken_append, List.length_append]
    obtain ⟨text, hstuck⟩ := perform_stuck step
      (show (Traced.mk ((c.limited limit).replay (within limit acts)) (within limit acts ++ failures)).console.room =
        some 0 from (replay_within fluent hroom hfull).1)
    rw [hstuck]
    refine ⟨?_, fun hle => ?_, fun _ => rfl⟩
    · have hstopped := @Halves.stopped limit c _ (failures ++ [.overran text]) fluent' (by omega) ?_
      · rw [within_append, if_neg (by omega), ← List.append_assoc] at hstopped
        rw [hout]
        exact hstopped
      · intro act hact
        rcases List.mem_append.1 hact with hact | hact
        · exact failing act hact
        · exact ⟨text, by simpa using hact⟩
    · rw [hout, reached] at hle
      dsimp only at hle
      omega

theorem Halves.performAll {limit : Nat} {c : Console} (hroom : c.room = none) (steps : List Step)
    {t t' : Traced} (h : Halves limit c t t') :
    List.Forall₂ (Truncates limit c) (performAll steps t) (performAll steps t') ∧
      Halves limit c (stateAfter steps t) (stateAfter steps t') := by
  induction steps generalizing t t' with
  | nil => exact ⟨.nil, h⟩
  | cons step rest ih =>
    have hstep := h.perform hroom step
    obtain ⟨hrest, hlast⟩ := ih hstep.halves
    exact ⟨.cons hstep hrest, hlast⟩

/-! ## What is on the output, and what is read -/

/-- With a limit the output keeps the first bytes of the output without one. -/
theorem Halves.written {limit : Nat} {c : Console} (hroom : c.room = none) {t t' : Traced}
    (h : Halves limit c t t') :
    t.console.written = c.written ++ spoken t.acts ∧
      t'.console.written = c.written ++ (spoken t.acts).take limit := by
  cases h with
  | fitting fluent hfits =>
    refine ⟨(replay_fluent fluent hroom).2, ?_⟩
    rw [reached, List.take_of_length_le hfits]
    exact (replay_fluent fluent hroom).2
  | stopped fluent hfull failing =>
    exact ⟨(replay_fluent fluent hroom).2, (replay_within fluent hroom hfull).2⟩

theorem Halves.of_fits {limit : Nat} {c : Console} {t t' : Traced} (h : Halves limit c t t')
    (hfits : (spoken t.acts).length ≤ limit) :
    t'.console = t.console.limited (limit - (spoken t.acts).length) := by
  cases h with
  | fitting => rfl
  | stopped fluent hfull failing =>
    dsimp only [reached] at hfits
    omega

/-- Behind a text for which there was no room stand only others like it. -/
theorem Halves.failing {limit : Nat} {c : Console} {t t' : Traced} (h : Halves limit c t t')
    {before after : List Act} {text : Bytes} (hacts : t'.acts = before ++ .overran text :: after) :
    ∀ act ∈ after, ∃ text, act = .overran text := by
  cases h with
  | @fitting acts fluent hfits =>
    have hmem : Act.overran text ∈ acts := by
      rw [show acts = before ++ .overran text :: after from hacts]
      simp
    have := fluent _ hmem
    cases this
  | @stopped acts failures fluent hfull failing =>
    dsimp only at hacts
    rcases List.append_eq_append_iff.1 hacts with ⟨late, -, hfailures⟩ | ⟨early, hwithin, hlate⟩
    · intro act hact
      exact failing act (by rw [hfailures]; simp [hact])
    · cases early with
      | nil =>
        intro act hact
        exact failing act (by rw [← List.nil_append failures, ← hlate]; simp [hact])
      | cons first early =>
        obtain ⟨rfl, rfl⟩ := List.cons.inj hlate
        obtain rfl := eq_nil_of_within fluent hwithin
        exact failing

end Traced

namespace Console

/-- Texts for which there is no room leave the input and the count of lines that were no answer alone. -/
theorem replay_failing {acts : List Act} (h : ∀ act ∈ acts, ∃ text, act = .overran text) (c : Console) :
    (c.replay acts).unread = c.unread ∧ (c.replay acts).rejected = c.rejected := by
  induction acts generalizing c with
  | nil => exact ⟨rfl, rfl⟩
  | cons act rest ih =>
    obtain ⟨text, rfl⟩ := h act List.mem_cons_self
    obtain ⟨hunread, hrejected⟩ := ih (fun a ha => h a (List.mem_cons_of_mem _ ha)) (c.write text).2
    exact ⟨hunread.trans (unread_write text c), hrejected.trans (rejected_write text c)⟩

/-- A sequence of steps on an output that keeps `limit` bytes, beside the same sequence on an output that
takes any number of bytes. As long as what the latter has taken fits, a step gives the same and leaves the
same console, with less room; the step that goes beyond, and every later one, fails. At any time the output
keeps the first bytes of the unlimited one. Its trace shows that from the first text for which there was no
room on nothing is read and no line is counted as no answer: there are only failures to write, and input
and count are as they were before. -/
theorem limited_session (input : Bytes) (limit : Nat) (steps : List Step) :
    let free : Console := { unread := input }
    List.Forall₂
        (fun x y : Except PromptError Reply × Console =>
          (x.2.written.length ≤ limit → y = (x.1, x.2.limited (limit - x.2.written.length))) ∧
          (limit < x.2.written.length → y.1 = .error (.stream .full)) ∧
          y.2.written = x.2.written.take limit)
        (performAll steps free) (performAll steps (free.limited limit)) ∧
      (stateAfter steps (free.limited limit)).written = (stateAfter steps free).written.take limit ∧
      let traced := stateAfter steps (Traced.mk (free.limited limit) [])
      traced.console = stateAfter steps (free.limited limit) ∧
      traced.console = (free.limited limit).replay traced.acts ∧
      ∀ before text after, traced.acts = before ++ .overran text :: after →
        (∀ act ∈ after, ∃ text, act = .overran text) ∧
        traced.console.unread = ((free.limited limit).replay before).unread ∧
        traced.console.rejected = ((free.limited limit).replay before).rejected := by
  intro free
  have hroom : free.room = none := rfl
  -- the two runs are compared with their traces, which say from where on there is no room
  have hstart : Traced.Halves limit free (Traced.mk free []) (Traced.mk (free.limited limit) []) :=
    @Traced.Halves.fitting limit free [] (by simp [Fluent]) (by simp)
  obtain ⟨hsteps, hlast⟩ := hstart.performAll hroom steps
  have hplain := Traced.stateAfter_plain steps
  have htells := Traced.tells_stateAfter steps (free.limited limit)
  refine ⟨?_, ?_, hplain _, htells, fun before text after hacts => ?_⟩
  · rw [← Traced.performAll_plain steps (Traced.mk free []),
      ← Traced.performAll_plain steps (Traced.mk (free.limited limit) []), List.forall₂_map_left_iff,
      List.forall₂_map_right_iff]
    refine hsteps.imp fun x y hxy => ?_
    obtain ⟨hx, hy⟩ := hxy.halves.written hroom
    rw [show free.written = [] from rfl, List.nil_append] at hx hy
    rw [hx]
    exact ⟨fun h => Prod.ext (hxy.fits h) (hxy.halves.of_fits h), hxy.full, hy⟩
  · obtain ⟨hx, hy⟩ := hlast.written hroom
    rw [hplain] at hx hy
    rw [hx, hy]
    rfl
  · have hfailing := hlast.failing hacts
    refine ⟨hfailing, ?_⟩
    rw [show _ = (free.limited limit).replay _ from htells, hacts, replay_append]
    exact replay_failing (by
      intro act hact
      rcases List.mem_cons.1 hact with rfl | hact
      · exact ⟨text, rfl⟩
      · exact hfailing act hact) _

end Console

end Configurator
