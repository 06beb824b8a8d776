/-
Dialogues as readers of lines. On a console whose output takes any number of bytes, what a dialogue gives
depends on the lines of the input alone: a question passes over the lines that are no answer to it. A
reader says what is made of the lines: the result, the lines that are left and how many were passed over.
Main statement: readers go together like the dialogues that they describe.
-/
import Configurator.Proofs.Dialogue.Lines

namespace Configurator

/-! ## Readers -/

/-- What reading lines gives. -/
structure Reading (α : Type) where
  result : Except PromptError α
  /-- The lines behind the last one that was read. -/
  rest : List Bytes
  /-- How many lines were no answer. -/
  rejected : Nat

namespace Reading

variable {α β : Type}

/-- What a question makes of a line. -/
inductive Judgement (α : Type) where
  | accepted (answer : α)
  | rejected
  | undecodable

/-- What a question makes of a line, by the answers it takes. -/
def judge (parse : String → Option α) (line : Bytes) : Judgement α :=
  match Utf8.decode? line with
  | none => .undecodable
  | some text =>
    match parse text with
    | some answer => .accepted answer
    | none => .rejected

/-- Reads up to the first line that is an answer or not text. -/
def ask (parse : String → Option α) : List Bytes → Reading α
  | [] => ⟨.error .closed, [], 0⟩
  | line :: rest =>
    match judge parse line with
    | .accepted answer => ⟨.ok answer, rest, 0⟩
    | .undecodable => ⟨.error (.stream .undecodable), rest, 0⟩
    | .rejected => { ask parse rest with rejected := (ask parse rest).rejected + 1 }

/-- Reads nothing. -/
def done (a : α) (lines : List Bytes) : Reading α := ⟨.ok a, lines, 0⟩

/-- Goes on with the lines that are left, unless reading failed. -/
def andThen (r : Reading α) (next : α → List Bytes → Reading β) : Reading β :=
  match r.result with
  | .error e => ⟨.error e, r.rest, r.rejected⟩
  | .ok a => { next a r.rest with rejected := r.rejected + (next a r.rest).rejected }

theorem andThen_of_error {r : Reading α} {next : α → List Bytes → Reading β} {e : PromptError}
    (h : r.result = .error e) : r.andThen next = ⟨.error e, r.rest, r.rejected⟩ := by
  rw [andThen, h]

theorem andThen_of_ok {r : Reading α} {next : α → List Bytes → Reading β} {a : α}
    (h : r.result = .ok a) :
    r.andThen next = { next a r.rest with rejected := r.rejected + (next a r.rest).rejected } := by
  rw [andThen, h]

@[simp] theorem done_andThen (a : α) (next : α → List Bytes → Reading β) (lines : List Bytes) :
    (done a lines).andThen next = next a lines := by
  rw [andThen_of_ok rfl]
  simp [done]

theorem andThen_assoc {γ : Type} (r : Reading α) (next : α → List Bytes → Reading β)
    (last : β → List Bytes → Reading γ) :
    (r.andThen next).andThen last = r.andThen (fun a lines => (next a lines).andThen last) := by
  obtain ⟨e | a, rest, k⟩ := r
  · rfl
  · simp only [andThen]
    rcases next a rest with ⟨e | b, rest', k'⟩
    · rfl
    · simp only [Nat.add_assoc]

end Reading

/-! ## Running what may fail -/

section Running

variable {ε σ α β : Type}

/-- What may fail goes on with the state and the value of its first part, unless this part failed. -/
theorem run_bind (d : ExceptT ε (StateM σ) α) (f : α → ExceptT ε (StateM σ) β) (s : σ) :
    (d >>= f).run.run s =
      match d.run.run s with
      | (.error e, s') => (.error e, s')
      | (.ok a, s') => (f a).run.run s' := by
  show (ExceptT.bindCont (fun a => f a) (d.run.run s).1).run (d.run.run s).2 = _
  rcases d.run.run s with ⟨e | a, s'⟩ <;> rfl

end Running

namespace Console

variable {α β : Type}

/-- From the first console a dialogue came to its result and the second console, as a reading of the
lines of the input says. -/
structure ReadAs (c : Console) (out : Except PromptError α × Console) (r : Reading α) : Prop where
  result : out.1 = r.result
  rest : lines out.2.unread = r.rest
  rejected : out.2.rejected = c.rejected + r.rejected
  room : out.2.room = none

/-- On an output without a limit, the dialogue does to the input what the reader says. -/
def Reads (d : Dialogue Console α) (reader : List Bytes → Reading α) : Prop :=
  ∀ c : Console, c.room = none → ReadAs c (d.run.run c) (reader (lines c.unread))

theorem Reads.done (a : α) : Reads (pure a) (Reading.done a) := fun _ h => ⟨rfl, rfl, rfl, h⟩

theorem Reads.bind {d : Dialogue Console α} {f : α → Dialogue Console β}
    {reader : List Bytes → Reading α} {next : α → List Bytes → Reading β} (hd : Reads d reader)
    (hf : ∀ a, Reads (f a) (next a)) : Reads (d >>= f) (fun ls => (reader ls).andThen next) := by
  intro c h
  obtain ⟨hresult, hrest, hrejected, hroom⟩ := hd c h
  rw [run_bind]
  generalize d.run.run c = out at hresult hrest hrejected hroom
  -- after a failure nothing more is read, else the next part starts where the first one stopped
  obtain ⟨e | a, c'⟩ := out
  · dsimp only at hresult ⊢
    rw [Reading.andThen_of_error hresult.symm]
    exact ⟨rfl, hrest, hrejected, hroom⟩
  · dsimp only at hresult hrest hrejected ⊢
    obtain ⟨hresult', hrest', hrejected', hroom'⟩ := hf a c' hroom
    rw [hrest] at hresult' hrest' hrejected'
    rw [Reading.andThen_of_ok hresult.symm]
    exact ⟨hresult', hrest', by rw [hrejected', hrejected, Nat.add_assoc], hroom'⟩

theorem Reads.skip {d : Dialogue Console Unit} {next : Dialogue Console β}
    {reader : List Bytes → Reading β} (hd : Reads d (Reading.done ())) (hn : Reads next reader) :
    Reads (d >>= fun _ => next) reader := by
  have h := hd.bind fun _ => hn
  intro c hroom
  simpa [Reading.andThen, Reading.done] using h c hroom

/-! ## The parts of a dialogue -/

theorem write_unlimited (bytes : Bytes) {c : Console} (h : c.room = none) :
    c.write bytes = (.ok (), { c with written := c.written ++ bytes }) := by
  simp only [write, h]

theorem reads_say (text : String) : Reads (Prompter.say text) (Reading.done ()) := by
  intro c h
  show ReadAs c (c.write _) _
  rw [write_unlimited _ h]
  exact ⟨rfl, rfl, rfl, h⟩

theorem reads_note (event : Log.Event) : Reads (Prompter.note event) (Reading.done ()) :=
  fun _ h => ⟨rfl, rfl, rfl, h⟩

/-! ### A question, line by line -/

/-- A question that cannot be written reads nothing. -/
theorem ask_of_full {question : Bytes} (parse : String → Option α) {c full : Console} {e : PromptError}
    (h : c.write question = (.error e, full)) : c.ask question parse = (.error e, full) := by
  unfold ask
  split <;> next hw => cases hw.symm.trans h <;> rfl

theorem ask_of_ended {question : Bytes} (parse : String → Option α) {c asked : Console}
    (h : c.write question = (.ok (), asked)) (hnil : c.unread = []) :
    c.ask question parse = (.error .closed, asked) := by
  have hunread : asked.unread = [] := by
    rw [← hnil, ← unread_write question c, h]
  unfold ask
  split <;> next hw => cases hw.symm.trans h <;> simp [hunread, cutLine]

/-- A question for which a line is left goes by what it makes of the line. -/
theorem ask_of_line {question : Bytes} (parse : String → Option α) {c asked : Console}
    (h : c.write question = (.ok (), asked)) {line : Bytes} {rest : List Bytes}
    (hl : lines c.unread = line :: rest) :
    c.ask question parse =
      match Reading.judge parse line with
      | .accepted answer => (.ok answer, { asked with unread := rest.flatten })
      | .undecodable => (.error (.stream .undecodable), { asked with unread := rest.flatten })
      | .rejected =>
        ask question parse
          (reject ((Utf8.decode? line).getD "") { asked with unread := rest.flatten }) := by
  have hunread : asked.unread = c.unread := by rw [← unread_write question c, h]
  have hne : c.unread ≠ [] := by
    rintro hnil
    rw [hnil] at hl
    cases hl
  rw [lines_eq_cutLine hne] at hl
  obtain ⟨hline, hrest⟩ := List.cons.inj hl
  have hcut : line ≠ [] := by rwa [← hline, Ne, cutLine_fst_eq_nil_iff]
  have hleft : (cutLine c.unread).2 = rest.flatten := by rw [← hrest, flatten_lines]
  rw [ask]
  split
  · next hw =>
    have := hw.symm.trans h
    cases this
  · next hw =>
    cases hw.symm.trans h
    simp only [hunread, hline, hleft, hcut, dite_false, Reading.judge]
    cases Utf8.decode? line with
    | none => rfl
    | some text =>
      dsimp only
      cases parse text <;> rfl

/-- Putting a question until it is answered reads the lines up to the answer. -/
theorem ask_readAs (question : Bytes) (parse : String → Option α) (c : Console) (h : c.room = none) :
    ReadAs c (c.ask question parse) (Reading.ask parse (lines c.unread)) := by
  induction hl : lines c.unread generalizing c with
  | nil =>
    rw [ask_of_ended parse (write_unlimited question h) ((lines_eq_nil_iff _).1 hl)]
    exact ⟨rfl, hl, rfl, h⟩
  | cons line rest ih =>
    have hrest := lines_flatten_of_cons hl
    rw [ask_of_line parse (write_unlimited question h) hl, Reading.ask]
    cases Reading.judge parse line with
    | accepted answer => exact ⟨rfl, hrest, rfl, h⟩
    | undecodable => exact ⟨rfl, hrest, rfl, h⟩
    | rejected =>
      -- the line was no answer: the question is put again over the lines that are left
      obtain ⟨hresult, hleft, hrejected, hroom⟩ :=
        ih (reject ((Utf8.decode? line).getD "") { c with
          unread := rest.flatten, written := c.written ++ question }) h hrest
      refine ⟨hresult, hleft, ?_, hroom⟩
      rw [hrejected]
      simp only [reject]
      omega

/-- An answer takes at least its line off the input. -/
theorem length_unread_ask_lt {question : Bytes} {parse : String → Option α} {c : Console} {a : α}
    (h : (c.ask question parse).1 = .ok a) : (c.ask question parse).2.unread.length < c.unread.length := by
  induction hn : c.unread.length using Nat.strongRecOn generalizing c with
  | ind n ih =>
    subst hn
    rcases hw : c.write question with ⟨e | _, asked⟩
    · rw [ask_of_full parse hw] at h
      cases h
    cases hl : lines c.unread with
    | nil =>
      rw [ask_of_ended parse hw ((lines_eq_nil_iff _).1 hl)] at h
      cases h
    | cons line rest =>
      have hne : c.unread ≠ [] := by
        rintro hnil
        rw [hnil] at hl
        cases hl
      have hshorter : rest.flatten.length < c.unread.length := by
        rw [lines_eq_cutLine hne] at hl
        obtain ⟨-, rfl⟩ := List.cons.inj hl
        rw [flatten_lines]
        exact length_cutLine_snd_lt (mt (cutLine_fst_eq_nil_iff _).1 hne)
      rw [ask_of_line parse hw hl] at h ⊢
      cases hjudged : Reading.judge parse line with
      | accepted answer => exact hshorter
      | undecodable =>
        rw [hjudged] at h
        cases h
      | rejected =>
        -- the line is gone, and the question is put again
        rw [hjudged] at h
        exact Nat.lt_trans (ih _ hshorter h rfl) hshorter

theorem reads_askYesNo (question : String) : Reads (Prompter.askYesNo question) (Reading.ask yesNo?) :=
  fun c h => ask_readAs _ _ c h

theorem reads_chooseMenu : Reads Prompter.chooseMenu (Reading.ask menuChoice?) :=
  fun c h => ask_readAs _ _ c h

end Console

end Configurator
