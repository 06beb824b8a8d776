/-
The stages of a run before the compiler. A stage goes on where the one before it came to, and what stages
note and print plays no part in what later ones do. Main statements: for each stage when it succeeds, what
it gives, and the state behind it.
-/
import Configurator.Program
import Configurator.Proofs.Dialogue.Trace
import Configurator.Proofs.Workspace.Making

namespace Configurator.Program

theorem run_get (s : State) : (get : Stage State).run.run s = (.ok s, s) := rfl

/-! ## Notes and prints -/

/-- The state after events were noted. -/
def State.noted (s : State) (events : List Log.Event) : State :=
  { s with console := { s.console with journal := s.console.journal ++ events } }

@[simp] theorem State.noted_nil (s : State) : s.noted [] = s := by
  rw [State.noted, List.append_nil]

@[simp] theorem State.noted_noted (s : State) (events events' : List Log.Event) :
    (s.noted events).noted events' = s.noted (events ++ events') := by
  simp [State.noted]

/-- Noting events changes nothing but the journal. -/
theorem run_notes (events : List Log.Event) (s : State) :
    (events.forM note).run.run s = (.ok (), s.noted events) := by
  induction events generalizing s with
  | nil =>
    rw [State.noted_nil]
    rfl
  | cons event rest ih =>
    show (note event >>= fun _ => rest.forM note).run.run s = _
    rw [run_bind, show (note event).run.run s = (.ok (), s.noted [event]) from rfl]
    exact (ih (s.noted [event])).trans (by rw [State.noted_noted]; rfl)

/-- The state after a text was printed. -/
def State.printing (s : State) (text : Bytes) : State := { s with printed := s.printed ++ text }

@[simp] theorem State.printing_nil (s : State) : s.printing [] = s := by
  rw [State.printing, List.append_nil]

@[simp] theorem State.printing_printing (s : State) (text text' : Bytes) :
    (s.printing text).printing text' = s.printing (text ++ text') := by
  simp [State.printing]

/-- A text on lines of its own. -/
def textOf (lines : List String) : Bytes := lines.flatMap fun line => Utf8.bytes (line ++ "\n")

theorem textOf_singleton (line : String) : textOf [line] = Utf8.bytes line ++ [Console.newline] := by
  rw [textOf, List.flatMap_singleton, Utf8.bytes_append]
  rfl

theorem run_printLine (line : String) (s : State) :
    (printLine line).run.run s = (.ok (), s.printing (textOf [line])) := by
  rw [textOf, List.flatMap_singleton]
  rfl

theorem run_printLines (lines : List String) (s : State) :
    (lines.forM printLine).run.run s = (.ok (), s.printing (textOf lines)) := by
  induction lines generalizing s with
  | nil => exact congrArg (Prod.mk _) s.printing_nil.symm
  | cons line rest ih =>
    show (printLine line >>= fun _ => rest.forM printLine).run.run s = _
    rw [run_bind, run_printLine]
    exact (ih _).trans (by rw [State.printing_printing]; simp [textOf])

/-- How a plan is shown. -/
def planText (profile : Profile) (i : Invocation) : Format → Bytes
  | .json => textOf [(planDocument profile i).render]
  | .text => textOf (planLines profile i)

theorem run_printPlan (profile : Profile) (i : Invocation) (format : Format) (s : State) :
    (printPlan profile i format).run.run s = (.ok (), s.printing (planText profile i format)) := by
  cases format with
  | json => exact run_printLine _ s
  | text => exact run_printLines _ s

/-! ## The stages -/

/-- The workspace with the working directory that the options name, where they name one. -/
def entered (ws : Workspace) : Option String → Option Workspace
  | none => some ws
  | some text =>
    match ws.follow (Path.ofString text) with
    | .ok ⟨names, .dir _⟩ => some { ws with here := names }
    | _ => none

/-- What the answers in an input choose, and the console after it. -/
def chosen (args : List String) (input : Bytes) : Except PromptError (Option Profile) × Console :=
  (Dialogue.resolveProfile args).run.run { unread := input }

/-- Entering a directory succeeds exactly where there is one, and changes the working directory. -/
theorem run_enterDirectory (directory : Option String) (s : State) :
    match entered s.workspace directory with
    | none => ∃ failure, (enterDirectory directory).run.run s = (.error failure, s)
    | some ws => ∃ events, (enterDirectory directory).run.run s =
        (.ok (), State.noted { s with workspace := ws } events) := by
  cases directory with
  | none => exact ⟨[], by rw [State.noted_nil]; rfl⟩
  | some text =>
    simp only [entered, enterDirectory, run_bind, run_get]
    rcases s.workspace.follow (Path.ofString text) with fault | ⟨names, _ | inside⟩
    · exact ⟨_, rfl⟩
    · exact ⟨_, rfl⟩
    · exact ⟨_, rfl⟩

theorem run_resolveProfile (args : List String) {c : Console} (h : c.room = none) :
    Dialogue.Agree (Console.Ahead c.written) ((Dialogue.resolveProfile args).run.run c)
      (chosen args c.unread) :=
  (Console.ahead c.written).resolveProfile args c { unread := c.unread }
    ⟨rfl, h, rfl, (List.append_nil _).symm⟩

/-- Choosing a profile uses up the answers that it takes. -/
theorem run_chooseProfile (args : List String) {s : State} (h : s.console.room = none) :
    ∃ c, (chooseProfile args).run.run s =
        ((chosen args s.console.unread).1.mapError Failure.unanswered, { s with console := c }) ∧
      Console.Ahead s.console.written c (chosen args s.console.unread).2 := by
  have hnote : (note readingLines).run.run s = (.ok (), s.noted [readingLines]) := rfl
  obtain ⟨hresult, hahead⟩ := run_resolveProfile args (show (s.noted [readingLines]).console.room = none from h)
  simp only [chooseProfile, run_bind, hnote, run_get]
  generalize (Dialogue.resolveProfile args).run.run (s.noted [readingLines]).console = out at hresult hahead
  obtain ⟨result, c⟩ := out
  obtain rfl := hresult
  refine ⟨c, ?_, hahead⟩
  dsimp only [State.noted]
  cases (chosen args s.console.unread).1 <;> rfl

theorem run_makePlan (config : Config) (profile : Profile) (s : State) :
    (makePlan config profile).run.run s =
      ((Plan.make s.workspace config profile).invocation.mapError Failure.unplanned,
        s.noted (Plan.make s.workspace config profile).events) := by
  simp only [makePlan, run_bind, run_get, run_notes]
  cases (Plan.make s.workspace config profile).invocation <;> rfl

/-- The directory of everything that is built. -/
def out : Name := Utf8.bytes Profile.outputDirectory

/-- Making the output directory changes the workspace where it succeeds, and nothing where it fails. -/
theorem run_makeOutputDirectory (s : State) :
    (∃ made, s.workspace.Provides out made ∧
      makeOutputDirectory.run.run s = (.ok (), { s with workspace := made })) ∨
    (∀ made, ¬ s.workspace.Provides out made) ∧
      ∃ fault, makeOutputDirectory.run.run s = (.error (.noOutputDirectory fault), s) := by
  simp only [makeOutputDirectory, run_bind, run_get, ← Workspace.ensureDirectory_eq_ok_iff,
    ← show out = Utf8.bytes Profile.outputDirectory from rfl]
  cases s.workspace.ensureDirectory out with
  | ok made => exact .inl ⟨made, rfl, rfl⟩
  | error fault => exact .inr ⟨fun _ => nofun, fault, rfl⟩

end Configurator.Program
