/-
The exit status of a run. A failure is never hidden behind a zero, wherever it happens, and a code of the
compiler that an exit status can carry is passed on. Main statement: for every run whose command line was
understood, and every compiler, which exit status it has.
-/
import Configurator.Proofs.Program.Course

namespace Configurator.Program

variable {config : Config} {options : CommandLine.Options} {s : Surroundings}

/-! ## The compiler's code -/

/-- The exit status by which the end of a compiler is reported. -/
def statusOf (outcome : Outcome) : Nat := if outcome.success then 0 else outcome.failureStatus

theorem exit_verdictOn (outcome : Outcome) : (verdictOn outcome).exit = statusOf outcome := by
  unfold verdictOn statusOf
  split <;> rfl

theorem statusOf_eq_zero_iff (outcome : Outcome) : statusOf outcome = 0 ↔ outcome.code = some 0 := by
  have hpos := outcome.failureStatus_bounds.1
  unfold statusOf
  split
  · next h => simpa [Outcome.success] using h
  · next h =>
    have hne : outcome.code ≠ some 0 := by simpa [Outcome.success] using h
    simp only [hne, iff_false]
    omega

theorem statusOf_of_code {outcome : Outcome} {c : Int} (h : outcome.code = some c) (hpos : 1 ≤ c)
    (hle : c ≤ 255) : (statusOf outcome : Int) = c := by
  have hne : ¬ outcome.success = true := by
    simp only [Outcome.success, h, Option.some.injEq, decide_eq_true_eq]
    omega
  rw [statusOf, if_neg hne]
  simp only [Outcome.failureStatus, h, hpos, hle, and_self, if_true]
  exact Int.toNat_of_nonneg (by omega)

/-- A code that no exit status can carry is reported as 1, and so is the lack of a code. -/
theorem statusOf_of_no_status {outcome : Outcome}
    (h : ∀ c, outcome.code = some c → ¬ (0 ≤ c ∧ c ≤ 255)) : statusOf outcome = 1 := by
  have hne : ¬ outcome.success = true := by
    intro hsuccess
    exact h 0 (by simpa [Outcome.success] using hsuccess) (by omega)
  rw [statusOf, if_neg hne]
  unfold Outcome.failureStatus
  split
  · next c hc =>
    have := h c hc
    rw [if_neg (by omega)]
  · rfl

/-! ## Whole runs -/

/-- The compiler was started and ended with a code, or without one. -/
def Ends (runner : Runner Machine.Trace) (config : Config) (options : CommandLine.Options)
    (s : Surroundings) (code : Option Int) : Prop :=
  ∃ made profile i outcome, Starts config options s made profile i ∧
    (runner.run i made (inherited options s)).1 = .ok outcome ∧ outcome.code = code

/-- A run that starts the compiler ends with the status of the compiler's end, or with 1 if there was
none. -/
theorem exit_of_starts {made : Workspace} {profile : Profile} {i : Invocation}
    (h : Starts config options s made profile i) (runner : Runner Machine.Trace) :
    (executeWith runner config options s).exit =
      match (runner.run i made (inherited options s)).1 with
      | .error _ => 1
      | .ok outcome => statusOf outcome := by
  obtain ⟨c, -, hrun⟩ := run_stages_of_starts h
  show (verdictOf ((stages runner config options).run.run (.initial s)).1).exit = _
  rw [hrun]
  cases (runner.run i made (inherited options s)).1 with
  | error cause => rfl
  | ok outcome => exact exit_verdictOn outcome

/-- A run that does not start the compiler succeeds when it quits or shows the plan, and else ends
with 1. -/
theorem exit_of_not_starts (h : ∀ made profile i, ¬ Starts config options s made profile i)
    (runner : Runner Machine.Trace) :
    (Quits options s ∨ ShowsPlan config options s) ∧ (executeWith runner config options s).exit = 0 ∨
      ¬ (Quits options s ∨ ShowsPlan config options s) ∧
        (executeWith runner config options s).exit = 1 := by
  obtain ⟨result, last, hrun, -, -, hresult⟩ := run_stages_of_not_starts h
  have hexit : (executeWith runner config options s).exit = (verdictOf result).exit := by
    show (verdictOf ((stages runner config options).run.run (.initial s)).1).exit = _
    rw [hrun]
  rw [hexit]
  rcases hresult with ⟨hidle, rfl⟩ | ⟨hnot, failure, rfl⟩
  · exact .inl ⟨hidle, rfl⟩
  · exact .inr ⟨hnot, rfl⟩

/-- How the compiler ends decides of a run that starts it. -/
theorem ends_iff {made : Workspace} {profile : Profile} {i : Invocation}
    (h : Starts config options s made profile i) (runner : Runner Machine.Trace) (code : Option Int) :
    Ends runner config options s code ↔
      ∃ outcome, (runner.run i made (inherited options s)).1 = .ok outcome ∧ outcome.code = code := by
  constructor
  · rintro ⟨made', profile', i', outcome, h', houtcome, hcode⟩
    obtain ⟨rfl, rfl⟩ := h.unique h'
    exact ⟨outcome, houtcome, hcode⟩
  · rintro ⟨outcome, houtcome, hcode⟩
    exact ⟨made, profile, i, outcome, h, houtcome, hcode⟩

/-- The exit status of a run by a configuration. -/
theorem executeWith_exit (runner : Runner Machine.Trace) (config : Config) (options : CommandLine.Options)
    (s : Surroundings) :
    ((executeWith runner config options s).exit = 0 ↔
        Quits options s ∨ ShowsPlan config options s ∨ Ends runner config options s (some 0)) ∧
      (∀ c : Int, 1 ≤ c → c ≤ 255 → Ends runner config options s (some c) →
        ((executeWith runner config options s).exit : Int) = c) ∧
      (¬ (Quits options s ∨ ShowsPlan config options s ∨
          ∃ c : Int, 0 ≤ c ∧ c ≤ 255 ∧ Ends runner config options s (some c)) →
        (executeWith runner config options s).exit = 1) := by
  by_cases hstarts : ∃ made profile i, Starts config options s made profile i
  · obtain ⟨made, profile, i, h⟩ := hstarts
    have hnot := h.not_idle
    rw [not_or] at hnot
    simp only [exit_of_starts h runner, ends_iff h runner, hnot.1, hnot.2, false_or]
    cases (runner.run i made (inherited options s)).1 with
    | error cause => simp
    | ok outcome =>
      simp only [Except.ok.injEq, exists_eq_left']
      refine ⟨statusOf_eq_zero_iff outcome, fun c hpos hle hcode => statusOf_of_code hcode hpos hle,
        fun hno => statusOf_of_no_status fun c hcode hrange => hno ⟨c, hrange.1, hrange.2, hcode⟩⟩
  · push Not at hstarts
    have hends : ∀ code, ¬ Ends runner config options s code :=
      fun _ ⟨made, profile, i, _, h, _⟩ => hstarts made profile i h
    simp only [hends, and_false, exists_false, or_false, false_implies, implies_true, true_and]
    rcases exit_of_not_starts hstarts runner with ⟨hidle, hexit⟩ | ⟨hnot, hexit⟩
    · simp [hexit, hidle]
    · simp [hexit, hnot]

/-- A run whose command line was understood exits with 0 exactly if the user quits, or the plan succeeds
and is only shown, or the compiler is started and ends with the code 0. If the compiler is started and
ends with a code from 1 to 255, this is the exit status. In every other case, whatever failed, it is 1. -/
theorem runWith_exit (runner : Runner Machine.Trace) (s : Surroundings) {options : CommandLine.Options}
    (h : CommandLine.parse s.args = .ok options) :
    ∃ report, runWith runner s = .finished report ∧
      (report.exit = 0 ↔ Quits options s ∨ ShowsPlan options.config options s ∨
        Ends runner options.config options s (some 0)) ∧
      (∀ c : Int, 1 ≤ c → c ≤ 255 → Ends runner options.config options s (some c) →
        (report.exit : Int) = c) ∧
      (¬ (Quits options s ∨ ShowsPlan options.config options s ∨
          ∃ c : Int, 0 ≤ c ∧ c ≤ 255 ∧ Ends runner options.config options s (some c)) →
        report.exit = 1) := by
  refine ⟨execute runner options s, ?_, executeWith_exit runner options.config options s⟩
  rw [runWith, h]

/-- A compiler that does nothing but end with a code. -/
def ending (code : Option Int) : Runner Machine.Trace where
  run _ ws trace := (.ok ⟨code, default⟩, ws, trace)

theorem ends_ending (code : Option Int) :
    Ends (ending code) debugBuild.config debugBuild oneSource code :=
  ⟨_, _, _, ⟨code, default⟩, starts_oneSource, rfl, rfl⟩

/-- The case of a debug build whose compiler ends with the code 3. -/
theorem runWith_exit_three :
    CommandLine.parse oneSource.args = .ok debugBuild ∧
      ∃ report, runWith (ending (some 3)) oneSource = .finished report ∧ (report.exit : Int) = 3 := by
  have hparse : CommandLine.parse oneSource.args = .ok debugBuild := by rfl
  obtain ⟨report, hrun, -, hcode, -⟩ := runWith_exit (ending (some 3)) oneSource hparse
  exact ⟨hparse, report, hrun, hcode 3 (by omega) (by omega) (ends_ending (some 3))⟩

end Configurator.Program
