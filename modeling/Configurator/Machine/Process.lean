/-
Command lines that run as processes of an operating system. The program of a command line gets its arguments
as they are, no shell stands in between; the system starts it, waits for its end and keeps a list of everything
it was asked to start. Main statement: running a command line asks for exactly one start, that of its program
with its arguments.
-/
import Configurator.Builder

namespace Configurator.Machine

/-! ## What is started, and what it leaves behind -/

/-- A program that is to be started, with its arguments. -/
structure Command where
  program : String
  args : List String
  deriving DecidableEq, Repr

/-- What the programs started so far have left behind. -/
structure Trace where
  /-- The input that programs have not read yet. -/
  input : Bytes := []
  output : Bytes := []
  /-- What was noted and what programs wrote to the error stream, in the order of time. -/
  record : List Log.Entry := []
  /-- What was written after the end of the program that was started, by others that it left behind. -/
  lateOutput : Bytes := []
  lateErrors : Bytes := []
  /-- What the system was asked to start. -/
  started : List Command := []
  deriving DecidableEq, Repr

/-- The trace after an event was noted. -/
def Trace.noting (trace : Trace) (event : Log.Event) : Trace :=
  { trace with record := trace.record ++ [.event event] }

@[simp] theorem Trace.started_noting (trace : Trace) (event : Log.Event) :
    (trace.noting event).started = trace.started := rfl

/-- An operating system. Asked to start a program, it gives the exit code with which the program ended, if it
ended with one, or says why there is no such program to start. -/
structure System where
  start : Command → Workspace → Trace → Except Fault (Option Int) × Workspace × Trace
  /-- Whatever comes of it, what the system was asked to start stands last on its list. -/
  started_start : ∀ c ws trace, (start c ws trace).2.2.started = trace.started ++ [c]

/-! ## What is noted -/

/-- An exit code in the log. -/
def codeText : Option Int → String
  | some code => "Some(" ++ toString code ++ ")"
  | none => "None"

/-- The event of a program that is to be started. -/
def starting (i : Invocation) : Log.Event where
  level := .info
  area := .running
  message := "running compiler"
  fields := [("program", i.program), ("args", toString i.args.length)]

/-- The event of a program that has ended. -/
def ended (o : Outcome) : Log.Event where
  level := .debug
  area := .running
  message := "compiler exited"
  fields := [("code", codeText o.code), ("elapsed_ms", toString o.elapsed.millis)]

/-- The event of a build that has run. -/
def finished (o : Outcome) : Log.Event where
  level := .info
  area := .planning
  message := "build finished"
  fields := [("code", codeText o.code)]

/-! ## Running -/

namespace System

/-- Starts the program of a command line with its arguments, and waits for its end. -/
def run (system : System) (i : Invocation) (ws : Workspace) (trace : Trace) :
    Except BuildError Outcome × Workspace × Trace :=
  match system.start ⟨i.program, i.args⟩ ws (trace.noting (starting i)) with
  | (.error fault, after, left) => (.error (.start i.program fault.text), after, left)
  | (.ok code, after, left) =>
    let outcome : Outcome := ⟨code, default⟩
    (.ok outcome, after, (left.noting (ended outcome)).noting (finished outcome))

/-- The system as a runner of command lines. -/
def runner (system : System) : Runner Trace := ⟨system.run⟩

variable (system : System) (i : Invocation) (ws : Workspace) (trace : Trace)

/-- Running a command line makes of the tree what the start of its program makes of it. -/
theorem workspace_run : (system.run i ws trace).2.1 =
    (system.start ⟨i.program, i.args⟩ ws (trace.noting (starting i))).2.1 := by
  unfold run
  split <;> next h => rw [h]

/-- Running a command line asks for one start, that of its program with its arguments. -/
theorem started_run :
    (system.run i ws trace).2.2.started = trace.started ++ [⟨i.program, i.args⟩] := by
  have hstart := system.started_start ⟨i.program, i.args⟩ ws (trace.noting (starting i))
  unfold run
  split <;> next h => simpa [h] using hstart

variable {system} in
/-- A system that does the same on the start of the program gives the same run. -/
theorem run_congr {other : System}
    (h : other.start ⟨i.program, i.args⟩ ws (trace.noting (starting i)) =
      system.start ⟨i.program, i.args⟩ ws (trace.noting (starting i))) :
    other.run i ws trace = system.run i ws trace := by
  rw [run, run, h]

end System

end Configurator.Machine
