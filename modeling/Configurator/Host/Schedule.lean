/-
Who works when. Every process has a time at which it can go on, as if each had a processor of its own; the
one whose time comes first goes on until it ends, waits or starts another. A process that waits goes on
soon after it has become ready, or at its deadline. The run is over once the process that everything is
about has ended and nobody can write outside any more.
-/
import Configurator.Host.Work

namespace Configurator.Host

/-- A process that can go on. -/
structure Thread where
  process : Nat
  /-- The time from which on it can go on. -/
  time : Nat
  /-- What it waits for. -/
  ready : Kernel → Bool
  /-- When it goes on without being ready. -/
  deadline : Option Nat
  /-- Whether it was found ready. -/
  noticed : Bool
  resume : Kernel → Step

namespace Schedule

/-- How long it takes to start a process. -/
def forkTime : Nat := 60

/-- How long it takes until a process that was started begins. -/
def startTime : Nat := 150

/-- How long it takes to become another program. -/
def programTime : Nat := 600

/-- How long it takes until a process that has become ready goes on. -/
def wakeTime : Nat := 20

/-- How long it takes to end. -/
def endTime : Nat := 30

/-- A process that does not wait. -/
def going (process time : Nat) (resume : Kernel → Step) : Thread :=
  ⟨process, time, fun _ => true, none, true, resume⟩

variable (load : Executable.Launch → List (String × String) → Kernel → Step)

/-- The processes that a step of one process leaves. -/
def settle (process : Nat) : Step → List Thread × Kernel
  | .ended k ending => ([], (k.spend endTime).conclude process ending)
  | .paused k ready deadline resume => ([⟨process, k.now, ready, deadline, ready k, resume⟩], k)
  | .forked k child resume =>
    let (k, number) := (k.spend forkTime).copyProcess
    ([going process k.now (resume number), going number (k.now + startTime) child], k)
  | .replaced k launch environment =>
    let k := k.shed.spend programTime
    ([going process k.now (load launch environment)], k)

/-- The signal that ends a process now. -/
def doom? (k : Kernel) (process : Nat) : Option Nat :=
  match k.processes[process]? with
  | some p => if p.stopped then p.doom.filter (· = Signal.kill) else p.doom
  | none => none

/-- Ends the processes that signals end. -/
def bury (threads : List Thread) (k : Kernel) : List Thread × Kernel :=
  if k.processes.any (fun _ p => p.doom.isSome) then
    threads.foldl (fun (threads, k) thread =>
      match doom? k thread.process with
      | some number => (threads, k.conclude thread.process (.killed number))
      | none => (threads ++ [thread], k)) ([], k)
  else (threads, k)

/-- Notices that a process has become ready. -/
def notice (k : Kernel) (thread : Thread) : Thread :=
  if !thread.noticed && thread.ready { k with current := thread.process } then
    { thread with noticed := true, time := max thread.time (k.now + wakeTime) }
  else thread

/-- When a process goes on. -/
def due? (k : Kernel) (thread : Thread) : Option Nat :=
  if (k.processes[thread.process]?).any (·.stopped) then none
  else if thread.noticed then some thread.time
  else thread.deadline

/-- The process that goes on first, when it does so, and the others. -/
def choose (k : Kernel) : List Thread → Option (Thread × Nat × List Thread)
  | [] => none
  | thread :: rest =>
    match due? k thread, choose k rest with
    | none, none => none
    | some time, none => some (thread, time, rest)
    | none, some (other, time, others) => some (other, time, thread :: others)
    | some mine, some (other, time, others) =>
      if mine ≤ time then some (thread, mine, rest) else some (other, time, thread :: others)

/-- Whether the process that everything is about has ended and nobody can write outside any more. -/
def isOver (k : Kernel) : Bool :=
  k.verdict.isSome && !k.isWritten Kernel.outputPipe && !k.isWritten Kernel.errorsPipe

/-- Lets processes work, as long as `fuel` lasts. -/
def run : (fuel : Nat) → List Thread → Kernel → Kernel
  | 0, _, k => k
  | fuel + 1, threads, k =>
    let (threads, k) := bury threads k
    if isOver k then k
    else
      match choose k (threads.map (notice k)) with
      | none => k
      | some (thread, time, others) =>
        let k := { k with current := thread.process, now := time }
        if thread.noticed && !thread.ready k then run fuel (others ++ [{ thread with noticed := false }]) k
        else
          let (mine, k) := settle load thread.process (thread.resume k)
          run fuel (others ++ mine) k

/-- How many steps are taken at most. -/
def stepLimit : Nat := 50000000

end Schedule

end Configurator.Host
