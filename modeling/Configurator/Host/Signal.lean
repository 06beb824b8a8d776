/-
Signals by their numbers: how they are named, what they say, and what they do to a process that has made
no provision for them.
-/

namespace Configurator.Host.Signal

/-- The names of the signals in the order of their numbers, from 1 on. -/
def names : List String :=
  ["HUP", "INT", "QUIT", "ILL", "TRAP", "ABRT", "BUS", "FPE", "KILL", "USR1", "SEGV", "USR2", "PIPE",
    "ALRM", "TERM", "16", "CHLD", "CONT", "STOP", "TSTP", "TTIN", "TTOU", "URG", "XCPU", "XFSZ", "VTALRM",
    "PROF", "WINCH", "IO", "PWR", "SYS", "32", "33", "RTMIN"] ++
    (List.range 15).map (fun n => "RTMIN+" ++ toString (n + 1)) ++
    (List.range 14).map (fun n => "RTMAX-" ++ toString (14 - n)) ++ ["RTMAX"]

/-- The greatest number of a signal. -/
def greatest : Nat := 64

/-- What the signals say, in the order of their numbers, from 1 on. -/
def texts : List String :=
  ["Hangup", "Interrupt", "Quit", "Illegal instruction", "Trace/breakpoint trap", "Aborted", "Bus error",
    "Floating point exception", "Killed", "User defined signal 1", "Segmentation fault",
    "User defined signal 2", "Broken pipe", "Alarm clock", "Terminated", "Stack fault", "Child exited",
    "Continued", "Stopped (signal)", "Stopped", "Stopped (tty input)", "Stopped (tty output)",
    "Urgent I/O condition", "CPU time limit exceeded", "File size limit exceeded", "Virtual timer expired",
    "Profiling timer expired", "Window changed", "I/O possible", "Power failure", "Bad system call"]

/-- What a signal says. -/
def text (number : Nat) : String :=
  (texts[number - 1]?).getD
    (if 34 ≤ number then "Real-time signal " ++ toString (number - 34) else "Unknown signal " ++ toString number)

/-- What a signal does to a process that has made no provision for it. -/
inductive Effect where
  | none
  | stops
  | continues
  | ends
  deriving DecidableEq, Repr

/-- The effect of a signal. -/
def effect (number : Nat) : Effect :=
  if number = 0 || [17, 23, 28].contains number then .none
  else if number = 18 then .continues
  else if [19, 20, 21, 22].contains number then .stops
  else .ends

def interrupt : Nat := 2

def quit : Nat := 3

def arithmetic : Nat := 8

def kill : Nat := 9

def memory : Nat := 11

def brokenPipe : Nat := 13

def childEnded : Nat := 17

def go : Nat := 18

def stop : Nat := 19

end Configurator.Host.Signal
