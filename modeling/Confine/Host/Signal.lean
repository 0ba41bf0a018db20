/-!
# Signals

Signals are numbered as on Linux. Each has a name, written without the `SIG`
prefix, and a default action: most end the process, a few are ignored, and four
stop it. A process killed by signal `s` reports the exit code `128 + s`.
-/

namespace Confine.Host

/-- What a signal does to a process that neither ignores nor catches it. -/
inductive DefaultAction where
  | terminate
  | ignore
  | stop
  deriving DecidableEq, Repr

/-- Signal names by number, from 1. -/
def signalNames : List String :=
  ["HUP", "INT", "QUIT", "ILL", "TRAP", "ABRT", "BUS", "FPE", "KILL", "USR1", "SEGV", "USR2",
   "PIPE", "ALRM", "TERM", "STKFLT", "CHLD", "CONT", "STOP", "TSTP", "TTIN", "TTOU", "URG",
   "XCPU", "XFSZ", "VTALRM", "PROF", "WINCH", "IO", "PWR", "SYS"]

namespace Signal

def hup : Nat := 1
def int : Nat := 2
def quit : Nat := 3
def fpe : Nat := 8
def kill : Nat := 9
def pipe : Nat := 13
def term : Nat := 15
def chld : Nat := 17
def stop : Nat := 19

/-- The name of a signal number, if it has one. -/
def name? (n : Nat) : Option String :=
  if n = 0 then none else signalNames[n - 1]?

/-- The name a shell lists a signal number by: its name, a real-time signal counted
from the first of them, 34, or from the last, 64, or else the number itself. -/
def listedName (n : Nat) : String :=
  match name? n with
  | some s => s
  | none =>
    let digits (k : Nat) := String.ofList (Nat.toDigits 10 k)
    if n = 34 then "RTMIN"
    else if n = 64 then "RTMAX"
    else if 34 < n && n < 50 then "RTMIN+" ++ digits (n - 34)
    else if 50 ≤ n && n < 64 then "RTMAX-" ++ digits (64 - n)
    else digits n

/-- Descriptions of the signals by number, from 1, as the C library words them. -/
def signalDescriptions : List String :=
  ["Hangup", "Interrupt", "Quit", "Illegal instruction", "Trace/breakpoint trap", "Aborted",
   "Bus error", "Floating point exception", "Killed", "User defined signal 1",
   "Segmentation fault", "User defined signal 2", "Broken pipe", "Alarm clock", "Terminated",
   "Stack fault", "Child exited", "Continued", "Stopped (signal)", "Stopped",
   "Stopped (tty input)", "Stopped (tty output)", "Urgent I/O condition",
   "CPU time limit exceeded", "File size limit exceeded", "Virtual timer expired",
   "Profiling timer expired", "Window changed", "I/O possible", "Power failure",
   "Bad system call"]

/-- The description of a signal: its own, a real-time signal's count from the first of
them, 34, or an unknown signal's number. -/
def describe (n : Nat) : String :=
  let digits (k : Nat) := String.ofList (Nat.toDigits 10 k)
  match (if n = 0 then none else signalDescriptions[n - 1]?) with
  | some d => d
  | none =>
    if 34 ≤ n && n ≤ 64 then "Real-time signal " ++ digits (n - 34)
    else "Unknown signal " ++ digits n

/-- The number of a signal name, with or without the `SIG` prefix, in any case. -/
def ofName? (s : String) : Option Nat :=
  let up := s.toUpper
  let bare := if up.startsWith "SIG" then String.ofList (up.toList.drop 3) else up
  let canonical := if bare = "IOT" then "ABRT" else if bare = "POLL" then "IO" else bare
  match signalNames.findIdx? (· == canonical) with
  | some i => some (i + 1)
  | none => (List.range 33).map (· + 32) |>.find? fun k => listedName k == canonical && k ≥ 34

/-- The default action of a signal. -/
def defaultAction (n : Nat) : DefaultAction :=
  if n = chld || n = 18 || n = 23 || n = 28 then .ignore
  else if n = stop || n = 20 || n = 21 || n = 22 then .stop
  else .terminate

/-- Whether a process can catch or ignore the signal. -/
def catchable (n : Nat) : Bool := n != kill && n != stop

end Signal

/-- How a process ended: with an exit code, or killed by a signal. -/
inductive Status where
  | exited (code : Nat)
  | signaled (sig : Nat)
  deriving DecidableEq, Repr, Inhabited

/-- The exit code a parent sees: the code itself, or `128 + signal`. -/
def Status.code : Status → Nat
  | .exited c => c
  | .signaled s => 128 + s

/-- How a job list reports an ended job: `Done`, `Done(code)` for a failure, or the
description of the signal that killed it. -/
def Status.report : Status → String
  | .exited 0 => "Done"
  | .exited c => "Done(" ++ String.ofList (Nat.toDigits 10 c) ++ ")"
  | .signaled s => Signal.describe s

end Confine.Host
