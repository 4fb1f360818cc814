import Literate.Text.Digits

/-!
# Signals

Signals end processes. They have numbers, names that `kill` takes, and descriptions that a shell shows when one of its
commands was ended by a signal.
-/

namespace Literate.Shell.Signal

open Text

/-- The names of the first signals, in order; the first one is number one. -/
def names : List Text :=
  ["HUP", "INT", "QUIT", "ILL", "TRAP", "ABRT", "BUS", "FPE", "KILL", "USR1", "SEGV", "USR2", "PIPE", "ALRM", "TERM", "16",
    "CHLD", "CONT", "STOP", "TSTP", "TTIN", "TTOU", "URG", "XCPU", "XFSZ", "VTALRM", "PROF", "WINCH", "IO", "PWR", "SYS"]

/-- The descriptions of the first signals, in order. -/
def descriptions : List Text :=
  ["Hangup", "Interrupt", "Quit", "Illegal instruction", "Trace/breakpoint trap", "Aborted", "Bus error",
    "Floating point exception", "Killed", "User defined signal 1", "Segmentation fault", "User defined signal 2",
    "Broken pipe", "Alarm clock", "Terminated", "Stack fault", "Child exited", "Continued", "Stopped (signal)", "Stopped",
    "Stopped (tty input)", "Stopped (tty output)", "Urgent I/O condition", "CPU time limit exceeded",
    "File size limit exceeded", "Virtual timer expired", "Profiling timer expired", "Window changed", "I/O possible",
    "Power failure", "Bad system call"]

/-- The number after the last signal. -/
def count : Nat := 65

/-- The name of a signal. -/
def name (n : Nat) : Text :=
  if n = 0 then "0"
  else if n ≤ 31 then names.getD (n - 1) []
  else if n < 34 then ofNat n
  else if n = 34 then "RTMIN"
  else if n < 50 then "RTMIN+" ++ ofNat (n - 34)
  else if n < 64 then "RTMAX-" ++ ofNat (64 - n)
  else "RTMAX"

/-- A text in upper case. -/
def upper (t : Text) : Text := t.map fun b => if 97 ≤ b ∧ b ≤ 122 then b - 32 else b

/-- The signal that a text names. -/
def ofText? (t : Text) : Option Nat :=
  match digits? 10 t with
  | some n => if n < count then some n else none
  | none => (List.range count).find? fun n => name n = upper t

/-- What a shell shows for a command that a signal ended; it shows nothing for an interrupt and for a broken pipe. -/
def notice (n : Nat) : Text :=
  if n = 2 ∨ n = 13 then []
  else if n ≤ 31 then descriptions.getD (n - 1) [] ++ "\n"
  else if 34 ≤ n then "Real-time signal " ++ ofNat (n - 34) ++ "\n"
  else "Unknown signal " ++ ofNat n ++ "\n"

/-- Whether a signal does nothing to a process that is not prepared for it. -/
def isHarmless (n : Nat) : Bool := n = 0 || n = 17 || n = 18 || n = 23 || n = 28

end Literate.Shell.Signal
