import TileBench.Text.Numeral

/-!
# Signals

A signal is a number with a name. A process that does not expect one is ended by it.
-/

namespace TileBench.Shell

open Text

/-- The names of the signals, from number one on. The one without a name has its number. -/
def signalNames : List String :=
  ["HUP", "INT", "QUIT", "ILL", "TRAP", "ABRT", "BUS", "FPE", "KILL", "USR1", "SEGV", "USR2",
    "PIPE", "ALRM", "TERM", "16", "CHLD", "CONT", "STOP", "TSTP", "TTIN", "TTOU", "URG", "XCPU",
    "XFSZ", "VTALRM", "PROF", "WINCH", "IO", "PWR", "SYS"]

/-- The number of signals, with zero. -/
def signalCount : Nat := 65

/-- The first signal of those that programs may use as they like. -/
def firstFreeSignal : Nat := 34

/-- The name of a signal, or its number if it has none. The signals that may be used as one likes
are counted from both ends. -/
def signalName (n : Nat) : String :=
  match n with
  | 0 => "EXIT"
  | n + 1 =>
    if n + 1 < firstFreeSignal then (signalNames[n]?).getD (toString (n + 1))
    else if n + 1 = firstFreeSignal then "RTMIN"
    else if n + 2 = signalCount then "RTMAX"
    else if n + 1 < 50 then "RTMIN+" ++ toString (n + 1 - firstFreeSignal)
    else "RTMAX-" ++ toString (signalCount - 2 - n)

/-- The signal of a name in any case, or of a number. -/
def signal? (withExit : Bool) (s : String) : Option Nat :=
  if s.toList.all Char.isDigit then natural? signalCount s.toList
  else
    let upper := String.ofList (s.toList.map Char.toUpper)
    if withExit && upper = "EXIT" then some 0
    else ((List.range signalCount).drop 1).find? fun n => signalName n = upper

/-- What is said about a process that was ended by a signal; nothing if that is usual. -/
def obituary? (n : Nat) : Option String :=
  match n with
  | 2 | 13 => none
  | 1 => some "Hangup"
  | 3 => some "Quit"
  | 4 => some "Illegal instruction"
  | 5 => some "Trace/breakpoint trap"
  | 6 => some "Aborted"
  | 7 => some "Bus error"
  | 8 => some "Floating point exception"
  | 9 => some "Killed"
  | 10 => some "User defined signal 1"
  | 11 => some "Segmentation fault"
  | 12 => some "User defined signal 2"
  | 14 => some "Alarm clock"
  | 15 => some "Terminated"
  | 16 => some "Stack fault"
  | 24 => some "CPU time limit exceeded"
  | 25 => some "File size limit exceeded"
  | 26 => some "Virtual timer expired"
  | 27 => some "Profiling timer expired"
  | 29 => some "I/O possible"
  | 30 => some "Power failure"
  | 31 => some "Bad system call"
  | n => if 34 ≤ n then some ("Real-time signal " ++ toString (n - 34)) else none

/-- The signal that ends every process. -/
def killSignal : Nat := 9

/-- Signals that end no process. -/
def harmlessSignals : List Nat := [0, 17, 18, 23, 28]

end TileBench.Shell
