import CounterCatalog.Shell.Stream

/-!
# Signals

A signal has a number, mostly also a name, and an effect on processes that have not said what it is to do:
most signals end them, and a few do nothing. A shell may ignore a signal, or have an action for it that is
carried out between two commands.
-/

set_option autoImplicit false

namespace CounterCatalog.Shell.Signal

/-- The numbers of signals are below this one. -/
def bound : Nat := 65

/-- The signal that ends every process. -/
def kill : Nat := 9

/-- The words for a process that a signal has ended. -/
def words (signal : Nat) : String :=
  match signal with
  | 1 => "Hangup"
  | 2 => "Interrupt"
  | 3 => "Quit"
  | 4 => "Illegal instruction"
  | 5 => "Trace/breakpoint trap"
  | 6 => "Aborted"
  | 7 => "Bus error"
  | 8 => "Floating point exception"
  | 9 => "Killed"
  | 10 => "User defined signal 1"
  | 11 => "Segmentation fault"
  | 12 => "User defined signal 2"
  | 13 => "Broken pipe"
  | 14 => "Alarm clock"
  | 15 => "Terminated"
  | 16 => "Stack fault"
  | 24 => "CPU time limit exceeded"
  | 25 => "File size limit exceeded"
  | 26 => "Virtual timer expired"
  | 27 => "Profiling timer expired"
  | 29 => "I/O possible"
  | 30 => "Power failure"
  | 31 => "Bad system call"
  | signal =>
    if 34 ≤ signal ∧ signal < bound then "Real-time signal " ++ toString (signal - 34)
    else "Unknown signal " ++ toString signal

/-- The signals that do nothing where nothing else has been said. -/
def harmless : List Nat := [17, 18, 19, 20, 21, 22, 23, 28]

/-- The name of a signal as commands write it; zero stands for the end of the shell. -/
def name? (signal : Nat) : Option String :=
  if signal = 0 then some "EXIT"
  else (Status.signalName? signal).map fun name => String.ofList (name.toList.drop 3)

/-- The number of the signal that a text names or gives by number; zero stands for the end of the shell. -/
def number? (text : Chars) : Option Nat :=
  if Chars.isNumber text then
    let number := Chars.toNat text
    if number < bound then some number else none
  else
    let upper := String.ofList (text.map Char.toUpper)
    (List.range bound).find? fun signal => name? signal = some upper

/-- A process that a signal has ended has one of these statuses for the shell that waits for it. -/
def statusOf : Status → Nat
  | .exited code => code % 256
  | .signalled signal => 128 + signal

end CounterCatalog.Shell.Signal
