/-!
# How children end

A child ends with a code, zero for success, or by a signal. `Status.describe` words this the way a log
line shows it.
-/

set_option autoImplicit false

namespace CounterCatalog

/-- How a child ended. -/
inductive Status where
  /-- It ended by itself with a code. -/
  | exited (code : Nat)
  /-- It was ended by a signal. -/
  | signalled (signal : Nat)
deriving DecidableEq

namespace Status

/-- A child was successful when it ended by itself with code zero. -/
def isSuccess (status : Status) : Bool :=
  status = .exited 0

/-- The names of the signals that have one, by number. -/
def signalNames : List (Nat × String) :=
  [(1, "SIGHUP"), (2, "SIGINT"), (3, "SIGQUIT"), (4, "SIGILL"), (5, "SIGTRAP"), (6, "SIGABRT"),
   (7, "SIGBUS"), (8, "SIGFPE"), (9, "SIGKILL"), (10, "SIGUSR1"), (11, "SIGSEGV"), (12, "SIGUSR2"),
   (13, "SIGPIPE"), (14, "SIGALRM"), (15, "SIGTERM"), (16, "SIGSTKFLT"), (17, "SIGCHLD"),
   (18, "SIGCONT"), (19, "SIGSTOP"), (20, "SIGTSTP"), (21, "SIGTTIN"), (22, "SIGTTOU"),
   (23, "SIGURG"), (24, "SIGXCPU"), (25, "SIGXFSZ"), (26, "SIGVTALRM"), (27, "SIGPROF"),
   (28, "SIGWINCH"), (29, "SIGIO"), (30, "SIGPWR"), (31, "SIGSYS")]

/-- The name of a signal, if it has one. -/
def signalName? (signal : Nat) : Option String :=
  (signalNames.find? fun item => item.1 = signal).map Prod.snd

/-- The words for how a child ended. -/
def describe : Status → String
  | exited code => "exit status: " ++ String.ofList (Nat.toDigits 10 code)
  | signalled signal =>
    "signal: " ++ String.ofList (Nat.toDigits 10 signal) ++
      match signalName? signal with
      | some name => " (" ++ name ++ ")"
      | none => ""

end Status

end CounterCatalog
