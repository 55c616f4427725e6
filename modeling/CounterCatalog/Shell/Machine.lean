import CounterCatalog.Environment
import CounterCatalog.Process.Launch
import CounterCatalog.Shell.Syntax
import CounterCatalog.Tree.File

/-!
# The state of a shell

A shell is a process with a current directory, streams and an environment, and has variables, functions and
traps of its own (`Frame`). All processes share one world: the files, the files that are open, the channels
between processes, and a clock. A machine is a running shell in its world. A child starts with a copy of its
parent's frame, and of what it does only the world stays.

A script may end early, by leaving, by a fault or by a signal; loops and functions may end early too.
-/

set_option autoImplicit false

namespace CounterCatalog.Shell

/-- What an open file leads to. -/
inductive Source where
  /-- A regular file. -/
  | file (handle : Handle)
  /-- A directory, which can be neither read nor written. -/
  | directory (handle : Handle)
  /-- A device. -/
  | device (device : Device)
  /-- A channel, by number. -/
  | channel (number : Nat)
  /-- Bytes that cannot be changed. -/
  | bytes (content : List UInt8)
deriving DecidableEq

/-- An open file; streams that were made from one another share it. -/
structure Opening where
  /-- What it leads to. -/
  source : Source
  /-- Where the next byte is read or written. -/
  offset : Nat
  /-- All writing goes to the end. -/
  appends : Bool
  /-- It can be read. -/
  reads : Bool
  /-- It can be written. -/
  writes : Bool

/-- A channel between processes, or from a process to whoever started it. -/
structure Channel where
  /-- What has been written since it was last read, last piece first. -/
  pieces : List (List UInt8)
  /-- The number of bytes that have ever been written. -/
  size : Nat
  /-- What is to be read before those pieces. -/
  unread : List UInt8
  /-- The number of bytes after which nobody reads any more, if there is one. -/
  limit? : Option Nat
  /-- More would have been written if somebody had gone on reading. -/
  stopped : Bool

/-- Why a statement did not run to its end. -/
inductive Halt where
  /-- The shell ends. -/
  | leave
  /-- A command could not be carried out; the shell ends unless it goes on after such commands. -/
  | failed
  /-- The process is ended by a signal. -/
  | killed (signal : Nat)
  /-- Enclosing loops end, as many as given. -/
  | stop (loops : Nat)
  /-- An enclosing loop, counted from the innermost, goes on with its next round. -/
  | next (loops : Nat)
  /-- The function or file that is running ends. -/
  | finish
  /-- Too many steps have been taken. -/
  | exhausted
deriving DecidableEq

/-- A variable of a shell. -/
structure Variable where
  /-- Its value, if it has one. -/
  value? : Option Chars
  /-- Children get it too. -/
  exported : Bool
  /-- Its value cannot be changed. -/
  constant : Bool

/-- A signal that arrives at a given time. -/
structure Alarm where
  /-- The time, in thousandths of a second. -/
  time : Nat
  /-- The signal. -/
  signal : Nat
  /-- It arrives at the children of the process too. -/
  everywhere : Bool

/-- What belongs to one process, and to the shell that runs in it. -/
structure Frame where
  /-- The number of the process. -/
  process : Nat
  /-- The number of the process that started it. -/
  parent : Nat
  /-- The number of the process in which the shell was started that this is a part of. -/
  shellProcess : Nat
  /-- The current directory. -/
  directory : Handle
  /-- The current directory as the shell shows it: with the links that were gone through. -/
  shownDirectory : Chars
  /-- The current directory without links, as it was when the shell last found it out. -/
  plainDirectory? : Option Chars
  /-- The streams, each with the number of its open file. -/
  streams : List (Nat × Nat)
  /-- The permissions that new files do not get. -/
  mask : Nat
  /-- The signals that have no effect. -/
  ignored : List Nat
  /-- The signals that arrive at given times. -/
  alarms : List Alarm
  /-- What the shell calls itself. -/
  title : Chars
  /-- The arguments. -/
  arguments : List Chars
  /-- The variables. -/
  values : List (Chars × Variable)
  /-- For each function that is running, what variables were before it made them its own. -/
  scopes : List (List (Chars × Option Variable))
  /-- The functions with their lines and bodies. -/
  functions : List (Chars × Nat × Statement)
  /-- The words that stand for other texts where a command is expected. -/
  aliases : List (Chars × Chars)
  /-- What is done when a signal arrives, or, for the number zero, when the shell ends. -/
  traps : List (Nat × Chars)
  /-- The letters of the options that are on. -/
  options : List Char
  /-- The status of the last command. -/
  status : Nat
  /-- The status of the last statement inside the words of the command that is running. -/
  substituted : Nat
  /-- The number of loops that are running. -/
  loops : Nat
  /-- The number of functions that are running. -/
  calls : Nat
  /-- The status that the shell had before the action of a trap that is running. -/
  trapStatus? : Option Nat
  /-- The line of the command that is running. -/
  line : Nat
  /-- The name under which complaints are made. -/
  speaker? : Option Chars
  /-- The process that was started last without being waited for. -/
  lastJob? : Option Nat
  /-- The programs that the shell has looked for and found. -/
  known : List Chars
  /-- The argument from which options are to be read next, counted from one. -/
  optionIndex : Nat
  /-- How many characters have been taken of the argument before that, if any are left of it. -/
  optionOffset? : Option Nat

/-- A statement that runs in a process of its own and is not waited for. -/
structure Job where
  /-- The number of its process. -/
  process : Nat
  /-- The process that it starts as. -/
  frame : Frame
  /-- The statement. -/
  body : Statement
  /-- When it was started. -/
  started : Nat
  /-- How it ended, once that is known. -/
  status? : Option Status
  /-- Its place among the jobs of its shell. -/
  place : Nat
  /-- The shell has waited for it. -/
  waited : Bool

/-- What all processes share. -/
structure World where
  /-- The files. -/
  tree : Tree
  /-- The open files. -/
  openings : Array Opening
  /-- The channels. -/
  channels : Array Channel
  /-- The time, in thousandths of a second. -/
  clock : Nat
  /-- The number of the next process. -/
  nextProcess : Nat
  /-- Signals that have been sent, each with the process that it was sent to. -/
  posted : List (Nat × Nat)
  /-- The jobs of shells that have ended. -/
  orphans : List Job
  /-- The texts inside the scripts that have been read, by number. -/
  documents : Array Word
  /-- The number of bytes that a source without an end gives, and that are written to a channel before those
  who read it are asked. -/
  supply : Nat
  /-- Somebody has wanted more than a source gave that had not come to its end. -/
  starved : Bool

/-- A running shell in its world. -/
structure Machine extends World, Frame where
  /-- The jobs of the shell, in order. -/
  jobs : List Job

/-- A step of a shell. -/
abbrev Step (α : Type) := ExceptT Halt (StateM Machine) α

namespace Machine

/-- What a variable is, if it is one. -/
def binding? (machine : Machine) (name : Chars) : Option Variable :=
  (machine.values.find? fun item => item.1 = name).map Prod.snd

/-- The value of a variable. -/
def lookup? (machine : Machine) (name : Chars) : Option Chars :=
  (machine.binding? name).bind Variable.value?

/-- The shell with a variable changed. -/
def setVariable (machine : Machine) (name : Chars) (changed : Variable) : Machine :=
  if (machine.values.any fun item => item.1 = name) then
    { machine with
      values := machine.values.map fun item => if item.1 = name then (name, changed) else item }
  else { machine with values := machine.values ++ [(name, changed)] }

/-- The shell that has forgotten which programs it has found, if a variable is changed that decides where they
are looked for. -/
def forgetPrograms (machine : Machine) (name : Chars) : Machine :=
  if name = "PATH".toList then { machine with known := [] } else machine

/-- The shell without a variable. -/
def dropVariable (machine : Machine) (name : Chars) : Machine :=
  { machine.forgetPrograms name with values := machine.values.filter fun item => item.1 ≠ name }

/-- The variable that an assignment makes of a variable that may exist already. -/
def assigned (machine : Machine) (name value : Chars) : Variable :=
  match machine.binding? name with
  | some old => { old with value? := some value }
  | none => ⟨some value, machine.options.contains 'a', false⟩

/-- The shell with a value for a variable. -/
def assign (machine : Machine) (name value : Chars) : Machine :=
  (machine.forgetPrograms name).setVariable name (machine.assigned name value)

/-- An option is on. -/
def has (machine : Machine) (letter : Char) : Bool :=
  machine.options.contains letter

/-- The place of a name in a table of some size: it goes by a sum over the name. -/
def bucket (size : Nat) (name : Chars) : Nat :=
  let first := ((name.head?).map fun c => c.toNat * 16).getD 0
  (name.foldl (fun sum c => sum + c.toNat) first) % size

/-- The shell that knows a program. -/
def learn (machine : Machine) (name : Chars) : Machine :=
  if machine.known.contains name then machine
  else { machine with known := machine.known ++ [name] }

/-- The size of the table of variables. -/
def variableTable : Nat := 39

/-- The variables that children get, with their values. -/
def exports (machine : Machine) : List (Chars × Chars) :=
  machine.values.filterMap fun item =>
    if item.2.exported then item.2.value?.map fun value => (item.1, value) else none

/-- The shell with its variables in the order of its table. -/
def tabled (machine : Machine) : Machine :=
  { machine with
    values := machine.values.mergeSort fun a b =>
      decide (bucket variableTable a.1 ≤ bucket variableTable b.1) }

/-- The action that a signal is to set off. -/
def trap? (machine : Machine) (signal : Nat) : Option Chars :=
  (machine.traps.find? fun item => item.1 = signal).map Prod.snd

/-- The open file of a stream, with its number. -/
def opening? (machine : Machine) (stream : Nat) : Option (Nat × Opening) :=
  match (machine.streams.find? fun item => item.1 = stream).map Prod.snd with
  | some number => (machine.openings[number]?).map fun opening => (number, opening)
  | none => none

/-- The shell with a stream that leads to an open file, by number. -/
def lead (machine : Machine) (stream number : Nat) : Machine :=
  { machine with
    streams := (stream, number) :: machine.streams.filter fun item => item.1 ≠ stream }

/-- The shell without a stream. -/
def close (machine : Machine) (stream : Nat) : Machine :=
  { machine with streams := machine.streams.filter fun item => item.1 ≠ stream }

/-- The number of a new open file, and the shell with it. -/
def openNew (machine : Machine) (opening : Opening) : Nat × Machine :=
  (machine.openings.size, { machine with openings := machine.openings.push opening })

/-- The number of a new channel, and the shell with it. -/
def addChannel (machine : Machine) (content : List UInt8) (limit? : Option Nat) : Nat × Machine :=
  (machine.channels.size,
    { machine with channels := machine.channels.push ⟨[], 0, content, limit?, false⟩ })

/-- Everything that is to be read from a channel. -/
def channelContent (machine : Machine) (number : Nat) : List UInt8 :=
  match machine.channels[number]? with
  | some channel =>
    if channel.pieces.isEmpty then channel.unread
    else channel.unread ++ channel.pieces.reverse.flatten
  | none => []

/-- A number for a new process, and the shell that has given it away. -/
def newProcess (machine : Machine) : Nat × Machine :=
  (machine.nextProcess, { machine with nextProcess := machine.nextProcess + 1 })

/-- The first place that is free for a new job, and the shell without the job that made room there: one that
is over and has been waited for. -/
def makeRoom (machine : Machine) : Nat × Machine :=
  let kept := machine.jobs.filter fun job => !job.waited
  let isTaken := fun place : Nat => kept.any fun job => job.place = place
  let place := (((List.range kept.length).map Nat.succ).find? fun place => !isTaken place).getD
    (kept.length + 1)
  (place, { machine with jobs := machine.jobs.filter fun job => job.place ≠ place })

end Machine

namespace Step

/-- Sets the status of the last command. -/
def setStatus (status : Nat) : Step Unit :=
  modify fun machine => { machine with status := status }

/-- Runs a step and gives how it ended, which stops nothing. -/
def attempt {α : Type} (step : Step α) : Step (Except Halt α) := fun machine =>
  let (result, after) := step.run machine
  (.ok result, after)

/-- Ends as a step has ended. -/
def conclude {α : Type} (result : Except Halt α) : Step α :=
  match result with
  | .ok value => pure value
  | .error halt => throw halt

/-- Runs a step, after which a part of the shell is as it was before, however the step ended. -/
def keeping {α β : Type} (part : Machine → β) (restore : β → Machine → Machine) (step : Step α) :
    Step α := fun machine =>
  let (result, after) := step.run machine
  (result, restore (part machine) after)

end Step

end CounterCatalog.Shell
