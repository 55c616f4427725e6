import CounterCatalog.Shell.Signal

/-!
# Processes

A child starts with a copy of its parent's frame and runs to its end before the parent goes on, unless it is
a job. A job is put off until the shell waits for it, lets time pass or ends; then it runs from the moment at
which it was started, and what it does is kept only if it is over by then. A signal for a job is remembered
with the time at which it was sent.
-/

set_option autoImplicit false

namespace CounterCatalog.Shell

namespace Frame

/-- The frame that a child begins with, given the time: the actions for signals are gone, but what is ignored stays
so, and so do signals that are still to arrive everywhere. -/
def forked (frame : Frame) (clock process : Nat) : Frame :=
  { frame with
    process := process
    parent := frame.process
    alarms := frame.alarms.filter fun alarm => alarm.everywhere && decide (clock < alarm.time)
    traps := frame.traps.filter fun item => item.2.isEmpty }

/-- The first of some signals that ends a process: it is not ignored, there is no action for it, and it is not
harmless. -/
def ending? (frame : Frame) (alarms : List Alarm) : Option Alarm :=
  let isDeadly := fun alarm : Alarm =>
    alarm.signal = Signal.kill ||
      (!frame.ignored.contains alarm.signal && !Signal.harmless.contains alarm.signal &&
        frame.traps.all fun item => item.1 ≠ alarm.signal)
  ((alarms.filter isDeadly).mergeSort fun a b => decide (a.time ≤ b.time)).head?

end Frame

namespace Step

/-- How a process ends whose statements ended in a way, and when if that is not now: one that would never end by
itself is ended by the first signal that does so, if there is one. -/
def endOf (frame : Frame) (alarms : List Alarm) (result : Except Halt Unit) : Status × Option Nat :=
  match result with
  | .error (.killed signal) => (.signalled signal, none)
  | .error .exhausted =>
    match frame.ending? alarms with
    | some alarm => (.signalled alarm.signal, some alarm.time)
    | none => (.signalled 9, none)
  | _ => (.exited (frame.status % 256), none)

/-- Runs a body as a process of its own, from a frame on. -/
def runFrame (frame : Frame) (body : Step Unit) : Step Status := fun machine =>
  let (result, after) := body.run { machine with toFrame := frame, jobs := [] }
  let left := after.jobs.filter fun job => job.status?.isNone
  let (status, time?) := endOf after.toFrame (frame.alarms ++ after.alarms) result
  let world := { after.toWorld with
    orphans := after.orphans ++ left
    clock := max after.clock (time?.getD 0) }
  (.ok status, { machine with toWorld := world })

/-- Runs a body as a child. -/
def spawn (body : Step Unit) : Step Status := do
  let (_, machine) := (← get).makeRoom
  let (process, machine) := machine.newProcess
  set machine
  runFrame (machine.toFrame.forked machine.clock process) body

/-- Runs a body as a child and waits for it; if that waits for more to read, so does this process, and it may be
ended meanwhile. -/
def inChild (body : Step Unit) : Step Status := do
  let status ← spawn body
  let machine ← get
  if machine.starved then starve
  let due := machine.alarms.filter fun alarm => alarm.time ≤ machine.clock
  if let some alarm := machine.toFrame.ending? due then throw (.killed alarm.signal)
  return status

/-- The signals that have arrived at the shell, which takes them. -/
def takeSignals : Step (List Nat) := do
  let machine ← get
  let mine := machine.posted.filter fun item => item.1 = machine.process
  let due := machine.alarms.filter fun alarm => alarm.time ≤ machine.clock
  if mine.isEmpty ∧ due.isEmpty then return []
  set { machine with
    posted := machine.posted.filter fun item => item.1 ≠ machine.process
    alarms := machine.alarms.filter fun alarm => machine.clock < alarm.time }
  let arrived := mine.map Prod.snd ++ due.map Alarm.signal
  return (arrived.eraseDups.filter fun signal => !machine.ignored.contains signal).mergeSort

/-- Lets time pass for a process that does nothing else, in thousandths of a second; the signals that arrive
end it. -/
def sleep (duration : Nat) : Step Unit := do
  let machine ← get
  let wake := machine.clock + duration
  match machine.toFrame.ending? (machine.alarms.filter fun alarm => alarm.time ≤ wake) with
  | some alarm =>
    set { machine with clock := max machine.clock alarm.time }
    throw (.killed alarm.signal)
  | none => set { machine with clock := wake }

/-- Runs a job from the moment at which it was started, and gives how it ended and when. -/
def runJob (run : Statement → Step Unit) (job : Job) : Step (Status × Nat) := do
  let now := (← get).clock
  modify fun machine => { machine with clock := job.started }
  let status ← runFrame job.frame (run job.body)
  let ended := (← get).clock
  modify fun machine => { machine with clock := max now ended, starved := false }
  return (status, ended)

/-- Changes the job with a process. -/
def changeJob (process : Nat) (change : Job → Job) : Step Unit :=
  modify fun machine =>
    { machine with
      jobs := machine.jobs.map fun job => if job.process = process then change job else job }

/-- A job of the shell is over. -/
def markJob (process : Nat) (status : Status) : Step Unit :=
  changeJob process fun job => { job with status? := some status }

/-- Runs a job to its end, if it is not over. -/
def finishJob (run : Statement → Step Unit) (job : Job) : Step Status := do
  match job.status? with
  | some status => return status
  | none =>
    let (status, _) ← runJob run job
    markJob job.process status
    return status

/-- Keeps what a job does, if it is over by now. -/
def settleJob (run : Statement → Step Unit) (job : Job) : Step Unit := do
  if job.status?.isSome then return ()
  let before ← get
  let (status, ended) ← runJob run job
  if ended ≤ before.clock then markJob job.process status else set before

/-- Keeps what those jobs do that are over by now. -/
def settle (run : Statement → Step Unit) : Step Unit := do
  for job in (← get).jobs do settleJob run job

/-- Sends a signal to a process; what a job does before the signal arrives is not undone. -/
def send (run : Statement → Step Unit) (process signal : Nat) : Step Bool := do
  let machine ← get
  match machine.jobs.find? fun job => job.process = process with
  | some job =>
    settleJob run job
    let now := (← get).clock
    changeJob process fun job =>
      { job with frame := { job.frame with alarms := job.frame.alarms ++ [⟨now, signal, false⟩] } }
    return true
  | none =>
    if process ∉ [machine.process, machine.parent, machine.shellProcess] then return false
    if signal = 0 then return true
    set { machine with posted := machine.posted ++ [(process, signal)] }
    return true

end Step

end CounterCatalog.Shell
