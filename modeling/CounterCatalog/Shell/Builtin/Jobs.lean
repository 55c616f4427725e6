import CounterCatalog.Shell.Builtin.Control

/-!
# Commands for jobs

The commands of the shell that show jobs, wait for them and send signals to processes. A job is known by its
process, or by its place behind a percent sign. Since the shell does not work with groups of processes, a
signal never reaches a job by its place, and a job cannot be brought to the front.
-/

set_option autoImplicit false

namespace CounterCatalog.Shell.Builtin

open Step

/-- The job that a text with a percent sign in front names: by its place, the last one or the one before. -/
def jobAt (text : Chars) : Step Job := do
  let recent := (← get).jobs.reverse
  let found (job? : Option Job) (complaint : Chars) : Step Job :=
    match job? with
    | some job => return job
    | none => fail complaint
  match text with
  | ['%'] | ['%', '+'] | ['%', '%'] => found recent.head? "No current job".toList
  | ['%', '-'] => found recent[1]? "No previous job".toList
  | '%' :: digits =>
    let numbered := recent.find? fun job => Chars.isNumber digits && job.place = Chars.toNat digits
    found numbered ("No such job: ".toList ++ text)
  | _ => fail ("No such job: ".toList ++ text)

/-- The complaint about a wrong use of the command that sends signals. -/
def killUsage {α : Type} : Step α :=
  fail ("Usage: kill [-s sigspec | -signum | -sigspec] [pid | job]... or\n" ++
    "kill -l [exitstatus]").toList

/-- The name of a signal, or its number if it has no name. -/
def signalText (signal : Nat) : Chars :=
  ((Signal.name? signal).getD (toString signal)).toList

/-- Sends a signal to processes. -/
def sendAll (run : Runner) (signal : Nat) (targets : List Chars) : Step Nat := do
  let answers ← targets.mapM fun target => do
    let process ←
      if target.head? = some '%' then do
        let _ ← jobAt target
        pure 0
      else if target.head? = some '-' then do
        let _ ← number (target.drop 1)
        pure 0
      else number target
    if ← send (runWhole run) process signal then return 0
    warn (Fault.noProcess.reason.toList ++ ['\n'])
    return 1
  return answers.foldl max 0

/-- Sends a signal, or shows the names of signals. -/
def kill (run : Runner) : Builtin := fun arguments => do
  match arguments with
  | [] => killUsage
  | ('-' :: name) :: rest =>
    match if name.isEmpty then none else Signal.number? name with
    | some signal => if rest.isEmpty then killUsage else sendAll run signal rest
    | none =>
      let (found, rest) ← options "ls:" arguments
      let lists := found.any fun item => item.1 = 'l'
      let mut signal := 15
      for item in found do
        if item.1 = 's' then
          match Signal.number? item.2 with
          | some number => signal := number
          | none => fail ("invalid signal number or name: ".toList ++ item.2)
      if !lists then
        if rest.isEmpty then killUsage else sendAll run signal rest
      else
        match rest with
        | [] => say (line ['0'] ++ ((List.range 64).flatMap fun i => line (signalText (i + 1))))
        | text :: _ =>
          let value ← number text
          let value := if 128 < value then value - 128 else value
          if 0 < value ∧ value < Signal.bound then say (line (signalText value))
          else fail ("invalid signal number or exit status: ".toList ++ text)
  | _ => sendAll run 15 arguments

/-- Waits for a job to end, and gives its status. -/
def waitFor (run : Runner) (job : Job) : Step Status := do
  let status ← finishJob (runWhole run) job
  changeJob job.process fun job => { job with waited := true }
  return status

/-- Waits for all jobs, or for one that an argument names; gives the status of that, if there is such a
job. A job that a signal ends while the shell waits for it alone is told about. -/
def waitForNamed (run : Runner) (argument : Chars) : Step (Option Nat) := do
  let job? ←
    if argument.head? = some '%' then some <$> jobAt argument
    else do
      let process ← number argument
      pure ((← get).jobs.find? fun job => job.process = process)
  match job? with
  | none => return none
  | some job =>
    let status ← waitFor run job
    if job.status?.isNone then tell status
    return some (Signal.statusOf status)

/-- Waits for jobs to end; of several jobs the status of the last one counts. -/
def wait (run : Runner) : Builtin := fun arguments => do
  let (_, arguments) ← options "" arguments
  let before := (← get).posted
  let result ←
    if arguments.isEmpty then do
      for job in (← get).jobs do
        let _ ← waitFor run job
      pure 0
    else do
      let statuses ← arguments.mapM (waitForNamed run)
      pure ((statuses.filterMap id).getLast?.getD 127)
  let machine ← get
  let arrived := machine.posted.find? fun item =>
    item.1 = machine.process && !before.contains item && (machine.trap? item.2).isSome
  match arrived with
  | some (_, signal) => return 128 + signal
  | none => return result

/-- Would bring a job to the front, which cannot be done. -/
def foreground : Builtin := fun arguments => do
  let (_, arguments) ← options "" arguments
  let name := arguments.headD ['%']
  let _ ← jobAt name
  fail ("job ".toList ++ arguments.headD "(null)".toList ++ " not created under job control".toList)

/-- The width of the columns in front of the text of a job. -/
def jobWidth : Nat := 33

/-- A job as it is shown, given its mark and whether its process is shown too. -/
def jobLine (mark : Char) (long : Bool) (job : Job) : Chars :=
  let process := if long then Chars.ofNat job.process ++ [' '] else []
  let state :=
    match job.status? with
    | none => "Running".toList
    | some (.exited 0) => "Done".toList
    | some (.exited code) => "Done(".toList ++ Chars.ofNat code ++ [')']
    | some (.signalled signal) => (Signal.words signal).toList
  let text := ['['] ++ Chars.ofNat job.place ++ "] ".toList ++ [mark, ' '] ++ process ++ state
  line (text ++ List.replicate (jobWidth - text.length) ' ')

/-- Shows jobs, those started last first; a job that is over is forgotten once it has been shown. -/
def jobs : Builtin := fun arguments => do
  let (found, names) ← options "lp" arguments
  let has := fun letter : Char => found.any fun item => item.1 = letter
  let chosen ← if names.isEmpty then pure (← get).jobs.reverse else names.mapM jobAt
  let mut shown := []
  for job in chosen do
    let recent := (← get).jobs.reverse.map Job.process
    let mark :=
      if recent.head? = some job.process then '+'
      else if recent[1]? = some job.process then '-'
      else ' '
    if has 'p' then shown := shown ++ line (Chars.ofNat job.process)
    else
      shown := shown ++ jobLine mark (has 'l') job
      if job.status?.isSome then
        modify fun machine =>
          { machine with jobs := machine.jobs.filter fun other => other.process ≠ job.process }
  say shown

end CounterCatalog.Shell.Builtin
