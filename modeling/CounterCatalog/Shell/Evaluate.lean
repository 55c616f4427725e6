import CounterCatalog.Shell.Command

/-!
# Running statements

`statement` runs one statement, given a way to run those inside it; `exec` closes the circle, with fuel that
is spent on every statement inside another and on every round of a loop, so that it ends for every script.
After a command, a pipeline or a shell of its own the shell ends if that failed and failing is to end it.
-/

set_option autoImplicit false

namespace CounterCatalog.Shell.Step

/-- Ends the shell if the last command failed, and that is to end it. -/
def heed (manner : Manner) : Step Unit := do
  let machine ← get
  if machine.has 'e' ∧ manner.tested = false ∧ machine.status ≠ 0 then throw .leave

/-- How a part of a loop has ended. -/
inductive Round where
  /-- It has run to its end. -/
  | complete
  /-- The next round begins. -/
  | skipped
  /-- The loop ends. -/
  | left
deriving DecidableEq

/-- Runs a part of a loop and gives how it has ended. -/
def round (body : Step Unit) : Step Round := do
  match ← attempt body with
  | .ok _ => return .complete
  | .error (.stop loops) => if loops ≤ 1 then return .left else throw (.stop (loops - 1))
  | .error (.next loops) => if loops ≤ 1 then return .skipped else throw (.next (loops - 1))
  | .error halt => throw halt

/-- Runs what is a loop, or a part of one. -/
def inLoop (body : Step Unit) : Step Unit := do
  let loops := (← get).loops
  modify fun machine => { machine with loops := loops + 1 }
  keeping (fun _ => loops) (fun loops machine => { machine with loops := loops }) body

/-- Repeats a body while a condition has the expected outcome, for a number of rounds at most; the status of
the last body stays. -/
def repeatWhile (expected : Bool) (condition body : Step Unit) : Nat → Nat → Step Unit
  | 0, _ => throw .exhausted
  | rounds + 1, last => do
    match ← round condition with
    | .left => setStatus last
    | .skipped => repeatWhile expected condition body rounds last
    | .complete =>
      if decide ((← get).status = 0) != expected then setStatus last
      else if (← round body) ≠ .left then repeatWhile expected condition body rounds (← get).status
      else return ()

/-- Runs a body for each of some values of a variable. -/
def forEach (name : Chars) (body : Step Unit) : List Chars → Step Unit
  | [] => return ()
  | value :: rest => do
    assign name value
    if (← round body) ≠ .left then forEach name body rest

/-- The number of rounds that a loop may take. -/
def roundLimit : Nat := 1000000

/-- Runs commands of which each reads what the one before writes, and gives how they ended. The first one
reads from where a channel leads, or what the shell reads. What a starved command writes is cut off, and it is
ended by that. -/
def pipeOnce (run : Runner) (manner : Manner) : Option Nat → List Statement → Step (List Status)
  | _, [] => return []
  | source?, command :: rest => do
    let target? ←
      if rest.isEmpty then pure none
      else do
        let (number, machine) := (← get).addChannel [] (some (← get).supply)
        set machine
        pure (some number)
    modify fun machine => { machine with starved := false }
    let status ← spawn do
      if let some channel := source? then
        let (number, machine) := (← get).openNew (.ofReading (.channel channel))
        set (machine.lead 0 number)
      if let some channel := target? then
        let (number, machine) := (← get).openNew (.ofWriting (.channel channel))
        set (machine.lead 1 number)
      asShell run (run { manner with last := true } command)
    match target?, (← get).starved with
    | some channel, true =>
      modify fun machine => machine.cutOff channel
      return .signalled pipeSignal :: (← pipeOnce run manner target? rest)
    | _, _ => return status :: (← pipeOnce run manner target? rest)

/-- How often commands that read from one another are run again with more to read. -/
def supplyRounds : Nat := 2

/-- Sources without an end give as much as before, and who was starved before stays so. -/
def restoreSupply (before : World) : Step Unit :=
  modify fun machine =>
    { machine with supply := before.supply, starved := before.starved || machine.starved }

/-- Runs commands of which each reads what the one before writes, and gives how they ended. If the last one is
starved, all of it begins again with more to read, as often as given. -/
def pipe (run : Runner) (manner : Manner) (commands : List Statement) : Nat → Step (List Status)
  | 0 => do
    let before ← get
    let statuses ← pipeOnce run manner none commands
    restoreSupply before.toWorld
    return statuses
  | rounds + 1 => do
    let before ← get
    let statuses ← pipeOnce run manner none commands
    if (← get).starved ∧ before.supply < lastSupply then
      set { before with supply := before.supply * supplyFactor }
      let statuses ← pipe run manner commands rounds
      restoreSupply before.toWorld
      return statuses
    restoreSupply before.toWorld
    return statuses

/-- Runs a statement in a shell of its own, which is this one if it has nothing else to do. -/
def subshell (run : Runner) (manner : Manner) (body : Statement) (turns : List Turn) : Step Unit := do
  let inner : Step Unit := do
    turns.forM (Turn.perform (substitute run))
    run { manner with last := true } body
  if manner.last ∧ !hasTraps (← get) then
    inner
    throw .leave
  let before := (← get).clock
  let status ← inChild (asShell run inner)
  if (← get).clock ≠ before then settle (runWhole run)
  take status

/-- Starts a job. -/
def launch (line : Nat) (body : Statement) (redirections : List Redirection) : Step Unit := do
  let (place, machine) := (← get).makeRoom
  let (process, machine) := machine.newProcess
  let frame := machine.toFrame.forked machine.clock process
  let (number, machine) := machine.openNew (.ofReading (.device .null))
  let job : Job :=
    { process := process
      frame := { frame with
        ignored := 2 :: 3 :: frame.ignored
        streams := (0, number) :: frame.streams.filter fun item => item.1 ≠ 0 }
      body := .subshell line body redirections
      started := machine.clock
      status? := none
      place := place
      waited := false }
  set { machine with jobs := machine.jobs ++ [job], lastJob? := some process, status := 0 }

/-- The body of the first arm with a pattern that matches a text. -/
def chosen? (run : Substitute) (text : Chars) : List (List Word × Statement) → Step (Option Statement)
  | [] => return none
  | (patterns, body) :: rest => do
    if ← anyMatches patterns then return some body
    chosen? run text rest
where
  /-- One of some patterns matches. -/
  anyMatches : List Word → Step Bool
    | [] => return false
    | pattern :: rest => do
      if Matcher.matchesAll (← Expansion.pattern run pattern) text then return true
      anyMatches rest

/-- Runs a statement, given a way to run those inside it. -/
def statement (run : Runner) (manner : Manner) : Statement → Step Unit
  | .skip => setStatus 0
  | .simple line assignments words redirections => do
    simple run manner line assignments words redirections
    attend run
    heed manner
  | .seq first second => do
    run ⟨manner.tested, false⟩ first
    run manner second
  | .both first second => do
    run ⟨true, false⟩ first
    if (← get).status = 0 then run manner second
  | .either first second => do
    run ⟨true, false⟩ first
    if (← get).status ≠ 0 then run manner second
  | .negated body => do
    run ⟨true, false⟩ body
    setStatus (if (← get).status = 0 then 1 else 0)
  | .pipeline commands => do
    let before := (← get).clock
    let statuses ← pipe run manner commands supplyRounds
    if (← get).clock ≠ before then settle (runWhole run)
    if (← get).starved then starve
    statuses.forM tell
    setStatus ((statuses.getLast?.map Signal.statusOf).getD 0)
    attend run
    heed manner
  | .subshell line body redirections => do
    modify fun machine => { machine with line := line }
    let turns ← redirections.mapM (Turn.ofRedirection (substitute run))
    subshell run manner body turns
    attend run
    heed manner
  | .background line body redirections => launch line body redirections
  | .choice condition positive negative => do
    run ⟨true, false⟩ condition
    if (← get).status = 0 then run manner positive else run manner negative
  | .loop expected condition body =>
    inLoop (repeatWhile expected (run ⟨true, false⟩ condition) (run ⟨manner.tested, false⟩ body)
      roundLimit 0)
  | .each line name words? body => do
    modify fun machine => { machine with line := line }
    let values ←
      match words? with
      | none => pure (← get).arguments
      | some words => do pure (← words.mapM (Expansion.fields (substitute run))).flatten
    setStatus 0
    inLoop (forEach name (run ⟨manner.tested, false⟩ body) values)
  | .select line word arms => do
    modify fun machine => { machine with line := line }
    let text ← Expansion.text (substitute run) word
    match ← chosen? (substitute run) text arms with
    | some body => run manner body
    | none => setStatus 0
  | .redirected line body redirections => do
    modify fun machine => { machine with line := line }
    let turns ← redirections.mapM (Turn.ofRedirection (substitute run))
    keepingStreams do
      if ← turnAll (substitute run) turns then run ⟨manner.tested, false⟩ body
  | .define line name body =>
    modify fun machine =>
      { machine with
        functions := (name, line, body) :: machine.functions.filter fun item => item.1 ≠ name
        status := 0 }

/-- Runs a statement with fuel for the statements inside it, the lack of which ends the process by a signal; a
shell that is only to read them runs none. -/
def exec : Nat → Runner
  | 0 => fun _ _ => throw (.killed 11)
  | fuel + 1 => fun manner body => do
    if (← get).has 'n' then return ()
    attend (exec fuel)
    statement (exec fuel) manner body

end CounterCatalog.Shell.Step
