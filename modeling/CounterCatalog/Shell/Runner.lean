import CounterCatalog.Shell.Expansion
import CounterCatalog.Shell.Parser.Statement
import CounterCatalog.Shell.Process

/-!
# Running texts

A text of commands is read and run line by line, so that an error of syntax comes up only after what stands
before it has been done. How a single statement is run is given. Between two commands the shell attends to
the signals that have arrived, and when it ends it carries out the action that was left for that.
-/

set_option autoImplicit false

namespace CounterCatalog.Shell

/-- How a statement is run. -/
structure Manner where
  /-- Its failing is looked at by another statement, and so does not end the shell. -/
  tested : Bool
  /-- It is the last thing that its process does. -/
  last : Bool

/-- An ordinary statement. -/
def Manner.plain : Manner := ⟨false, false⟩

/-- The only statement of a process. -/
def Manner.whole : Manner := ⟨false, true⟩

/-- The way a shell runs the statements inside a statement. -/
abbrev Runner := Manner → Statement → Step Unit

namespace Step

/-- Writes a part of a script that has just been read, if the shell is to do so. -/
def echoRead (text : Chars) : Step Unit := do
  if (← get).has 'v' then
    let _ ← writeTo 2 text.bytes

/-- A number of lines at the front of a text. -/
def firstLines (count : Nat) (text : Chars) : Chars :=
  let lines := (Text.splitOn '\n' text).take count
  text.take ([' '].intercalate lines).length.succ

/-- Runs the lines of a text, given at least as many steps as it has lines; the last of them may be the last
thing that the process does. Gives whether there was anything to run. -/
def runLines (run : Runner) (manner : Manner) (isFile : Bool) : Nat → Bool → Parser.Cursor → Step Bool
  | 0, _, _ => throw .exhausted
  | steps + 1, ran, cursor => do
    let machine ← get
    match Parser.line { cursor with documents := machine.documents, aliases := machine.aliases } with
    | .error misuse =>
      if isFile then echoRead (firstLines (misuse.line - cursor.line + 1) cursor.rest)
      set { machine with line := misuse.line }
      fail ("Syntax error: ".toList ++ misuse.reason.toList)
    | .ok (statement?, next) =>
      set { machine with documents := next.documents }
      if isFile then echoRead (cursor.rest.take (cursor.rest.length - next.rest.length))
      let ends := next.again && next.token matches .ending
      if let some statement := statement? then
        run { manner with last := manner.last && ends } statement
      let ran := ran || statement?.isSome
      if next.isAtEnd then return ran else runLines run manner isFile steps ran next

/-- Runs a text of commands, and gives whether there was anything to run. -/
def runText (run : Runner) (manner : Manner) (text : Chars) : Step Bool := do
  if text.isEmpty then return false
  runLines run manner false (text.length + 2) false (Parser.Cursor.start text #[] [])

/-- Runs a text of commands that has been read from a file, and gives whether there was anything to run. -/
def runFile (run : Runner) (text : Chars) : Step Bool := do
  if text.isEmpty then return false
  runLines run .plain true (text.length + 2) false (Parser.Cursor.start text #[] [])

/-- Carries out the action for a signal, after which the status is what it was. -/
def runAction (run : Runner) (action : Chars) : Step Unit := do
  let before ← get
  let status := before.trapStatus?.getD before.status
  set { before with trapStatus? := some status }
  keeping (fun _ => before.trapStatus?)
    (fun trapStatus? machine => { machine with trapStatus? := trapStatus? })
    (do let _ ← runText run .plain action)
  setStatus status

/-- Attends to the signals that have arrived. -/
def attend (run : Runner) : Step Unit := do
  for signal in ← takeSignals do
    match (← get).trap? signal with
    | some action => runAction run action
    | none => unless Signal.harmless.contains signal do throw (.killed signal)

/-- Carries out the action for the end of the shell, if there is one. -/
def runExit (run : Runner) : Step Unit := do
  let machine ← get
  match machine.trap? 0 with
  | none | some [] => return ()
  | some action =>
    set { machine with
      traps := machine.traps.filter fun item => item.1 ≠ 0
      trapStatus? := some machine.status }
    match ← attempt (runText run .plain action) with
    | .ok _ | .error .finish => setStatus machine.status
    | .error .leave | .error .failed => return ()
    | .error halt => throw halt

/-- Runs what a shell does from its beginning to its end. -/
def asShell (run : Runner) (body : Step Unit) : Step Unit := do
  match ← attempt body with
  | .error (.killed signal) => throw (.killed signal)
  | .error .exhausted => throw .exhausted
  | _ => runExit run

/-- Runs a statement as all that a process does. -/
def runWhole (run : Runner) (statement : Statement) : Step Unit :=
  asShell run (run .whole statement)

/-- Tells that a signal has ended a child, unless that is nothing special. -/
def tell (status : Status) : Step Unit := do
  match status with
  | .signalled signal =>
    unless signal = 2 ∨ signal = pipeSignal do complain (Signal.words signal).toList
  | .exited _ => return ()

/-- Takes a child's end as the status of the last command. -/
def take (status : Status) : Step Unit := do
  tell status
  setStatus (Signal.statusOf status)

/-- Runs a statement inside a word and gives what it writes. -/
def substitute (run : Runner) : Substitute := fun statement => do
  if statement matches .skip then return []
  let (channel, machine) := (← get).addChannel [] none
  set machine
  let status ← inChild do
    let (number, machine) := (← get).openNew (.ofWriting (.channel channel))
    set (machine.lead 1 number)
    runWhole run statement
  tell status
  let machine ← get
  set { machine with substituted := Signal.statusOf status }
  return machine.channelContent channel

end Step

end CounterCatalog.Shell
