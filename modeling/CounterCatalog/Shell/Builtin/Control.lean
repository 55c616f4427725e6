import CounterCatalog.Shell.Builtin.Common
import CounterCatalog.Shell.Runner

/-!
# Commands that control the shell

The commands of the shell that end loops, functions and the shell itself, run other texts, and set what
signals do.
-/

set_option autoImplicit false

namespace CounterCatalog.Shell.Builtin

open Step

/-- The number of loops that a command is about: never more than there are. -/
def loopCount (arguments : List Chars) : Step Nat := do
  match arguments with
  | [] => return min 1 (← get).loops
  | first :: _ =>
    let count ← boundedNumber Number.leastCount Number.greatestCount first
    if count ≤ 0 then fail ("Illegal number: ".toList ++ first)
    return min count.toNat (← get).loops

/-- Ends loops. -/
def breakLoops : Builtin := fun arguments => do
  let count ← loopCount arguments
  setStatus 0
  if count = 0 then return 0 else throw (.stop count)

/-- Goes on with the next round of a loop. -/
def continueLoop : Builtin := fun arguments => do
  let count ← loopCount arguments
  setStatus 0
  if count = 0 then return 0 else throw (.next count)

/-- Ends a function or a file that is running. -/
def returnFrom : Builtin := fun arguments => do
  if let first :: _ := arguments then setStatus (← number first)
  throw .finish

/-- Ends the shell. -/
def exit : Builtin := fun arguments => do
  match arguments with
  | first :: _ => setStatus (← number first)
  | [] => modify fun machine => { machine with status := machine.trapStatus?.getD machine.status }
  throw .leave

/-- Runs its arguments as a text of commands. -/
def eval (run : Runner) (tested : Bool) : Builtin := fun arguments => do
  if ← runText run ⟨tested, false⟩ ([' '].intercalate arguments) then return (← get).status
  return 0

/-- The bytes of a file that is to be run, which are none for a directory. -/
def scriptAt (path : Chars) : Step Chars := do
  let machine ← get
  match machine.openToRead path with
  | .error fault =>
    let reason :=
      match fault with
      | .notFound | .notADirectory => "No such file"
      | fault => fault.reason
    fail ("cannot open ".toList ++ path ++ ": ".toList ++ reason.toList)
  | .ok opening => return Chars.ofBytes ((machine.contentFrom opening.source 0).toOption.getD [])

/-- The directories in which commands are searched. -/
def searchPath (machine : Machine) : List Chars :=
  Text.splitOn ':' ((machine.lookup? "PATH".toList).getD [])

/-- Runs the text in a file as a part of the shell. -/
def dot (run : Runner) : Builtin := fun arguments => do
  let (_, arguments) ← options "" arguments
  match arguments with
  | [] => return 0
  | name :: _ =>
    let machine ← get
    let isFile := fun path : Chars =>
      match machine.tree.locate machine.directory path.bytes with
      | .ok (_, .file _ _) | .ok (_, .program _) => true
      | _ => false
    let paths := (searchPath machine).map fun directory =>
      if directory.isEmpty then name else directory ++ ['/'] ++ name
    let path? := if name.contains '/' then some name else paths.find? isFile
    match path? with
    | none => fail (name ++ ": not found".toList)
    | some path =>
      let script ← scriptAt path
      modify fun machine => { machine with speaker? := some path }
      match ← attempt (runFile run script) with
      | .ok false => return 0
      | .ok true | .error .finish => return (← get).status
      | .error halt => throw halt

/-- Sets what is done when signals arrive or the shell ends, or shows it. -/
def trap : Builtin := fun arguments => do
  let (_, arguments) ← options "" arguments
  match arguments with
  | [] =>
    let machine ← get
    let shape := fun signal : Nat =>
      match machine.trap? signal with
      | some action =>
        line ("trap -- ".toList ++ quote action ++ [' '] ++
          ((Signal.name? signal).getD (toString signal)).toList)
      | none => []
    say ((List.range Signal.bound).flatMap shape)
  | first :: rest =>
    let bare := rest.isEmpty || (Chars.isNumber first && decide (Chars.toNat first < Signal.bound))
    let action? := if bare ∨ first = ['-'] then none else some first
    for name in if bare then arguments else rest do
      match Signal.number? name with
      | none =>
        complain ("trap: ".toList ++ name ++ ": bad trap".toList)
        return 1
      | some signal =>
        modify fun machine =>
          let ignored := machine.ignored.filter fun other => other ≠ signal
          { machine with
            traps := action?.toList.map (fun action => (signal, action)) ++
              machine.traps.filter fun item => item.1 ≠ signal
            ignored :=
              if action? = some [] ∧ signal ≠ 0 then signal :: ignored else ignored }
    return 0

end CounterCatalog.Shell.Builtin
