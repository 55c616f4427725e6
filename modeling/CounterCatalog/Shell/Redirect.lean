import CounterCatalog.Shell.Runner

/-!
# Redirections

The words of all redirections of a command are expanded before the first of them is carried out. One that
cannot be carried out gives the command up.
-/

set_option autoImplicit false

namespace CounterCatalog.Shell

/-- A redirection with its words expanded. -/
inductive Turn where
  /-- To a file. -/
  | file (stream : Nat) (direction : Direction) (path : Chars)
  /-- To where another stream leads, or nowhere at all. -/
  | same (stream : Nat) (source? : Option Nat)
  /-- From a text inside the script. -/
  | document (stream : Nat) (number : Nat)

namespace Turn

open Step

/-- A redirection with its words expanded. -/
def ofRedirection (run : Substitute) : Redirection → Step Turn
  | .file stream direction target => do return .file stream direction (← Expansion.text run target)
  | .same stream source? => return .same stream source?
  | .document stream number => return .document stream number
  | .named stream source => do
    match ← Expansion.text run source with
    | ['-'] => return .same stream none
    | [c] => if c.isDigit then return .same stream (some (Chars.toNat [c])) else fail "Bad fd number".toList
    | _ => fail "Bad fd number".toList

/-- The words for a file that cannot be opened. -/
def openFault (creating : Bool) (path : Chars) (fault : Fault) : Chars :=
  let reason :=
    match fault with
    | .notFound | .notADirectory => if creating then "Directory nonexistent" else "No such file"
    | fault => fault.reason
  (if creating then "cannot create " else "cannot open ").toList ++ path ++ ": ".toList ++ reason.toList

/-- Lets a stream lead to a new open file. -/
def leadTo (stream : Nat) (opening : Opening) : Step Unit :=
  modify fun machine =>
    let (number, machine) := machine.openNew opening
    machine.lead stream number

/-- A regular file stands at a path. -/
def isFile (machine : Machine) (path : Chars) : Bool :=
  match machine.tree.locate machine.directory path.bytes with
  | .ok (_, .file _ _) => true
  | _ => false

/-- Lets a stream lead to a file that is opened for writing. -/
def openFor (stream : Nat) (path : Chars) (keep : List UInt8 → List UInt8)
    (change : Opening → Opening) : Step Unit := do
  match (← get).openToWrite path keep with
  | .error fault => fail (openFault true path fault)
  | .ok (opening, machine) =>
    set machine
    leadTo stream (change opening)

/-- Carries out a redirection. -/
def perform (run : Substitute) : Turn → Step Unit
  | .file stream .read path => do
    match (← get).openToRead path with
    | .error fault => fail (openFault false path fault)
    | .ok opening => leadTo stream opening
  | .file stream .both path =>
    openFor stream path id fun opening => { opening with reads := true }
  | .file stream .append path =>
    openFor stream path id fun opening => { opening with appends := true }
  | .file stream .clobber path => openFor stream path (fun _ => []) id
  | .file stream .write path => do
    let machine ← get
    if machine.has 'C' ∧ isFile machine path then fail (openFault true path .alreadyExists)
    openFor stream path (fun _ => []) id
  | .same stream none => modify fun machine => machine.close stream
  | .same stream (some source) => do
    if stream = source then return ()
    let machine ← get
    match machine.opening? source with
    | some (number, _) => set (machine.lead stream number)
    | none => fail (Chars.ofNat source ++ ": ".toList ++ Fault.badHandle.reason.toList)
  | .document stream number => do
    let word := ((← get).documents[number]?).getD []
    let text ← Expansion.text run word
    leadTo stream (.ofReading (.bytes text.bytes))

end Turn

namespace Step

/-- Runs a step, after which all streams lead where they led before. -/
def keepingStreams {α : Type} (step : Step α) : Step α := do
  let streams := (← get).streams
  keeping (fun _ => streams) (fun streams machine => { machine with streams := streams }) step

/-- Carries out redirections, and gives whether that was possible. -/
def turnAll (run : Substitute) (turns : List Turn) : Step Bool := do
  match ← attempt (turns.forM (Turn.perform run)) with
  | .ok _ => return true
  | .error .failed => return false
  | .error halt => throw halt

end Step

end CounterCatalog.Shell
