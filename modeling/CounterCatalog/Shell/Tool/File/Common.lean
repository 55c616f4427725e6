import CounterCatalog.Shell.Mode
import CounterCatalog.Shell.Tool.Common
import CounterCatalog.Tree.Edit

/-!
# What the tools for files have in common

They change the tree of files, and complain about what cannot be done. A file that another one takes the place of
may be kept under another name.
-/

set_option autoImplicit false

namespace CounterCatalog.Shell.Tool

open Step

/-- Changes the files if that is possible, and gives the fault if it is not. -/
def edit (change : Tree → Except Fault Tree) : Step (Option Fault) := do
  let machine ← get
  match change machine.tree with
  | .ok tree =>
    set { machine with tree := tree }
    return none
  | .error fault => return some fault

/-- Complains about something that cannot be done. -/
def refuse (text : Chars) : Step Bool := do
  report text
  return false

/-- Complains about something that cannot be done, because of a fault. -/
def cannot (what : Chars) (fault : Fault) : Step Bool :=
  refuse (what ++ ": ".toList ++ fault.reason.toList)

/-- Tells something. -/
def announce (wanted : Bool) (text : Chars) : Step Unit := do
  if wanted then
    let _ ← print (text ++ ['\n'])

/-- The permissions that new files and directories get. -/
def openFor (machine : Machine) (mode : Nat) : Nat :=
  Mode.without mode machine.mask

/-- The paths below a directory, those that are in it, in the order of their names. -/
def pathsIn (machine : Machine) (handle : Handle) (path : Chars) : List Chars :=
  let names := (machine.tree.entries handle).map fun (entry : Name × Handle) => Chars.ofBytes entry.1
  (names.mergeSort Chars.isBefore).map (within path)

/-- A path without slashes at its end. -/
def withoutSlashes (path : Chars) : Chars :=
  let front := (path.reverse.dropWhile fun c => c = '/').reverse
  if front.isEmpty then path.take 1 else front

/-- The words for the kind of a node. -/
def kindWords : Node → String
  | .file [] _ => "regular empty file"
  | .file _ _ | .program _ => "regular file"
  | .directory _ _ _ => "directory"
  | .link _ => "symbolic link"
  | .device _ => "character special file"
  | .stream _ => "fifo"

/-- The letter for the kind of a node. -/
def kindLetter : Node → Char
  | .directory _ _ _ => 'd'
  | .link _ => 'l'
  | .device _ => 'c'
  | .stream _ => 'p'
  | .file _ _ | .program _ => '-'

/-- The number of names of a node; a directory has those that it and the directories in it give it too. -/
def nameCount (tree : Tree) (handle : Handle) (node : Node) : Nat :=
  match node with
  | .directory _ entries _ => 2 + (entries.filter fun entry => tree.isDirectory entry.2).length
  | _ =>
    Number.total (tree.nodes.toList.map fun other =>
      (other.entries.filter fun entry => entry.2 = handle).length)

/-- The directory that holds the last name of a path, and that name, if the path ends with one. -/
def entryOf? (machine : Machine) (path : Chars) : Option (Handle × Name) :=
  match machine.tree.slotOf machine.directory (withoutSlashes path).bytes .busy with
  | .ok slot => some (slot.directory, slot.name)
  | .error _ => none

/-- Two paths end with the same name in the same directory. -/
def isSameName (machine : Machine) (first second : Chars) : Bool :=
  let place := entryOf? machine first
  place.isSome && place = entryOf? machine second

/-! ## Keeping files -/

/-- How files are kept that others take the place of. -/
inductive Backup where
  /-- Under a name with an ending. -/
  | simple
  /-- Under a name with a number if there is such a one already, or else under one with an ending. -/
  | existing
  /-- Under a name with a number. -/
  | numbered
deriving DecidableEq

namespace Backup

/-- The words for how files are kept, if they are. -/
def words : List (String × Option Backup) :=
  [("none", none), ("off", none), ("simple", some simple), ("never", some simple),
   ("existing", some existing), ("nil", some existing), ("numbered", some numbered), ("t", some numbered)]

/-- The flags for that. -/
def flags : List Flag :=
  perhaps [('Ḃ', "backup")] ++ Tool.flags [('b', "")] ++ taking [('S', "suffix")]

/-- The number in the name under which a file is kept, given its own. -/
def numberIn? (name kept : Chars) : Option Nat :=
  let front := name ++ ['.', '~']
  let digits := (kept.drop front.length).dropLast
  if front.isPrefixOf kept && kept.getLast? = some '~' && Chars.isNumber digits then some (Chars.toNat digits) else none

/-- The path under which a file is kept. -/
def pathFor (machine : Machine) (backup : Backup) (suffix path : Chars) : Chars :=
  let path := withoutSlashes path
  let numbers :=
    match machine.tree.directory machine.directory (Chars.bytes (dirName path)) with
    | .ok handle =>
      let names := (machine.tree.entries handle).map fun (entry : Name × Handle) => Chars.ofBytes entry.1
      names.filterMap (numberIn? (baseName path))
    | .error _ => []
  if backup = .simple ∨ (backup = .existing ∧ numbers.isEmpty) then path ++ suffix
  else path ++ ".~".toList ++ Chars.ofNat (numbers.foldl max 0 + 1) ++ ['~']

/-- How files are kept, as options and the environment say; nothing after a complaint about that. -/
def ofOptions (options : Options) : Step (Option (Option Backup × Chars)) := do
  let machine ← get
  let suffix := (options.value? 'S').orElse fun _ => machine.lookup? "SIMPLE_BACKUP_SUFFIX".toList
  let suffix := match suffix with | some text => if text.isEmpty ∨ text.contains '/' then ['~'] else text | none => ['~']
  if !options.hasAny "bḂS" then return some (none, suffix)
  let word := (options.value? 'Ḃ').getD []
  if !word.isEmpty then return (← choice "backup type" words word).map fun backup => (backup, suffix)
  let word := (machine.lookup? "VERSION_CONTROL".toList).getD []
  if word.isEmpty then return some (some .existing, suffix)
  return (← choice "$VERSION_CONTROL" words word).map fun backup => (backup, suffix)

end Backup

/-! ## Where files go -/

/-- The sources and the target of a tool that takes files somewhere. -/
structure Transfer where
  /-- What is taken. -/
  sources : List Chars
  /-- Where it is taken. -/
  target : Chars
  /-- The target is a directory that takes the sources under their own names. -/
  into : Bool

/-- The sources and the target among the operands, or the status of complaining about them. -/
def readTransfer (options : Options) : Step (Except Nat Transfer) := do
  let machine ← get
  let directoryFault? := fun path : Chars =>
    match machine.tree.directory machine.directory path.bytes with
    | .ok _ => none
    | .error fault => some fault
  let fail := fun (what : String) (path : Chars) (fault : Fault) => do
    let _ ← cannot (what.toList ++ quoted path) fault
    return Except.error 1
  if 1 < (options.values 't').length then
    report "multiple target directories specified".toList
    return .error 1
  match options.value? 't', options.operands.reverse with
  | _, [] => return .error (← misused "missing file operand")
  | some target, _ =>
    if options.has 'T' then
      report "cannot combine --target-directory (-t) and --no-target-directory (-T)".toList
      return .error 1
    match directoryFault? target with
    | none => return .ok ⟨options.operands, target, true⟩
    | some fault => fail "target directory " target fault
  | none, [only] =>
    return .error (← misusedWith 1 ("missing destination file operand after ".toList ++ quoted only))
  | none, target :: sources =>
    if options.has 'T' then
      if let some extra := options.operands[2]? then
        return .error (← misusedWith 1 ("extra operand ".toList ++ quoted extra))
      return .ok ⟨sources.reverse, target, false⟩
    match directoryFault? target, sources with
    | none, _ => return .ok ⟨sources.reverse, target, true⟩
    | some _, [_] => return .ok ⟨sources, target, false⟩
    | some fault, _ => fail "target " target fault

/-- The path that a source gets. -/
def Transfer.pathOf (transfer : Transfer) (source : Chars) : Chars :=
  if !transfer.into then transfer.target
  else if baseName source = ['.', '.'] then within transfer.target ['.']
  else within transfer.target (baseName source)

end CounterCatalog.Shell.Tool
