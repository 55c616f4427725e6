import CounterCatalog.Shell.Builtin.Common
import CounterCatalog.Shell.Mode
import CounterCatalog.Tree.Canonical

/-!
# Commands for the current directory

The shell shows the current directory by the path along which it was entered, links included, and goes up
along that path too, unless it is told to look at the files.
-/

set_option autoImplicit false

namespace CounterCatalog.Shell.Builtin

open Step

/-- The path of a directory without links, if it can still be reached. -/
def plainPath? (machine : Machine) : Option Chars :=
  (machine.tree.wayTo? machine.directory).map fun way => Chars.ofBytes (Tree.pathOf way)

/-- The path of the current directory, which may no longer have one. -/
def findPath : Step Chars := do
  match plainPath? (← get) with
  | some path => return path
  | none =>
    warn "getcwd() failed: No such file or directory".toList
    return []

/-- The path of another directory, seen from one that has a path; `.` and `..` are taken out of it, without
a look at the files. -/
def pathFrom (shown path : Chars) : Chars :=
  let double := (path.head? = some '/' ∧ path[1]? = some '/' ∧ path[2]? ≠ some '/')
  let split := fun text : Chars => (Text.splitOn '/' text).filter fun step => step ≠ []
  let start := if path.head? = some '/' then [] else split shown
  let steps := (split path).foldl (fun steps step =>
    if step = ['.'] then steps else if step = ['.', '.'] then steps.dropLast else steps ++ [step]) start
  (if double then ['/'] else []) ++ '/' :: ['/'].intercalate steps

/-- Children get a variable with a value. -/
def exportValue (name : String) (value : Chars) : Step Unit := do
  assign name.toList value
  modify fun machine =>
    machine.setVariable name.toList
      { machine.assigned name.toList value with exported := true }

/-- Enters a directory by a path, shown as given or found out anew; gives whether that was possible. -/
def enter (path : Chars) (shown? : Option Chars) : Step Bool := do
  let machine ← get
  match machine.tree.directory machine.directory path.bytes with
  | .error _ => return false
  | .ok directory =>
    exportValue "OLDPWD" machine.shownDirectory
    modify fun machine => { machine with directory := directory }
    let shown ←
      match shown? with
      | some shown => pure shown
      | none => findPath
    modify fun machine =>
      { machine with
        shownDirectory := shown
        plainDirectory? := if shown?.isNone then some shown else none }
    exportValue "PWD" shown
    return true

/-- Where links are left as they are, or followed: the last of the options that say so counts. -/
def followsLinks (found : List (Char × Chars)) : Bool :=
  (found.getLast?.map Prod.fst) = some 'P'

/-- Enters a directory by a path, and gives whether that was possible. -/
def goTo (physical : Bool) (path : Chars) : Step Bool := do
  let machine ← get
  if physical ∨ (path.head? ≠ some '/' ∧ machine.shownDirectory.isEmpty) then enter path none
  else
    let target := pathFrom machine.shownDirectory path
    enter target (some target)

/-- A path is only looked up in the current directory, and in no list of others. -/
def isDirect (path : Chars) : Bool :=
  match (Text.splitOn '/' path).head? with
  | some [] | some ['.'] | some ['.', '.'] => true
  | _ => false

/-- Changes the current directory. -/
def cd : Builtin := fun arguments => do
  let (found, arguments) ← options "LP" arguments
  let machine ← get
  let physical := followsLinks found
  let home := (machine.lookup? "HOME".toList).getD []
  let (path, shows) :=
    match arguments with
    | [] => (home, false)
    | ['-'] :: _ => ((machine.lookup? "OLDPWD".toList).getD [], true)
    | path :: _ => (path, false)
  let lists :=
    if isDirect path ∧ !path.isEmpty then none else machine.lookup? "CDPATH".toList
  let path := if path.isEmpty then ['.'] else path
  let candidates := (lists.map (Text.splitOn ':')).getD [] |>.map fun directory =>
    (directory, if directory.isEmpty then path else directory ++ ['/'] ++ path)
  let choice? := candidates.find? fun item =>
    (machine.tree.directory machine.directory (Chars.bytes item.2)).isOk
  let (target, shows) :=
    match choice? with
    | some (directory, target) => (target, shows || !directory.isEmpty)
    | none => (path, shows)
  unless ← goTo physical target do fail ("can't cd to ".toList ++ path)
  if shows then say (line (← get).shownDirectory) else return 0

/-- Writes the path of the current directory. -/
def pwd : Builtin := fun arguments => do
  let (found, _) ← options "LP" arguments
  if !followsLinks found then return ← say (line (← get).shownDirectory)
  match (← get).plainDirectory? with
  | some path => say (line path)
  | none =>
    let path ← findPath
    modify fun machine => { machine with plainDirectory? := some path }
    say (line path)

/-- The letters of the permissions that three bits give. -/
def letters (bits : Nat) : Chars :=
  (if bits &&& 4 ≠ 0 then ['r'] else []) ++ (if bits &&& 2 ≠ 0 then ['w'] else []) ++
    (if bits &&& 1 ≠ 0 then ['x'] else [])

/-- A number in octal digits, at least four of them. -/
def octal (number : Nat) : Chars :=
  let digits := Nat.toDigits 8 number
  List.replicate (4 - digits.length) '0' ++ digits

/-- Sets or shows the permissions that new files do not get. -/
def umask : Builtin := fun arguments => do
  let (found, arguments) ← options "S" arguments
  let machine ← get
  match arguments with
  | [] =>
    let allowed := 0o777 &&& (0o777 ^^^ machine.mask)
    if found.isEmpty then say (line (octal machine.mask))
    else
      say (line ("u=".toList ++ letters (allowed / 64) ++ ",g=".toList ++ letters (allowed / 8 % 8) ++
        ",o=".toList ++ letters (allowed % 8)))
  | mode :: _ =>
    if (mode.head?).any Char.isDigit then
      unless mode.all (fun c => '0' ≤ c && c ≤ '7') do fail ("Illegal number: ".toList ++ mode)
      let value := mode.foldl (fun value c => value * 8 + (c.toNat - '0'.toNat)) 0
      set { machine with mask := value % 512 }
      return 0
    let allowed := 0o777 &&& (0o777 ^^^ machine.mask)
    match (Mode.parse? mode).map fun changes => Mode.adjust false 0 changes allowed with
    | some allowed =>
      set { machine with mask := 0o777 &&& (0o777 ^^^ allowed) }
      return 0
    | none => fail ("Illegal mode: ".toList ++ mode)

end CounterCatalog.Shell.Builtin
