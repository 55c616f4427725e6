import CounterCatalog.Shell.Tool.File.Common
import CounterCatalog.Tree.Canonical

/-!
# Working out paths

`basename` and `dirname` take paths apart as texts; `readlink` writes what links stand for, and `realpath` where
paths lead to, perhaps as it is seen from another directory; `pwd` writes the path of the current directory.
-/

set_option autoImplicit false

namespace CounterCatalog.Shell.Tool

open Step

/-- What ends each path that is written. -/
def pathEnd (options : Options) : Chars :=
  [recordEnd options]

/-- A name without an ending, unless that is all of it. -/
def withoutSuffix (suffix name : Chars) : Chars :=
  let bare := name.take (name.length - suffix.length)
  if name = bare ++ suffix ∧ bare ≠ [] ∧ name.head? ≠ some '/' then bare else name

/-- Writes the last names of paths. -/
def basename : Tool := fun arguments =>
  match Options.read (taking [('s', "suffix")] ++ flags [('a', "multiple"), ('z', "zero")]) true arguments with
  | .error stop => stop.answer (misusedWith 1)
  | .ok options =>
    let lines := fun names : List Chars => answer 0 (names.flatMap fun name => name ++ pathEnd options)
    if options.hasAny "as" && !options.operands.isEmpty then
      lines (options.operands.map fun path => withoutSuffix ((options.value? 's').getD []) (baseName path))
    else
      match options.operands with
      | [] => misused "missing operand"
      | [path] => lines [baseName path]
      | [path, suffix] => lines [withoutSuffix suffix (baseName path)]
      | _ :: _ :: extra :: _ => misusedWith 1 ("extra operand ".toList ++ quoted extra)

/-- Writes paths without their last names. -/
def dirname : Tool := fun arguments =>
  match Options.read (flags [('z', "zero")]) true arguments with
  | .error stop => stop.answer (misusedWith 1)
  | .ok options => do
    if options.operands.isEmpty then return ← misused "missing operand"
    answer 0 (options.operands.flatMap fun path => dirName path ++ pathEnd options)

/-- What of a path may be missing, as the last of some options says. -/
def lackOf (options : Options) : Option Tree.Lack :=
  (options.lastOf "efm").map fun
    | 'e' => .nothing
    | 'm' => .anything
    | _ => .last

/-- Writes what symbolic links stand for, or canonical paths. -/
def readlink : Tool := fun arguments =>
  withOptions (flags [('f', "canonicalize"), ('e', "canonicalize-existing"), ('m', "canonicalize-missing"),
    ('n', "no-newline"), ('q', "quiet"), ('s', "silent"), ('v', "verbose"), ('z', "zero")]) arguments fun options => do
    if options.operands.isEmpty then return ← misused "missing operand"
    let several := 1 < options.operands.length
    if several && options.has 'n' then report "ignoring --no-newline with multiple arguments".toList
    let ending := if options.has 'n' && !several then [] else pathEnd options
    forAll options.operands fun path => do
      let machine ← get
      let found :=
        match lackOf options with
        | some lack => (machine.tree.canonicalWay lack true machine.directory path.bytes).map Tree.pathOf
        | none =>
          match machine.tree.view machine.directory path.bytes with
          | .ok (_, .link target) => .ok target
          | .ok _ => .error .invalid
          | .error fault => .error fault
      match found with
      | .ok text => return (← answer 0 (Chars.ofBytes text ++ ending)) = 0
      | .error fault =>
        if options.lastOf "qsv" = some 'v' then report (fileName path ++ ": ".toList ++ fault.reason.toList)
        return false

/-- How canonical paths are written. -/
structure Canon where
  /-- What of a path may be missing. -/
  lack : Tree.Lack
  /-- Links are replaced by what they stand for. -/
  turns : Bool
  /-- Links are replaced after that. -/
  turnsAfter : Bool

/-- The canonical way of a path. -/
def Canon.wayOf (canon : Canon) (machine : Machine) (path : Chars) : Except Fault (List Name) := do
  let way ← machine.tree.canonicalWay canon.lack canon.turns machine.directory path.bytes
  if !canon.turnsAfter then return way
  machine.tree.canonicalWay canon.lack true machine.directory (Tree.pathOf way)

/-- A canonical way as it is written, given the way from which it is seen, if it is, and the way that it has to be
below for that. -/
def shownWay (base? prefix? : Option (List Name)) (way : List Name) : Chars :=
  match base? with
  | none => Chars.ofBytes (Tree.pathOf way)
  | some base =>
    if prefix?.all fun front => front.isPrefixOf way then
      let steps := Tree.relativeWay base way
      if steps.isEmpty then ['.'] else Chars.ofBytes ([0x2F].intercalate steps)
    else Chars.ofBytes (Tree.pathOf way)

/-- Writes canonical paths. -/
def realpath : Tool := fun arguments =>
  withOptions (taking [('ṫ', "relative-to"), ('ḃ', "relative-base")] ++ flags [('e', "canonicalize-existing"),
    ('m', "canonicalize-missing"), ('L', "logical"), ('P', "physical"), ('s', "strip"), ('s', "no-symlinks"),
    ('q', "quiet"), ('z', "zero")]) arguments fun options => do
    if options.operands.isEmpty then return ← misused "missing operand"
    let machine ← get
    let canon : Canon :=
      { lack := ((options.lastOf "em").bind fun _ => lackOf options).getD .last
        turns := (options.lastOf "LPs").all fun letter => letter = 'P'
        turnsAfter := options.lastOf "LPs" = some 'L' }
    let baseOf (path : Chars) : Except Fault (List Name) := do
      let way ← canon.wayOf machine path
      if canon.lack = Tree.Lack.nothing && !(machine.tree.directory machine.directory (Tree.pathOf way)).isOk then
        throw Fault.notADirectory
      return way
    let base? := options.value? 'ḃ'
    let from? := (options.value? 'ṫ').orElse fun _ => base?
    let mut ways := []
    for path in from?.toList ++ base?.toList do
      match baseOf path with
      | .ok way => ways := ways ++ [way]
      | .error fault =>
        report (fileName path ++ ": ".toList ++ fault.reason.toList)
        return 1
    let (seen?, front?) :=
      match ways with
      | [] => (none, none)
      | [way] => (some way, none)
      | way :: front :: _ => if front.isPrefixOf way then (some way, some front) else (none, none)
    forAll options.operands fun path => do
      match canon.wayOf (← get) path with
      | .ok way => return (← answer 0 (shownWay seen? front? way ++ pathEnd options)) = 0
      | .error fault =>
        unless options.has 'q' do report (fileName path ++ ": ".toList ++ fault.reason.toList)
        return false

/-- Writes the path of the current directory; the one that the environment gives may have links in it. -/
def pwd : Tool := fun arguments =>
  withOptions (flags [('L', "logical"), ('P', "physical")]) arguments fun options => do
    let machine ← get
    unless options.operands.isEmpty do report "ignoring non-option arguments".toList
    let given := (machine.lookup? "PWD".toList).filter fun path =>
      path.head? = some '/' && (Text.splitOn '/' path).all (fun step => step ≠ ['.'] && step ≠ ['.', '.']) &&
        (machine.tree.directory machine.directory (Chars.bytes path)).toOption = some machine.directory
    match given, options.lastOf "LP" with
    | some path, some 'L' => answer 0 (path ++ ['\n'])
    | _, _ =>
      match machine.tree.wayTo? machine.directory with
      | some way => answer 0 (Chars.ofBytes (Tree.pathOf way) ++ ['\n'])
      | none =>
        report "couldn't find directory entry in '..' with matching i-node".toList
        return 1

end CounterCatalog.Shell.Tool
