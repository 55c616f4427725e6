import CounterCatalog.Shell.Tool.File.Common
import CounterCatalog.Tree.Canonical

/-!
# Making links

`ln` gives files further names, or makes links that stand for paths, which may be given from where the link is. The
tool `link` gives a file one further name.
-/

set_option autoImplicit false

namespace CounterCatalog.Shell.Tool

open Step

namespace Linking

/-- How links are made. -/
structure Wish where
  /-- They stand for paths. -/
  symbolic : Bool
  /-- The paths are given from where the link is. -/
  relative : Bool
  /-- A link at the end of a source is followed. -/
  follows : Bool
  /-- Directories get further names. -/
  directories : Bool
  /-- What stands in the way is replaced. -/
  forces : Bool
  /-- It is asked whether it is to be replaced. -/
  asks : Bool
  /-- How it is kept. -/
  backup? : Option Backup
  /-- The ending under which it is kept. -/
  suffix : Chars
  /-- It is told what is done. -/
  verbose : Bool

/-- A path as it is from a directory on, if both can be found out. -/
def relativePath (machine : Machine) (target source : Chars) : Chars :=
  let wayOf := fun path : Chars =>
    (machine.tree.canonicalWay .anything true machine.directory path.bytes).toOption
  match wayOf (dirName target), wayOf source with
  | some base, some way =>
    let steps := Tree.relativeWay base way
    if steps.isEmpty then ['.'] else Chars.ofBytes ([0x2F].intercalate steps)
  | _, _ => source

/-- Makes a link, if that is possible. -/
def make (wish : Wish) (machine : Machine) (source target : Chars) (tree : Tree) : Except Fault Tree :=
  if wish.symbolic then tree.makeLink machine.directory target.bytes source.bytes
  else do
    let (handle, node) ←
      if wish.follows then tree.locate machine.directory source.bytes else tree.view machine.directory source.bytes
    let slot ← tree.slotOf machine.directory target.bytes .alreadyExists
    tree.checkFree slot
    if slot.slash then throw .notFound
    if node.isDirectory then throw .notPermitted
    return tree.bind slot.directory slot.name handle

/-- Complains that a link cannot be made. -/
def complainOf (wish : Wish) (source target : Chars) (fault : Fault) : Step Bool :=
  let brief :=
    if wish.symbolic then fault ≠ .nameTooLong && !source.isEmpty else fault = .alreadyExists || fault = .noSpace
  let kind := if wish.symbolic then "symbolic link " else "hard link "
  let sign := if wish.symbolic then " -> " else " => "
  cannot ("failed to create ".toList ++ kind.toList ++ quoted target ++
    if brief then [] else sign.toList ++ quoted source) fault

/-- What is in the way of a link. -/
inductive Ground where
  /-- Nothing is to be done any more, with success or without. -/
  | over (ok : Bool)
  /-- The link can be made, after the name is taken away if it is taken; what stood there is kept at a path. -/
  | clear (kept? : Option Chars)

/-- Makes room for a link. -/
def prepare (wish : Wish) (made : List (Chars × Handle)) (source target : Chars) (exists_ : Bool) : Step Ground := do
  let machine ← get
  let fail := fun words : Chars => do
    report words
    return Ground.over false
  match machine.tree.view machine.directory target.bytes with
  | .error .notFound => return .clear none
  | .error fault =>
    let _ ← cannot ("failed to access ".toList ++ quoted target) fault
    return .over false
  | .ok (handle, node) =>
    if node.isDirectory then return ← fail (fileName target ++ ": cannot overwrite directory".toList)
    if !wish.symbolic && made.contains (target, handle) then
      return ← fail ("will not overwrite just-created ".toList ++ quoted target ++ " with ".toList ++ quoted source)
    let found :=
      if wish.symbolic || wish.follows then machine.tree.locate machine.directory source.bytes
      else machine.tree.view machine.directory source.bytes
    let isSame := found.toOption.any fun (other, node) =>
      other = handle && (nameCount machine.tree other node = 1 || isSameName machine source target)
    if isSame then
      return ← fail (quoted source ++ " and ".toList ++ quoted target ++ " are the same file".toList)
    if !exists_ then return .clear none
    if wish.asks then
      unless ← confirm ("replace ".toList ++ quoted target ++ "? ".toList) do return .over true
    match wish.backup? with
    | some backup =>
      let kept := Backup.pathFor machine backup wish.suffix target
      match ← edit fun tree => tree.rename machine.directory target.bytes kept.bytes with
      | none => return .clear (some kept)
      | some fault =>
        let _ ← cannot ("cannot backup ".toList ++ quoted target) fault
        return .over false
    | none =>
      let _ ← edit fun tree => tree.removeName machine.directory target.bytes
      return .clear none

/-- Makes one link, given the links that have been made before. -/
def one (wish : Wish) (made : List (Chars × Handle)) (source target : Chars) : Step Bool := do
  let machine ← get
  let tell := fun (source : Chars) (kept? : Option Chars) => do
    let front := match kept? with | some kept => quoted kept ++ " ~ ".toList | none => []
    announce wish.verbose (front ++ quoted target ++ (if wish.symbolic then " -> " else " => ").toList ++ quoted source)
    return true
  let result := make wish machine source target machine.tree
  if !wish.relative then
    if let .ok tree := result then
      set { machine with tree := tree }
      return ← tell source none
  if !wish.symbolic then
    let found :=
      if wish.follows then machine.tree.locate machine.directory source.bytes
      else machine.tree.view machine.directory source.bytes
    match found with
    | .error fault => return ← cannot ("failed to access ".toList ++ quoted source) fault
    | .ok (_, node) =>
      if node.isDirectory && !wish.directories then
        return ← refuse (fileName source ++ ": hard link not allowed for directory".toList)
  let shown := if wish.relative then relativePath machine target source else source
  let exists_ := wish.relative || result matches .error .alreadyExists
  let ground ←
    if wish.forces || wish.asks || wish.backup?.isSome then
      prepare wish made (if wish.relative then source else shown) target exists_
    else pure (.clear none)
  match ground with
  | .over ok => return ok
  | .clear kept? =>
    match ← edit (make wish machine shown target) with
    | none => tell shown kept?
    | some fault =>
      let _ ← complainOf wish shown target fault
      if let some kept := kept? then
        let _ ← edit fun tree => tree.rename machine.directory kept.bytes target.bytes
      return false

/-- Makes links to sources, one after the other. -/
def all (wish : Wish) (pathOf : Chars → Chars) : List Chars → List (Chars × Handle) → Step Bool
  | [], _ => return true
  | source :: rest, made => do
    let target := pathOf source
    let done ← one wish made source target
    let machine ← get
    let found := (machine.tree.view machine.directory target.bytes).toOption.map fun item => (target, item.1)
    let others ← all wish pathOf rest ((if done then found.toList else []) ++ made)
    return done && others

end Linking

open Linking in
/-- Makes links. -/
def ln : Tool := fun arguments =>
  withOptions (Backup.flags ++ taking [('t', "target-directory")] ++ flags [('d', "directory"), ('F', ""),
    ('f', "force"), ('i', "interactive"), ('n', "no-dereference"), ('r', "relative"), ('s', "symbolic"),
    ('T', "no-target-directory"), ('v', "verbose"), ('P', "physical"), ('L', "logical")]) arguments fun options => do
    let fail (message : Chars) : Step Nat := do
      report message
      return 1
    for (directory, place) in (options.values 't').zipIdx do
      if 0 < place then return ← fail "multiple target directories specified".toList
      let machine ← get
      match machine.tree.locate machine.directory directory.bytes with
      | .ok (_, node) =>
        if !node.isDirectory then
          return ← fail ("target ".toList ++ quoted directory ++ " is not a directory".toList)
      | .error fault =>
        return ← fail ("failed to access ".toList ++ quoted directory ++ ": ".toList ++ fault.reason.toList)
    let symbolic := options.has 's'
    if options.has 'r' && !symbolic then
      return ← fail "cannot do --relative without --symbolic".toList
    let operands := options.operands
    if operands.isEmpty then return ← misused "missing file operand"
    if options.has 't' && options.has 'T' then
      return ← fail "cannot combine --target-directory and --no-target-directory".toList
    let some (backup?, suffix) ← Backup.ofOptions options | return 1
    let wish : Wish :=
      { symbolic := symbolic, relative := options.has 'r', follows := options.lastOf "PL" = some 'L'
        directories := options.hasAny "dF", forces := options.lastOf "fi" = some 'f'
        asks := options.lastOf "fi" = some 'i', backup? := backup?, suffix := suffix, verbose := options.has 'v' }
    let machine ← get
    let finish (ok : Bool) : Nat := if ok then 0 else 1
    let inside := fun directory source : Chars => within directory (baseName source)
    match options.value? 't', operands with
    | none, [source] =>
      if options.has 'T' then
        misusedWith 1 ("missing destination file operand after ".toList ++ quoted source)
      else return finish (← all wish (inside ['.']) [source] [])
    | none, source :: target :: more =>
      if options.has 'T' then
        match more with
        | extra :: _ => return ← misusedWith 1 ("extra operand ".toList ++ quoted extra)
        | [] => return finish (← one wish [] source target)
      let last := operands.getLastD target
      let isLink := (machine.tree.view machine.directory (Chars.bytes (withoutSlashes last))) matches .ok (_, .link _)
      let found := machine.tree.directory machine.directory last.bytes
      let free := more.isEmpty && !wish.relative && (make wish machine source target machine.tree).isOk
      match if options.has 'n' && isLink then Except.error Fault.notADirectory else found with
      | .ok _ =>
        if free then return finish (← one wish [] source target)
        return finish (← all wish (inside last) operands.dropLast [])
      | .error fault =>
        if more.isEmpty then return finish (← one wish [] source target)
        fail ("target ".toList ++ quoted last ++ ": ".toList ++ fault.reason.toList)
    | some directory, _ => return finish (← all wish (inside directory) operands [])
    | none, [] => return 1

open Linking in
/-- Gives a file a further name. -/
def link : Tool := fun arguments =>
  withOptions [] arguments fun options => do
    match options.operands with
    | [] => misused "missing operand"
    | [source] => misusedWith 1 ("missing operand after ".toList ++ quoted source)
    | [source, target] =>
      let machine ← get
      match ← edit fun tree => tree.makeName machine.directory source.bytes target.bytes with
      | none => return 0
      | some fault =>
        let _ ← cannot ("cannot create link ".toList ++ quoted target ++ " to ".toList ++ quoted source) fault
        return 1
    | _ :: _ :: extra :: _ => misusedWith 1 ("extra operand ".toList ++ quoted extra)

end CounterCatalog.Shell.Tool
