import CounterCatalog.Shell.Tool.File.Directory
import CounterCatalog.Tree.Canonical

/-!
# Copying and moving files

`cp` copies files, and directories with all that is below them, and may make links instead; `mv` gives files other
names. Both decide first what becomes of a file that stands where another one is to go. A file is not put onto
itself, whether that is seen by its name or only by what it leads to.
-/

set_option autoImplicit false

namespace CounterCatalog.Shell.Tool

open Step

namespace Placing

/-- Which links among the sources stand for what they lead to. -/
inductive Follow where
  /-- None. -/
  | never
  /-- Those that are named. -/
  | named
  /-- All. -/
  | always
deriving DecidableEq

/-- What is done about a file that stands in the way. -/
inductive Clash where
  /-- It is replaced. -/
  | replaced
  /-- It is asked whether it is to be replaced. -/
  | asked
  /-- It stays. -/
  | kept
deriving DecidableEq

/-- What a copy is. -/
inductive Form where
  /-- A file with the same content. -/
  | content
  /-- An empty file. -/
  | empty
  /-- Another name of the same file. -/
  | name
  /-- A link. -/
  | link
deriving DecidableEq

/-- How files are copied or moved. -/
structure Wish where
  /-- They are moved. -/
  moves : Bool
  /-- Directories are copied. -/
  recursive : Bool
  /-- Which links are followed. -/
  follow : Follow
  /-- What a copy is. -/
  form : Form
  /-- What is done about a file in the way. -/
  clash : Clash
  /-- It stays if it is not older. -/
  updates : Bool
  /-- It is removed if it cannot be opened. -/
  forces : Bool
  /-- It is removed first. -/
  removes : Bool
  /-- How it is kept. -/
  backup? : Option Backup
  /-- The ending under which it is kept. -/
  suffix : Chars
  /-- Copies have the same permissions, if something has been said about that. -/
  modes? : Option Bool
  /-- It is told what is done. -/
  verbose : Bool

/-- A file at the end of a path. -/
structure File where
  /-- The path. -/
  path : Chars
  /-- What it is known by. -/
  handle : Handle
  /-- What it is. -/
  node : Node

/-- The file at the end of a path. -/
def fileAt (machine : Machine) (follow : Bool) (path : Chars) : Except Fault File :=
  let found :=
    if follow then machine.tree.locate machine.directory path.bytes
    else machine.tree.view machine.directory path.bytes
  found.map fun (handle, node) => ⟨path, handle, node⟩

/-- What is to be done about two files of which one is to take the place of the other. -/
inductive Verdict where
  /-- They are different enough. -/
  | differs
  /-- There is nothing to be done. -/
  | done
  /-- They are the same. -/
  | same
deriving DecidableEq

/-- A node is a link. -/
def isLink (node : Node) : Bool :=
  node matches .link _

/-- The verdict about files that are the same without any link, or that a link leads to. -/
def verdictOnLinks (wish : Wish) (machine : Machine) (source target first second : File) : Verdict :=
  let sameEntry := isSameName machine source.path target.path
  let sameLink := first.handle = second.handle
  let many := 1 < nameCount machine.tree second.handle second.node
  if wish.backup?.isSome then
    if sameLink then if sameEntry then .same else .differs
    else if !wish.moves && wish.follow ≠ .never && isLink first.node && !isLink second.node then .same
    else .differs
  else if (wish.moves || wish.removes) && isLink second.node then .differs
  else if wish.removes && sameLink && many && !sameEntry then .differs
  else if !isLink first.node && !isLink second.node && !sameLink then .differs
  else if !isLink first.node && !isLink second.node && wish.form = .name then .done
  else if wish.moves && isLink source.node && many then
    match machine.tree.canonical machine.directory source.path.bytes with
    | .ok path => if isSameName machine (Chars.ofBytes path) target.path then .same else .differs
    | .error _ => .differs
  else if wish.form = .link && isLink second.node then .differs
  else if wish.follow = .never then
    match fileAt machine true source.path, fileAt machine true target.path with
    | .ok a, .ok b =>
      if a.handle ≠ b.handle then .differs
      else if wish.form = .name then if isLink second.node then .differs else .done
      else .same
    | _, _ => .differs
  else .same

/-- The verdict about a file and one that stands where it is to go. -/
def verdict (wish : Wish) (machine : Machine) (source target : File) : Verdict :=
  let same := source.handle = target.handle
  if same && wish.form = .name then .done
  else if wish.follow = .never then
    if isLink source.node && isLink target.node then
      if isSameName machine source.path target.path then .same
      else if wish.backup?.isNone && same then (if wish.moves then .same else .done)
      else .differs
    else verdictOnLinks wish machine source target source target
  else if !same then .differs
  else
    match fileAt machine false source.path, fileAt machine false target.path with
    | .ok first, .ok second =>
      if isLink first.node && isLink second.node && wish.removes then .differs
      else verdictOnLinks wish machine source target first second
    | _, _ => .differs

/-- The files that have been taken and made, by path. -/
structure Log where
  /-- Those that have been taken. -/
  taken : List (Chars × Handle)
  /-- Those that have been made. -/
  made : List (Chars × Handle)

/-- What is to be done about a target after one has looked at what stands there. -/
inductive Ground where
  /-- Nothing more, with success or without. -/
  | over (ok : Bool)
  /-- It is free, or has been cleared; a file that stood there is kept at a path. -/
  | free (kept? : Option Chars)
  /-- Something stands there. -/
  | taken (file : File)

/-- Makes room for a file where another one stands. -/
def clear (wish : Wish) (top : Bool) (log : Log) (source target : File) : Step Ground := do
  let machine ← get
  let fail := fun words : Chars => do
    report words
    return Ground.over false
  let fromDirectory := source.node.isDirectory
  let toDirectory := target.node.isDirectory
  if fromDirectory && !toDirectory && !(wish.moves && wish.backup?.isSome) then
    return ← fail ("cannot overwrite non-directory ".toList ++ quoted target.path ++ " with directory ".toList ++
      quoted source.path)
  if !toDirectory && top && wish.backup? ≠ some .numbered && log.made.contains (target.path, target.handle) then
    return ← fail ("will not overwrite just-created ".toList ++ quoted target.path ++ " with ".toList ++
      quoted source.path)
  if !fromDirectory && toDirectory && !(wish.moves && wish.backup?.isSome) then
    return ← fail ("cannot overwrite directory ".toList ++ quoted target.path ++ " with non-directory".toList)
  let dotted := [['.'], ['.', '.']].contains (baseName source.path)
  match wish.backup? with
  | some backup =>
    if dotted || (!wish.moves && toDirectory) then return .taken target
    let kept := Backup.pathFor machine backup wish.suffix target.path
    let simple := withoutSlashes target.path ++ wish.suffix
    if backup ≠ .numbered && (fileAt machine false simple).toOption.any (fun file => file.handle = source.handle) then
      return ← fail ("backing up ".toList ++ quoted target.path ++ " might destroy source;  ".toList ++
        quoted source.path ++ (if wish.moves then " not moved" else " not copied").toList)
    match ← edit fun tree => tree.rename machine.directory (withoutSlashes target.path).bytes kept.bytes with
    | none => return .free (some kept)
    | some fault =>
      let _ ← cannot ("cannot backup ".toList ++ quoted target.path) fault
      return .over false
  | none =>
    let special := wish.follow = .never && !(source.node matches .file _ _)
    if wish.moves || toDirectory || !(wish.removes || special) then return .taken target
    match ← edit fun tree => tree.removeName machine.directory target.path.bytes with
    | none =>
      announce wish.verbose ("removed ".toList ++ quoted target.path)
      return .free none
    | some fault =>
      let _ ← cannot ("cannot remove ".toList ++ quoted target.path) fault
      return .over false

/-- Looks at what stands where a file is to go, and makes room for it. -/
def prepare (wish : Wish) (top : Bool) (log : Log) (source : File) (target : Chars) : Step Ground := do
  let machine ← get
  let isFile := source.node matches .file _ _ | .device _ | .stream _ | .program _
  let bare := !isFile || wish.moves || wish.form = .name || wish.form = .link || wish.backup?.isSome || wish.removes
  match fileAt machine (!bare) (if target.isEmpty && wish.moves then ['.'] else target) with
  | .error .notFound => return .free none
  | .error fault =>
    if fault = .tooManyLinks ∧ wish.forces then return .free none
    let _ ← cannot ("cannot stat ".toList ++ quoted target) fault
    return .over false
  | .ok found =>
    let there : File := { found with path := target }
    match if wish.clash = .kept then Verdict.differs else verdict wish machine source there with
    | .same =>
      report (quoted source.path ++ " and ".toList ++ quoted target ++ " are the same file".toList)
      return .over false
    | found =>
      if wish.updates && !source.node.isDirectory && source.handle ≤ there.handle then return .over true
      if wish.moves || !source.node.isDirectory then
        if wish.clash = .kept then return .over true
        if wish.clash = .asked then
          unless ← confirm ("overwrite ".toList ++ quoted target ++ "? ".toList) do return .over true
      if found = .done then return .over true
      clear wish top log source there

/-- What is told of a file that has been copied or moved. -/
def told (source target : Chars) (kept? : Option Chars) : Chars :=
  let kept := match kept? with | some path => " (backup: ".toList ++ quoted path ++ [')'] | none => []
  quoted source ++ " -> ".toList ++ quoted target ++ kept

/-- The permissions of a copy that did not exist before. -/
def newMode (wish : Wish) (machine : Machine) (directory : Bool) (mode : Nat) : Nat :=
  match wish.modes? with
  | some true => mode
  | some false => openFor machine (if directory then 0o777 else 0o666)
  | none => openFor machine (mode &&& 0o777)

/-- Writes a content to where a path leads, or makes a new file there. -/
def writeCopy (wish : Wish) (source : File) (target : Chars) (isNew : Bool) : Step Bool := do
  let failed := cannot ("cannot create regular file ".toList ++ quoted target)
  let result ←
    if wish.form = .empty then pure (.ok [])
    else contentOf (if source.path = ['-'] then "./-".toList else source.path)
  match result with
  | .error .isADirectory => cannot ("error reading ".toList ++ quoted source.path) .isADirectory
  | .error fault => cannot ("cannot open ".toList ++ quoted source.path ++ " for reading".toList) fault
  | .ok content =>
    let start ← get
    let mut isNew := isNew
    if !isNew && wish.forces && (start.openToWrite target id).toOption.isNone then
      match ← edit fun tree => tree.removeName start.directory target.bytes with
      | none =>
        announce wish.verbose ("removed ".toList ++ quoted target)
        isNew := true
      | some fault => return ← cannot ("cannot remove ".toList ++ quoted target) fault
    let machine ← get
    if isNew then
      if (fileAt machine false target).toOption.any fun file => isLink file.node then
        return ← refuse ("not writing through dangling symlink ".toList ++ quoted target)
      if target.getLast? = some '/' then
        let faulty := (machine.tree.view machine.directory (Chars.bytes (dirName target))).toOption.isNone
        return ← failed (if faulty then .notFound else .notADirectory)
    match machine.openToWrite target (if wish.form = .empty then id else fun _ => []) with
    | .error fault => failed fault
    | .ok (opening, after) =>
      match opening.source with
      | .file handle =>
        let tree := if wish.form = .empty then after.tree else after.tree.writeAt handle 0 content
        let mode := Tree.modeOf source.node
        let tree :=
          if isNew then tree.setMode handle (newMode wish machine false mode)
          else if wish.modes? = some true then tree.setMode handle mode else tree
        set { after with tree := tree }
        return true
      | _ =>
        let (number, machine) := after.openNew opening
        let streams := machine.streams
        set (machine.lead 1 number)
        let result ← if content.isEmpty then pure (.ok ()) else writeTo 1 content
        modify fun machine => { machine with streams := streams }
        match result with
        | .ok _ => return true
        | .error fault => cannot ("error writing ".toList ++ quoted target) fault

/-- Makes what a copy is that is no directory, where there is room for it. -/
def makeCopy (wish : Wish) (follow : Bool) (source : File) (target : Chars) (isNew : Bool) : Step Bool := do
  let machine ← get
  let path := if target.isEmpty then target else withoutSlashes target
  let replaced ←
    if (wish.form = .name || wish.form = .link) && wish.forces then do
      let _ ← edit fun tree => tree.removeName machine.directory path.bytes
      pure true
    else pure false
  let asked := wish.clash = .asked && wish.form = .name && !replaced
  if asked then
    let _ ← edit fun tree => tree.removeName machine.directory path.bytes
  match wish.form, source.node with
  | .link, _ =>
    let place := machine.tree.directory machine.directory (Chars.bytes (dirName target))
    if source.path.head? ≠ some '/' && place.toOption.any fun handle => handle ≠ machine.directory then
      return ← refuse (fileName target ++ ": can make relative symbolic links only in current directory".toList)
    match ← edit fun tree => tree.makeLink machine.directory target.bytes source.path.bytes with
    | none => return true
    | some fault =>
      cannot ("cannot create symbolic link ".toList ++ quoted target ++ " to ".toList ++ quoted source.path) fault
  | .name, node =>
    let change := fun tree : Tree => do
      let slot ← tree.slotOf machine.directory target.bytes .alreadyExists
      tree.checkFree slot
      if slot.slash then throw .notFound
      if node.isDirectory then throw .notPermitted
      return tree.bind slot.directory slot.name source.handle
    match ← edit change with
    | none => return true
    | some fault =>
      cannot ("cannot create hard link ".toList ++ quoted target ++ " to ".toList ++ quoted source.path) fault
  | _, .link text =>
    if follow then return false
    match ← edit fun tree => tree.makeLink machine.directory target.bytes text with
    | none => return true
    | some fault => cannot ("cannot create symbolic link ".toList ++ quoted target) fault
  | _, _ => writeCopy wish source target isNew

/-- Copies something to where there is room for it, and all that is below it, at most as deep as given; `outer` are
the directories that are being copied, and `begun?` is the first directory that has been made for the source that
was named. -/
def copy (wish : Wish) (root : Chars × Chars) : Nat → Bool → Log → List Handle → Option Handle → Chars → Chars →
    Step Bool
  | 0, _, _, _, _, _, _ => return false
  | depth + 1, top, log, outer, begun?, source, target => do
    let machine ← get
    let follow := wish.follow = .always || (wish.follow = .named && top)
    match fileAt machine follow source with
    | .error fault => cannot ("cannot stat ".toList ++ quoted source) fault
    | .ok file =>
      if file.node.isDirectory && !wish.recursive then
        return ← refuse ("-r not specified; omitting directory ".toList ++ quoted source)
      if top && !file.node.isDirectory && wish.backup?.isNone && log.taken.contains (source, file.handle) then
        report ("warning: source file ".toList ++ quoted source ++ " specified more than once".toList)
        return true
      match ← prepare { wish with follow := if follow then .always else .never } top log file target with
      | .over ok => return ok
      | ground =>
        let kept? := match ground with | .free kept? => kept? | _ => none
        let isNew := ground matches .free _
        match file.node with
        | .directory _ _ mode =>
          if some file.handle = begun? then
            return ← refuse ("cannot copy a directory, ".toList ++ quoted root.1 ++ ", into itself, ".toList ++
              quoted root.2)
          if outer.contains file.handle then
            return ← refuse ("cannot copy cyclic symbolic link ".toList ++ quoted source)
          if isNew then
            match ← edit fun tree =>
                tree.makeDirectory machine.directory target.bytes (newMode wish machine true mode) with
            | none => announce wish.verbose (told source target none)
            | some fault => return ← cannot ("cannot create directory ".toList ++ quoted target) fault
          let after ← get
          let first? :=
            if isNew && begun?.isNone then (after.tree.view after.directory target.bytes).toOption.map Prod.fst
            else begun?
          let results ← (pathsIn after file.handle source).mapM fun path =>
            copy wish root depth false log (file.handle :: outer) first? path (within target (baseName path))
          if !isNew && wish.modes? = some true then
            modify fun machine =>
              match machine.tree.locate machine.directory target.bytes with
              | .ok (handle, _) => { machine with tree := machine.tree.setMode handle mode }
              | .error _ => machine
          return results.all id
        | _ =>
          let made := (fileAt machine false target).toOption
          if top && wish.backup?.isNone && made.any (fun file => isLink file.node && log.made.contains (target, file.handle)) then
            return ← refuse ("will not copy ".toList ++ quoted source ++ " through just-created symlink ".toList ++
              quoted target)
          announce wish.verbose (told source target kept?)
          let done ← makeCopy wish follow file target isNew
          if !done then
            if let some kept := kept? then
              if (← edit fun tree => tree.rename machine.directory kept.bytes target.bytes).isNone then
                announce wish.verbose (quoted kept ++ " -> ".toList ++ quoted target ++ " (unbackup)".toList)
          return done

/-- Moves something to where there is room for it. -/
def move (wish : Wish) (log : Log) (source target : Chars) : Step Bool := do
  let machine ← get
  let rename := fun tree : Tree => tree.rename machine.directory source.bytes target.bytes
  let isFree := (fileAt machine false target) matches .error .notFound
  if isFree && (rename machine.tree).isOk then
    let _ ← edit rename
    announce wish.verbose ("renamed ".toList ++ told source target none)
    return true
  match fileAt machine false source with
  | .error fault => cannot ("cannot stat ".toList ++ quoted source) fault
  | .ok file =>
    match ← prepare wish true log file target with
    | .over ok => return ok
    | ground =>
      let kept? := match ground with | .free kept? => kept? | _ => none
      match ← edit rename with
      | none =>
        announce wish.verbose ("renamed ".toList ++ told source target kept?)
        return true
      | some .invalid =>
        refuse ("cannot move ".toList ++ quoted source ++ " to a subdirectory of itself, ".toList ++
          quoted target)
      | some .notEmpty => cannot ("cannot overwrite ".toList ++ quoted target) .notEmpty
      | some fault => cannot ("cannot move ".toList ++ quoted source ++ " to ".toList ++ quoted target) fault

/-- Takes sources to their targets, one after the other. -/
def placeAll (each : Log → Chars → Chars → Step Bool) (pathOf : Chars → Chars) (follow : Bool) :
    List Chars → Log → Step Bool
  | [], _ => return true
  | source :: rest, log => do
    let machine ← get
    let target := pathOf source
    let handleOf := fun (machine : Machine) (follow : Bool) (path : Chars) =>
      ((fileAt machine follow path).toOption.map fun file => (path, file.handle)).toList
    let done ← each log source target
    let after ← get
    let made := if done then handleOf after false target else []
    let others ← placeAll each pathOf follow rest
      ⟨handleOf machine follow source ++ log.taken, made ++ log.made⟩
    return done && others

/-- The words for what is preserved. -/
def preserveWords : List (String × String) :=
  ["mode", "timestamps", "ownership", "links", "context", "xattr", "all"].map fun word => (word, word)

/-- The things that are preserved, as a list says; nothing after a complaint about it. -/
def preserved (option : String) : List Chars → Step (Option (List String))
  | [] => return some []
  | word :: rest => do
    let some found ← choice option preserveWords word | return none
    return (← preserved option rest).map fun others => found :: others

/-- Whether permissions are preserved, as options say in turn; nothing after a complaint about them. -/
def modesOf : List (Char × Chars) → Option Bool → Step (Option (Option Bool))
  | [], found => return some found
  | (letter, word) :: rest, found => do
    let names := ["mode", "all"]
    match letter with
    | 'p' | 'a' => modesOf rest (some true)
    | 'ṗ' =>
      if word.isEmpty then return ← modesOf rest (some true)
      let some words ← preserved "--preserve" (Text.splitOn ',' word) | return none
      modesOf rest (if words.any names.contains then some true else found)
    | 'ṅ' =>
      let some words ← preserved "--no-preserve" (Text.splitOn ',' word) | return none
      modesOf rest (if words.any names.contains then some false else found)
    | _ => modesOf rest found

/-- What is done about files in the way, as options say. -/
def clashOf (options : Options) (letters : String) : Clash :=
  match options.lastOf letters with
  | some 'i' => .asked
  | some 'n' => .kept
  | _ => .replaced

end Placing

open Placing in
/-- Makes the directories that a path of a source has, in the target directory. -/
def makeBranch (wish : Wish) (target source : Chars) : Step Bool := do
  let fronts := (ancestors source).dropLast
  let machine ← get
  for front in fronts do
    let path := within target front
    match machine.tree.locate machine.directory front.bytes with
    | .error fault => return ← cannot ("failed to get attributes of ".toList ++ quoted front) fault
    | .ok (_, node) =>
      match (← get).tree.locate machine.directory path.bytes with
      | .ok (_, .directory _ _ _) => pure ()
      | .ok _ => return ← refuse (quoted path ++ " exists but is not a directory".toList)
      | .error _ =>
        match ← edit fun tree =>
            tree.makeDirectory machine.directory path.bytes (newMode wish machine true (Tree.modeOf node)) with
        | none => announce wish.verbose (front ++ " -> ".toList ++ path)
        | some fault => return ← cannot ("cannot make directory ".toList ++ quoted path) fault
  return true

open Placing in
/-- Copies files. -/
def cp : Tool := fun arguments =>
  withOptions (Backup.flags ++ taking [('t', "target-directory"), ('ṅ', "no-preserve"), ('Ṡ', "sparse")] ++
    perhaps [('ṗ', "preserve"), ('ṙ', "reflink"), ('ċ', "context")] ++
    flags [('a', "archive"), ('ȧ', "attributes-only"), ('ḋ', "copy-contents"), ('d', ""), ('P', "no-dereference"),
      ('f', "force"), ('H', ""), ('i', "interactive"), ('l', "link"), ('L', "dereference"), ('n', "no-clobber"),
      ('p', ""), ('r', "recursive"), ('R', ""), ('Ṗ', "parents"), ('Ṙ', "remove-destination"), ('s', "symbolic-link"),
      ('ṡ', "strip-trailing-slashes"), ('T', "no-target-directory"), ('u', "update"), ('v', "verbose"),
      ('x', "one-file-system"), ('Z', "")]) arguments fun options => do
    for (letter, word) in options.found do
      let check := fun (option : String) (words : List String) => do
        return (← choice option (words.map fun name => (name, name)) word).isSome
      if letter = 'Ṡ' then
        unless ← check "--sparse" ["never", "auto", "always"] do return 1
      if letter = 'ṙ' && !word.isEmpty then
        unless ← check "--reflink" ["auto", "always", "never"] do return 1
    let some modes? ← modesOf options.found none | return 1
    if options.has 'l' && options.has 's' then return ← misused "cannot make both hard and symbolic links"
    let clash := clashOf options "in"
    if options.hasAny "bḂS" && clash = .kept then
      return ← misused "options --backup and --no-clobber are mutually exclusive"
    let some (backup?, suffix) ← Backup.ofOptions options | return 1
    let recursive := options.hasAny "rRa"
    let wish : Wish :=
      { moves := false, recursive := recursive
        follow :=
          match options.lastOf "HLPda" with
          | some 'L' => .always
          | some 'H' => .named
          | some _ => .never
          | none => if recursive && !options.has 'l' then .never else .always
        form :=
          if options.has 'l' then .name else if options.has 's' then .link
          else if options.has 'ȧ' then .empty else .content
        clash := clash, updates := options.has 'u', forces := options.has 'f', removes := options.has 'Ṙ'
        backup? := backup?, suffix := suffix, modes? := modes?, verbose := options.has 'v' }
    match ← readTransfer options with
    | .error status => return status
    | .ok transfer =>
      if options.has 'Ṗ' && !transfer.into then
        return ← misused "with --parents, the destination must be a directory"
      let sources := if options.has 'ṡ' && transfer.into then transfer.sources.map withoutSlashes else transfer.sources
      let depth := (← get).tree.nodes.size + 2
      let pathOf := fun source : Chars =>
        if options.has 'Ṗ' then within transfer.target ((withoutSlashes source).dropWhile fun c => c = '/')
        else transfer.pathOf source
      let done ← placeAll (fun log source target => do
        if options.has 'Ṗ' then
          unless ← makeBranch wish transfer.target (withoutSlashes source) do return false
        let machine ← get
        let isFile := (fileAt machine true target).toOption.any fun file => file.node matches .file _ _
        let renamed := !transfer.into && wish.forces && wish.backup?.isSome && source = target && isFile
        if let (true, some backup) := (renamed, wish.backup?) then
          let kept := Backup.pathFor machine backup wish.suffix target
          copy { wish with backup? := none } (source, kept) depth true log [] none source kept
        else copy wish (source, target) depth true log [] none source target)
        pathOf (wish.follow ≠ .never) sources ⟨[], []⟩
      return if done then 0 else 1

open Placing in
/-- Moves files. -/
def mv : Tool := fun arguments =>
  withOptions (Backup.flags ++ taking [('t', "target-directory")] ++ flags [('f', "force"), ('i', "interactive"),
    ('n', "no-clobber"), ('T', "no-target-directory"), ('u', "update"), ('v', "verbose"), ('Z', "context"),
    ('ṡ', "strip-trailing-slashes")]) arguments fun options => do
    let clash := clashOf options "fin"
    if options.hasAny "bḂS" && clash = .kept then
      return ← misused "options --backup and --no-clobber are mutually exclusive"
    let some (backup?, suffix) ← Backup.ofOptions options | return 1
    let wish : Wish :=
      { moves := true, recursive := true, follow := .never, form := .content, clash := clash
        updates := options.has 'u', forces := false, removes := false, backup? := backup?, suffix := suffix
        modes? := some true, verbose := options.has 'v' }
    match ← readTransfer options with
    | .error status => return status
    | .ok transfer =>
      let sources := if options.has 'ṡ' then transfer.sources.map withoutSlashes else transfer.sources
      return if ← placeAll (move wish) transfer.pathOf false sources ⟨[], []⟩ then 0 else 1

end CounterCatalog.Shell.Tool
