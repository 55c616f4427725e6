import CounterCatalog.Shell.Tool.File.Common

/-!
# Removing files

`rm` removes names, and directories with all that is below them where that is asked for; it may ask about each of
them, or once about all. `unlink` removes one name.
-/

set_option autoImplicit false

namespace CounterCatalog.Shell.Tool

open Step

/-- When it is asked whether something is to be removed. -/
inductive Asking where
  /-- Never. -/
  | never
  /-- Once, where much is to be removed. -/
  | once
  /-- Each time. -/
  | always
deriving DecidableEq

/-- Tells what is removed with a directory, the deepest things first, at most as deep as given. -/
def announceRemoval : Nat → Chars → Step Unit
  | 0, _ => return ()
  | depth + 1, path => do
    let machine ← get
    match machine.tree.view machine.directory path.bytes with
    | .ok (handle, .directory _ _ _) =>
      (pathsIn machine handle path).forM (announceRemoval depth)
      announce true ("removed directory ".toList ++ quoted path)
    | _ => announce true ("removed ".toList ++ quoted path)

/-- Removes what is at and below a path, at most as deep as given, and asks about each thing. -/
def removeAsking (verbose : Bool) : Nat → Chars → Step Bool
  | 0, _ => return false
  | depth + 1, path => do
    let machine ← get
    let remove (change : Tree → Except Fault Tree) (words : String) : Step Bool := do
      unless ← confirm ("remove ".toList ++ words.toList ++ [' '] ++ quoted path ++ "? ".toList) do
        return true
      match ← edit change with
      | none =>
        announce verbose ((if words = "directory" then "removed directory " else "removed ").toList ++ quoted path)
        return true
      | some fault => cannot ("cannot remove ".toList ++ quoted path) fault
    match machine.tree.view machine.directory path.bytes with
    | .error fault => cannot ("cannot remove ".toList ++ quoted path) fault
    | .ok (handle, .directory _ entries _) =>
      let wanted ←
        if entries.isEmpty then pure true
        else confirm ("descend into directory ".toList ++ quoted path ++ "? ".toList)
      if !wanted then return true
      let results ← (pathsIn machine handle path).mapM (removeAsking verbose depth)
      let after ← get
      if !(after.tree.entries handle).isEmpty then return results.all id
      return results.all id && (← remove (fun tree =>
        tree.removeDirectory machine.directory path.bytes) "directory")
    | .ok (_, node) =>
      remove (fun tree => tree.removeName machine.directory path.bytes) (kindWords node)

/-- Removes one file, or a directory where that is asked for. -/
def removeOne (options : Options) (asks force : Bool) (path : Chars) : Step Bool := do
  let machine ← get
  let deep := options.hasAny "rR"
  let failed := cannot ("cannot remove ".toList ++ quoted path)
  let dotted := baseName path = ['.'] || baseName path = ['.', '.']
  match machine.tree.view machine.directory path.bytes with
  | .error fault =>
    if force ∧ (fault = .notFound ∨ fault = .notADirectory) then return true else failed fault
  | .ok (handle, .directory _ entries _) =>
    if !deep && !(options.has 'd' && entries.isEmpty) then
      failed (if options.has 'd' then .notEmpty else .isADirectory)
    else if dotted then
      refuse ("refusing to remove '.' or '..' directory: skipping ".toList ++ quoted path)
    else if handle = Tree.root then
      report "it is dangerous to operate recursively on '/'".toList
      report "use --no-preserve-root to override this failsafe".toList
      return false
    else if asks then removeAsking (options.has 'v') machine.tree.nodes.size path
    else
      if options.has 'v' then announceRemoval machine.tree.nodes.size path
      match ← edit fun tree => tree.removeAll machine.directory path.bytes with
      | none => return true
      | some fault => failed fault
  | .ok _ =>
    if asks then return ← removeAsking (options.has 'v') 1 path
    match ← edit fun tree => tree.removeName machine.directory path.bytes with
    | none =>
      announce (options.has 'v') ("removed ".toList ++ quoted path)
      return true
    | some fault => failed fault

/-- The words for when it is asked. -/
def askingWords : List (String × Asking) :=
  [("never", .never), ("no", .never), ("none", .never), ("once", .once), ("always", .always), ("yes", .always)]

/-- When it is asked, and whether nothing is said about what is missing, as options say in turn; nothing after a
complaint about them. -/
def askingOf : List (Char × Chars) → Asking × Bool → Step (Option (Asking × Bool))
  | [], found => return some found
  | (letter, word) :: rest, (asking, force) => do
    match letter with
    | 'f' => askingOf rest (.never, true)
    | 'i' => askingOf rest (.always, false)
    | 'I' => askingOf rest (.once, false)
    | 'ı' =>
      if word.isEmpty then return ← askingOf rest (.always, false)
      match ← choice "--interactive" askingWords word with
      | some found => askingOf rest (found, if found = .never then force else false)
      | none => return none
    | _ => askingOf rest (asking, force)

/-- Removes files, and directories where that is asked for. -/
def rm : Tool := fun arguments =>
  withOptions (flags [('f', "force"), ('r', "recursive"), ('R', ""), ('i', ""), ('I', ""), ('d', "dir"),
    ('v', "verbose"), ('ȯ', "one-file-system"), ('ṅ', "no-preserve-root")] ++
    perhaps [('ı', "interactive"), ('ṗ', "preserve-root")]) arguments fun options => do
    let some (asking, force) ← askingOf options.found (.never, false) | return 1
    if let some word := (options.values 'ṗ').find? fun word => !word.isEmpty && word ≠ "all".toList then
      report ("unrecognized --preserve-root argument: ".toList ++ quoted word)
      return 1
    let count := options.operands.length
    if count = 0 then return ← if force then pure 0 else misused "missing operand"
    let deep := options.hasAny "rR"
    if asking = .once ∧ (3 < count ∨ deep) then
      let words := Chars.ofNat count ++ (if count = 1 then " argument" else " arguments").toList
      let question := "remove ".toList ++ words ++ (if deep then " recursively? " else "? ").toList
      unless ← confirm question do return 0
    forAll options.operands (removeOne options (asking = .always) force)

/-- Removes one name. -/
def unlink : Tool := fun arguments =>
  withOptions [] arguments fun options => do
    match options.operands with
    | [] => misused "missing operand"
    | [path] =>
      let machine ← get
      match ← edit fun tree => tree.removeName machine.directory path.bytes with
      | none => return 0
      | some fault =>
        let _ ← cannot ("cannot unlink ".toList ++ quoted path) fault
        return 1
    | _ :: extra :: _ => misusedWith 1 ("extra operand ".toList ++ quoted extra)

end CounterCatalog.Shell.Tool
