import CounterCatalog.Shell.Tool.File.Common

/-!
# Making and removing directories

`mkdir` makes directories, and those above them where that is asked for; `rmdir` removes empty ones, and then those
above them.
-/

set_option autoImplicit false

namespace CounterCatalog.Shell.Tool

open Step

/-- The paths of a path's directories and the path itself, the shortest first. -/
def ancestors (path : Chars) : List Chars :=
  let steps := Text.splitOn '/' path
  ((List.range steps.length).map fun i => ['/'].intercalate (steps.take (i + 1))).filter fun front =>
    front.getLast? ≠ some '/' && !front.isEmpty

/-- Makes directories along a path where they are missing. -/
def makeParents (verbose : Bool) (mode : Nat) : List Chars → Step Bool
  | [] => return true
  | path :: rest => do
    let machine ← get
    match machine.tree.locate machine.directory path.bytes with
    | .ok (_, .directory _ _ _) => makeParents verbose mode rest
    | found =>
      let last := rest.isEmpty
      let bits := if last then mode else openFor machine 0o777 ||| 0o300
      match ← edit fun tree => tree.makeDirectory machine.directory path.bytes bits with
      | none =>
        announce verbose ((← get).title ++ ": created directory ".toList ++ quoted path)
        makeParents verbose mode rest
      | some fault =>
        let fault := if found.isOk ∧ !last then .notADirectory else fault
        cannot ("cannot create directory ".toList ++ quoted path) fault

/-- Makes directories. -/
def mkdir : Tool := fun arguments =>
  withOptions (taking [('m', "mode")] ++ flags [('p', "parents"), ('v', "verbose"), ('Z', "")] ++
    perhaps [('ż', "context")]) arguments fun options => do
      if options.operands.isEmpty then return ← misused "missing operand"
      let machine ← get
      let mode? :=
        match options.value? 'm' with
        | none => some (openFor machine 0o777)
        | some text => (Mode.parse? text).map (Mode.ofNewDirectory machine.mask)
      match mode? with
      | none =>
        report ("invalid mode ".toList ++ quoted ((options.value? 'm').getD []))
        return 1
      | some mode =>
        forAll options.operands fun path => do
          if options.has 'p' && !path.isEmpty then makeParents (options.has 'v') mode (ancestors path)
          else
            match ← edit fun tree => tree.makeDirectory machine.directory path.bytes mode with
            | none =>
              announce (options.has 'v') (machine.title ++ ": created directory ".toList ++ quoted path)
              return true
            | some fault => cannot ("cannot create directory ".toList ++ quoted path) fault

/-- Removes directories, each in the next one, up to the first that cannot be removed; given whether the first one
is what has been asked for. -/
def removeDirectories (options : Options) (asked : Bool) : List Chars → Step Bool
  | [] => return true
  | path :: rest => do
    let machine ← get
    announce (options.has 'v') (machine.title ++ ": removing directory, ".toList ++ quoted path)
    match ← edit fun tree => tree.removeDirectory machine.directory path.bytes with
    | none => removeDirectories options false rest
    | some fault =>
      if fault = .notEmpty ∧ options.has 'ı' then return true
      let bare := machine.tree.view machine.directory (Chars.bytes (withoutSlashes path))
      let isLink := bare matches .ok (_, .link _)
      if asked && fault = .notADirectory && path.getLast? = some '/' && isLink &&
          (machine.tree.directory machine.directory path.bytes).isOk then
        return ← refuse ("failed to remove ".toList ++ quoted path ++ ": Symbolic link not followed".toList)
      let what := if asked ∨ fault = .notADirectory then "failed to remove " else "failed to remove directory "
      cannot (what.toList ++ quoted path) fault

/-- Removes empty directories. -/
def rmdir : Tool := fun arguments =>
  withOptions (flags [('p', "parents"), ('v', "verbose"), ('ı', "ignore-fail-on-non-empty")]) arguments
    fun options => do
    if options.operands.isEmpty then return ← misused "missing operand"
    forAll options.operands fun path => do
      let above := (ancestors (withoutSlashes path)).dropLast.reverse
      removeDirectories options true (path :: if options.has 'p' then above else [])

end CounterCatalog.Shell.Tool
