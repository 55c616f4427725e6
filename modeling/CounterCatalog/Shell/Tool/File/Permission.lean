import CounterCatalog.Shell.Tool.File.Common

/-!
# Changing permissions

`chmod` changes the permissions of files, and of all that is below directories where that is asked for. Permissions
that are to be taken away look like options.
-/

set_option autoImplicit false

namespace CounterCatalog.Shell.Tool

open Step

namespace Permission

/-- What is told of each file. -/
inductive Telling where
  /-- Nothing. -/
  | nothing
  /-- What has changed. -/
  | changes
  /-- What has become of it. -/
  | everything
deriving DecidableEq

/-- How permissions are changed. -/
structure Wish where
  /-- The changes. -/
  changes : List Mode.Change
  /-- The permissions that are kept back. -/
  mask : Nat
  /-- Directories are gone through. -/
  deep : Bool
  /-- What is told. -/
  telling : Telling
  /-- Nothing is said about what cannot be done. -/
  silent : Bool
  /-- It is told where permissions are kept back that would have been taken away. -/
  wary : Bool

/-- Permissions in digits and letters. -/
def described (mode : Nat) : Chars :=
  Mode.digits mode ++ " (".toList ++ Mode.letters mode ++ [')']

/-- Tells something about a file that could not be changed. -/
def Wish.fail (wish : Wish) (message what : Chars) : Step Bool := do
  unless wish.silent do report message
  announce (wish.telling = .everything) what
  return false

/-- Changes the permissions of a node. -/
def Wish.change (wish : Wish) (path : Chars) (handle : Handle) (node : Node) : Step Bool := do
  let old := Tree.modeOf node
  let directory := node.isDirectory
  let new := Mode.adjust directory wish.mask wish.changes old
  modify fun machine => { machine with tree := machine.tree.setMode handle new }
  if old = new then
    announce (wish.telling = .everything) ("mode of ".toList ++ quoted path ++ " retained as ".toList ++ described old)
  else
    announce (wish.telling ≠ .nothing)
      ("mode of ".toList ++ quoted path ++ " changed from ".toList ++ described old ++ " to ".toList ++ described new)
  let expected := Mode.adjust directory 0 wish.changes old
  if !wish.wary || Mode.without new expected = 0 then return true
  refuse (fileName path ++ ": new permissions are ".toList ++ Mode.letters new ++ ", not ".toList ++
    Mode.letters expected)

/-- Changes the permissions at and below a path, at most as deep as given. -/
def Wish.run (wish : Wish) : Nat → Bool → Chars → Step Bool
  | 0, _, _ => return false
  | depth + 1, top, path => do
    let machine ← get
    let lost := quoted path ++ " could not be accessed".toList
    match machine.tree.view machine.directory path.bytes with
    | .ok (_, .link _) =>
      if !top then
        announce (wish.telling = .everything)
          ("neither symbolic link ".toList ++ quoted path ++ " nor referent has been changed".toList)
        return true
      match machine.tree.locate machine.directory path.bytes with
      | .ok (handle, node) => below depth path handle node
      | .error .tooManyLinks =>
        wish.fail ("cannot access ".toList ++ quoted path ++ ": ".toList ++ Fault.tooManyLinks.reason.toList) lost
      | .error _ => wish.fail ("cannot operate on dangling symlink ".toList ++ quoted path) lost
    | .ok (handle, node) => below depth path handle node
    | .error fault => wish.fail ("cannot access ".toList ++ quoted path ++ ": ".toList ++ fault.reason.toList) lost
where
  /-- Changes the permissions of a node at a path, and of what is below it. -/
  below (depth : Nat) (path : Chars) (handle : Handle) (node : Node) : Step Bool := do
    if wish.deep && handle = Tree.root then
      report "it is dangerous to operate recursively on '/'".toList
      report "use --no-preserve-root to override this failsafe".toList
      return false
    let done ← wish.change path handle node
    if !wish.deep ∨ !node.isDirectory then return done
    let results ← (pathsIn (← get) handle path).mapM (wish.run depth false)
    return done && results.all id

/-- A word is one that changes permissions, although it looks like an option. -/
def isChange (word : Chars) : Bool :=
  match word with
  | '-' :: letters =>
    let front := letters.takeWhile fun c => "Rcfv".toList.contains c
    ((letters.drop front.length).head?).any "rwxXstugoa,+=01234567".toList.contains
  | _ => false

end Permission

open Permission in
/-- Changes permissions. -/
def chmod : Tool := fun arguments =>
  let front := arguments.takeWhile fun word => word ≠ ['-', '-']
  let changes := front.filter isChange
  let others := (front.filter fun word => !isChange word) ++ arguments.drop front.length
  withOptions (taking [('ṙ', "reference")] ++ flags [('R', "recursive"), ('v', "verbose"), ('c', "changes"),
    ('f', "silent"), ('f', "quiet"), ('ṗ', "preserve-root"), ('ṅ', "no-preserve-root")]) others fun options => do
    let machine ← get
    let depth := machine.tree.nodes.size + 1
    let wish : Wish :=
      { changes := [], mask := machine.mask, deep := options.has 'R'
        telling :=
          match options.lastOf "vc" with
          | some 'v' => .everything
          | some _ => .changes
          | none => .nothing
        silent := options.has 'f', wary := !changes.isEmpty }
    let words := if changes.isEmpty then none else some ([','].intercalate changes)
    match options.value? 'ṙ' with
    | some reference =>
      if words.isSome then return ← misused "cannot combine mode and --reference options"
      if options.operands.isEmpty then return ← misused "missing operand"
      match machine.tree.locate machine.directory reference.bytes with
      | .error fault =>
        let _ ← cannot ("failed to get attributes of ".toList ++ quoted reference) fault
        return 1
      | .ok (_, node) =>
        forAll options.operands ({ wish with changes := Mode.same (Tree.modeOf node) }.run depth true)
    | none =>
      match words.toList ++ options.operands with
      | [] => misused "missing operand"
      | [mode] =>
        if words.isSome then misused "missing operand"
        else misusedWith 1 ("missing operand after ".toList ++ quoted ((arguments.getLast?).getD mode))
      | mode :: paths =>
        match Mode.parse? mode with
        | none => misusedWith 1 ("invalid mode: ".toList ++ quoted mode)
        | some changes => forAll paths ({ wish with changes := changes }.run depth true)

end CounterCatalog.Shell.Tool
