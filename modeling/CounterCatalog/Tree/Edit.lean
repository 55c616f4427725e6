import CounterCatalog.Tree.File

/-!
# Changing the names in a file tree

Names are made, taken away and moved as the system does it: a directory that is taken away has to be empty, a
directory cannot be moved into itself, and in a directory that is gone nothing can be made. A link at the end
of a path is never followed.
-/

set_option autoImplicit false

namespace CounterCatalog.Tree

/-- A name in a directory, and what it stands for if it is taken. -/
structure Slot where
  /-- The directory. -/
  directory : Handle
  /-- The name. -/
  name : Name
  /-- Slashes follow the name. -/
  slash : Bool
  /-- What stands there. -/
  found? : Option (Handle × Node)

/-- The name that a path ends with; `onDot` is the fault of a path that ends with a step that is no name. -/
def slotOf (tree : Tree) (cwd : Handle) (path : List UInt8) (onDot : Fault) : Except Fault Slot :=
  match tree.placeOf .kept cwd path with
  | .error fault => .error fault
  | .ok ⟨directory, .name name slash⟩ =>
    if nameLimit < name.length then .error .nameTooLong
    else
      let found? := (tree.child? directory name).bind fun handle =>
        (tree.get? handle).map fun node => (handle, node)
      .ok ⟨directory, name, slash, found?⟩
  | .ok _ => .error onDot

/-- The slot can take something new. -/
def checkFree (tree : Tree) (slot : Slot) : Except Fault Unit :=
  if slot.found?.isSome then .error .alreadyExists
  else if tree.isGone slot.directory then .error .notFound
  else .ok ()

/-- The tree with a new directory at a path. -/
def makeDirectory (tree : Tree) (cwd : Handle) (path : List UInt8) (mode : Nat) : Except Fault Tree := do
  let slot ← tree.slotOf cwd path .alreadyExists
  tree.checkFree slot
  return (tree.placeDirectory slot.directory slot.name mode).2

/-- The tree with a new link at a path. -/
def makeLink (tree : Tree) (cwd : Handle) (path target : List UInt8) : Except Fault Tree := do
  if target.isEmpty then throw .notFound
  let slot ← tree.slotOf cwd path .alreadyExists
  tree.checkFree slot
  if slot.slash then throw .notFound
  return (tree.place slot.directory slot.name (.link target)).2

/-- The tree with another name for what stands at a path, which may not be a directory. -/
def makeName (tree : Tree) (cwd : Handle) (old new : List UInt8) : Except Fault Tree := do
  let (handle, node) ← tree.view cwd old
  let slot ← tree.slotOf cwd new .alreadyExists
  tree.checkFree slot
  if slot.slash then throw .notFound
  if node.isDirectory then throw .notPermitted
  return tree.bind slot.directory slot.name handle

/-- The tree without the name at the end of a path, which may not stand for a directory. -/
def removeName (tree : Tree) (cwd : Handle) (path : List UInt8) : Except Fault Tree := do
  let slot ← tree.slotOf cwd path .isADirectory
  match slot.found? with
  | none => throw .notFound
  | some (_, node) =>
    if node.isDirectory then throw .isADirectory
    if slot.slash then throw .notADirectory
    return tree.unbind slot.directory slot.name

/-- The tree without the empty directory at a path. -/
def removeDirectory (tree : Tree) (cwd : Handle) (path : List UInt8) : Except Fault Tree := do
  let slot ← tree.slotOf cwd path .invalid
  match slot.found? with
  | none => throw .notFound
  | some (_, .directory _ entries _) =>
    if !entries.isEmpty then throw .notEmpty
    return tree.unbind slot.directory slot.name
  | some _ => throw .notADirectory

/-- A directory is, or lies below, another one, at most as deep as given. -/
def liesWithin (tree : Tree) (outer : Handle) : Nat → Handle → Bool
  | 0, directory => directory = outer
  | depth + 1, directory =>
    directory = outer || (directory ≠ root && tree.liesWithin outer depth (tree.above directory))

/-- The tree with a directory below another one. -/
def setAbove (tree : Tree) (directory above : Handle) : Tree :=
  match tree.get? directory with
  | some (.directory _ entries mode) => tree.set directory (.directory above entries mode)
  | _ => tree

/-- The tree in which what stands at a path has another name, which it may take from something else. -/
def rename (tree : Tree) (cwd : Handle) (old new : List UInt8) : Except Fault Tree := do
  let source ← tree.slotOf cwd old .busy
  let target ← tree.slotOf cwd new .busy
  match source.found? with
  | none => throw .notFound
  | some (handle, node) =>
    let isDirectory := node.isDirectory
    if !isDirectory ∧ (source.slash ∨ target.slash) then throw .notADirectory
    if isDirectory ∧ tree.liesWithin handle tree.nodes.size target.directory then throw .invalid
    match target.found? with
    | some (there, other) =>
      if there = handle then return tree
      if isDirectory ∧ !other.isDirectory then throw .notADirectory
      if !isDirectory ∧ other.isDirectory then throw .isADirectory
      if other.isDirectory ∧ !other.entries.isEmpty then throw .notEmpty
    | none => if tree.isGone target.directory then throw .notFound
    let moved := (tree.unbind source.directory source.name).bind target.directory target.name handle
    return if isDirectory then moved.setAbove handle target.directory else moved

/-- The tree without a name in a directory and without all names below it, at most as deep as given. -/
def removeAllIn (tree : Tree) : Nat → Handle → Name → Tree
  | 0, directory, name => tree.unbind directory name
  | depth + 1, directory, name =>
    let emptied :=
      match tree.child? directory name with
      | some handle =>
        (tree.entries handle).foldl (fun (rest : Tree) (entry : Name × Handle) =>
          rest.removeAllIn depth handle entry.1) tree
      | none => tree
    emptied.unbind directory name

/-- The tree without what stands at a path and all that is below it. -/
def removeAll (tree : Tree) (cwd : Handle) (path : List UInt8) : Except Fault Tree := do
  let slot ← tree.slotOf cwd path .invalid
  match slot.found? with
  | none => throw .notFound
  | some (_, node) =>
    if slot.slash ∧ !node.isDirectory then throw .notADirectory
    return tree.removeAllIn tree.nodes.size slot.directory slot.name

/-- The tree with other permissions for a node. -/
def setMode (tree : Tree) (handle : Handle) (mode : Nat) : Tree :=
  match tree.get? handle with
  | some (.file content _) => tree.set handle (.file content mode)
  | some (.directory above entries _) => tree.set handle (.directory above entries mode)
  | _ => tree

/-- The permissions of a node. -/
def modeOf : Node → Nat
  | .file _ mode | .directory _ _ mode => mode
  | .program _ => Node.openMode
  | .link _ => 0o777
  | .device _ | .stream _ => 0o666

end CounterCatalog.Tree
