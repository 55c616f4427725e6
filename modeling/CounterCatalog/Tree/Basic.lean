/-!
# File trees

A file tree is a store of nodes, known by handles: directories, files, symbolic links and devices. A
directory gives names to nodes and knows the directory above it. A node keeps its handle when its name
changes or goes away, so whoever holds a handle, a writer or a current directory, stays with its node
wherever that is moved to. Nodes are never taken out of the store.

`set` changes one node and `add` makes a new one, and neither changes any other (`get?_set_of_ne`,
`get?_add_of_lt`).
-/

set_option autoImplicit false

namespace CounterCatalog

/-- What a node of a file tree is known by. -/
abbrev Handle := Nat

/-- A name in a directory; its bytes need not be UTF-8. -/
abbrev Name := List UInt8

/-- Files that hold nothing, but answer to reading and writing. -/
inductive Device where
  /-- Swallows what is written and is always at its end. -/
  | null
  /-- Swallows what is written and never ends, with zeros. -/
  | zero
  /-- Refuses what is written and never ends, with zeros. -/
  | full
  /-- The terminal, which there is none of. -/
  | terminal
deriving DecidableEq

/-- What a handle stands for. -/
inductive Node where
  /-- A directory below another, with what its names stand for. -/
  | directory (above : Handle) (entries : List (Name × Handle)) (mode : Nat)
  /-- A regular file with its bytes and permissions. -/
  | file (content : List UInt8) (mode : Nat)
  /-- A symbolic link with the path it stands for. -/
  | link (target : List UInt8)
  /-- A device. -/
  | device (device : Device)
  /-- The open stream of whoever looks at it, by number. -/
  | stream (number : Nat)
  /-- A program of the system, by the name that it is known by. -/
  | program (name : String)
deriving DecidableEq

namespace Node

/-- A node is a directory. -/
def isDirectory : Node → Bool
  | directory _ _ _ => true
  | _ => false

/-- The path that a node stands for, if it is a symbolic link. -/
def target? : Node → Option (List UInt8)
  | link target => some target
  | _ => none

/-- The names of a node, if it is a directory. -/
def entries : Node → List (Name × Handle)
  | directory _ entries _ => entries
  | _ => []

/-- The permissions of a new file. -/
def fileMode : Nat := 0o644

/-- The permissions of a new directory, and of a file that can be run. -/
def openMode : Nat := 0o755

/-- A file with given permissions can be run when they let anyone run it. -/
def runs (mode : Nat) : Bool :=
  mode &&& 0o111 ≠ 0

end Node

/-- The nodes of a file tree, each at its handle. -/
structure Tree where
  /-- The nodes. -/
  nodes : Array Node
deriving DecidableEq

namespace Tree

/-- The handle of the root, which is its own parent. -/
def root : Handle := 0

/-- The tree that has only a root. -/
def empty : Tree := ⟨#[.directory root [] Node.openMode]⟩

/-- What a handle stands for. -/
def get? (tree : Tree) (handle : Handle) : Option Node :=
  tree.nodes[handle]?

/-- The tree with another node for a handle that is in use. -/
def set (tree : Tree) (handle : Handle) (node : Node) : Tree :=
  ⟨tree.nodes.setIfInBounds handle node⟩

/-- The handle for a new node, and the tree with it. -/
def add (tree : Tree) (node : Node) : Handle × Tree :=
  (tree.nodes.size, ⟨tree.nodes.push node⟩)

/-- A node is a directory. -/
def isDirectory (tree : Tree) (handle : Handle) : Bool :=
  (tree.get? handle).any Node.isDirectory

/-- What the names of a directory stand for. -/
def entries (tree : Tree) (directory : Handle) : List (Name × Handle) :=
  ((tree.get? directory).map Node.entries).getD []

/-- What a name in a directory stands for. -/
def child? (tree : Tree) (directory : Handle) (name : Name) : Option Handle :=
  ((tree.entries directory).find? fun entry => entry.1 = name).map Prod.snd

/-- The directory above a directory. -/
def above (tree : Tree) (directory : Handle) : Handle :=
  match tree.get? directory with
  | some (.directory above _ _) => above
  | _ => root

/-- The name of a directory in the directory above it, unless it has been taken out of that. -/
def nameOf? (tree : Tree) (directory : Handle) : Option Name :=
  ((tree.entries (tree.above directory)).find? fun entry => entry.2 = directory).map Prod.fst

/-- A directory that has been taken out of the directory above it takes no new names. -/
def isGone (tree : Tree) (directory : Handle) : Bool :=
  directory ≠ root && (tree.nameOf? directory).isNone

/-- The tree with other names in a directory. -/
def setEntries (tree : Tree) (directory : Handle) (entries : List (Name × Handle)) : Tree :=
  match tree.get? directory with
  | some (.directory above _ mode) => tree.set directory (.directory above entries mode)
  | _ => tree

/-- The tree with a name in a directory that stands for a node, whatever it stood for. -/
def bind (tree : Tree) (directory : Handle) (name : Name) (handle : Handle) : Tree :=
  let others := (tree.entries directory).filter fun entry => entry.1 ≠ name
  tree.setEntries directory (others ++ [(name, handle)])

/-- The tree without a name in a directory. -/
def unbind (tree : Tree) (directory : Handle) (name : Name) : Tree :=
  tree.setEntries directory ((tree.entries directory).filter fun entry => entry.1 ≠ name)

/-- The handle for a new node, and the tree with it under a name in a directory. -/
def place (tree : Tree) (directory : Handle) (name : Name) (node : Node) : Handle × Tree :=
  let (handle, tree) := tree.add node
  (handle, tree.bind directory name handle)

/-- The tree with a new directory under a name in a directory, and its handle. -/
def placeDirectory (tree : Tree) (directory : Handle) (name : Name) (mode : Nat) : Handle × Tree :=
  tree.place directory name (.directory directory [] mode)

/-- The names on the way down from the root to a directory, at most as many as given. -/
def wayWithin (tree : Tree) : Nat → Handle → Option (List Name)
  | 0, directory => if directory = root then some [] else none
  | depth + 1, directory =>
    if directory = root then some []
    else
      match tree.nameOf? directory, tree.wayWithin depth (tree.above directory) with
      | some name, some way => some (way ++ [name])
      | _, _ => none

/-- The names on the way down from the root to a directory, unless it can no longer be reached. -/
def wayTo? (tree : Tree) (directory : Handle) : Option (List Name) :=
  tree.wayWithin tree.nodes.size directory

/-- The path made of names on the way down from the root. -/
def pathOf (way : List Name) : List UInt8 :=
  0x2F :: [0x2F].intercalate way

/-- The regular files at and below a handle, at most as deep as given, each with the names on the way down
to it and its bytes. -/
def filesWithin (tree : Tree) : Nat → List Name → Handle → List (List Name × List UInt8)
  | 0, _, _ => []
  | depth + 1, way, handle =>
    match tree.get? handle with
    | some (.file content _) => [(way, content)]
    | some (.directory _ entries _) =>
      entries.flatMap fun entry => tree.filesWithin depth (way ++ [entry.1]) entry.2
    | _ => []

/-- The regular files below a directory, each with the names on the way down to it and its bytes. -/
def filesBelow (tree : Tree) (directory : Handle) : List (List Name × List UInt8) :=
  tree.filesWithin (tree.nodes.size + 1) [] directory

/-- A handle that is in use stands for what it was set to. -/
theorem get?_set_self {tree : Tree} {handle : Handle} {node : Node} (h : handle < tree.nodes.size) :
    (tree.set handle node).get? handle = some node := by
  simp [get?, set, h]

/-- Every other handle stands for what it stood for. -/
theorem get?_set_of_ne {tree : Tree} {handle other : Handle} {node : Node} (h : other ≠ handle) :
    (tree.set handle node).get? other = tree.get? other := by
  simp [get?, set, Array.getElem?_setIfInBounds_ne (Ne.symm h)]

/-- A handle that was in use stands for what it stood for. -/
theorem get?_add_of_lt {tree : Tree} {handle : Handle} {node : Node} (h : handle < tree.nodes.size) :
    (tree.add node).2.get? handle = tree.get? handle := by
  simp [get?, add, Array.getElem?_push, Nat.ne_of_lt h]

end Tree

end CounterCatalog
