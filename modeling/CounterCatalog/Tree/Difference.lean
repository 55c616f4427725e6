import CounterCatalog.Tree.Basic

/-!
# What has changed in a file tree

`changes` lists what has to be done to one tree so that it becomes another: names to take away, longest ways
first, and then directories, files and links to put in place, shortest ways first, so that a directory is
there before what is in it.
-/

set_option autoImplicit false

namespace CounterCatalog.Tree

/-- Something to be done at the end of a way from the root. -/
inductive Change where
  /-- Something is to stand there. -/
  | put (way : List Name) (node : Node)
  /-- Nothing is to stand there any more. -/
  | remove (way : List Name)
deriving DecidableEq

/-- What stands at and below a handle, at most as deep as given, with the names on the way down to it. -/
def nodesWithin (tree : Tree) : Nat → List Name → Handle → List (List Name × Node)
  | 0, _, _ => []
  | depth + 1, way, handle =>
    match tree.get? handle with
    | none => []
    | some node =>
      (way, node) :: node.entries.flatMap fun entry =>
        tree.nodesWithin depth (way ++ [entry.1]) entry.2

/-- Everything that stands below the root, with the names on the way down to it. -/
def reachable (tree : Tree) : List (List Name × Node) :=
  (tree.nodesWithin (tree.nodes.size + 1) [] root).drop 1

/-- Two nodes look the same to whoever reads them: directories do whatever is in them. -/
def alike : Node → Node → Bool
  | .directory _ _ mode, .directory _ _ other => mode = other
  | node, other => node = other

/-- What stands in the second tree where something else or nothing stands in the first, short ways
first. -/
def additions (before after : Tree) : List Change :=
  let old := before.reachable
  let found := after.reachable.filter fun item =>
    !(old.any fun other => other.1 = item.1 && alike other.2 item.2)
  let ordered := found.mergeSort fun a b => decide (a.1.length ≤ b.1.length)
  ordered.map fun item => .put item.1 item.2

/-- What stands in the first tree where nothing stands in the second, long ways first. -/
def removals (before after : Tree) : List Change :=
  let new := after.reachable
  let found := before.reachable.filter fun item => !(new.any fun other => other.1 = item.1)
  let ordered := found.mergeSort fun a b => decide (b.1.length ≤ a.1.length)
  ordered.map fun item => .remove item.1

/-- What has to be done to the first tree so that it becomes the second. -/
def changes (before after : Tree) : List Change :=
  removals before after ++ additions before after

end CounterCatalog.Tree
