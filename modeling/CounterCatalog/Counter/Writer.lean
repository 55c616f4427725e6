import CounterCatalog.Counter.Record
import CounterCatalog.Tree.File

/-!
# Writing a counter list

A writer collects the lines of records and hands them to its file in larger pieces. It holds at most
`capacity` bytes back: a line that does not fit behind those it holds makes it hand them over first, and a
line as long as the capacity goes to the file directly. A line is never cut, so at any moment the file
holds whole records. Bytes that the file does not take stay with the writer.
-/

set_option autoImplicit false

namespace CounterCatalog

/-- A counter list that is being written. -/
structure Writer where
  /-- What the bytes go to. -/
  target : Target
  /-- The number of bytes handed over so far. -/
  handed : Nat
  /-- The bytes held back, to follow those. -/
  held : List UInt8
  /-- The number of records written. -/
  count : Nat
  /-- What has been handed to an open stream, for whoever has that stream to pass on. -/
  shown : List UInt8
deriving DecidableEq

namespace Writer

/-- The number of bytes that a writer can hold back. -/
def capacity : Nat := 8192

/-- Opens a counter list for writing, which empties a file that stands there. -/
def create (tree : Tree) (cwd : Handle) (path : List UInt8) : Except Fault (Writer × Tree) :=
  match tree.create cwd path with
  | .error fault => .error fault
  | .ok (target, tree) => .ok (⟨target, 0, [], 0, []⟩, tree)

/-- Hands bytes over. -/
def hand (writer : Writer) (tree : Tree) (bytes : List UInt8) : Except Fault (Writer × Tree) :=
  let after := { writer with handed := writer.handed + bytes.length }
  match writer.target with
  | .file handle => .ok (after, tree.writeAt handle writer.handed bytes)
  | .device device => (Tree.deviceTakes device).map fun _ => (after, tree)
  | .stream _ => .ok ({ after with shown := writer.shown ++ bytes }, tree)

/-- Hands over the bytes held back. -/
def flush (writer : Writer) (tree : Tree) : Except Fault (Writer × Tree) :=
  if writer.held = [] then .ok (writer, tree)
  else
    match writer.hand tree writer.held with
    | .error fault => .error fault
    | .ok (writer, tree) => .ok ({ writer with held := [] }, tree)

/-- Makes room for bytes that belong together, by handing over those held back if need be. -/
def makeRoom (writer : Writer) (tree : Tree) (bytes : List UInt8) : Except Fault (Writer × Tree) :=
  if capacity - writer.held.length < bytes.length then writer.flush tree else .ok (writer, tree)

/-- Takes bytes that belong together: they are held back if there is room for them behind those held back
already or after those have been handed over, and else handed over themselves. -/
def take (writer : Writer) (tree : Tree) (bytes : List UInt8) : Except Fault (Writer × Tree) :=
  match writer.makeRoom tree bytes with
  | .error fault => .error fault
  | .ok (writer, tree) =>
    if capacity ≤ bytes.length then writer.hand tree bytes
    else .ok ({ writer with held := writer.held ++ bytes }, tree)

/-- Writes a record. -/
def record (writer : Writer) (tree : Tree) (record : Record) : Except Fault (Writer × Tree) :=
  match writer.take tree record.bytes with
  | .error fault => .error fault
  | .ok (writer, tree) => .ok ({ writer with count := writer.count + 1 }, tree)

/-- Writes records one after the other. -/
def records : Writer → Tree → List Record → Except Fault (Writer × Tree)
  | writer, tree, [] => .ok (writer, tree)
  | writer, tree, record :: rest =>
    match writer.record tree record with
    | .error fault => .error fault
    | .ok (writer, tree) => writer.records tree rest

/-- Hands over what is held back; the number of records written is the writer's count. -/
def finish (writer : Writer) (tree : Tree) : Except Fault (Writer × Tree) :=
  writer.flush tree

/-- The files as a writer leaves them that is given up: it tries to hand over what it still holds. -/
def abandon (writer : Writer) (tree : Tree) : Tree :=
  match writer.flush tree with
  | .error _ => tree
  | .ok (_, tree) => tree

end Writer

end CounterCatalog
