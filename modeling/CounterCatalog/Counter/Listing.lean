import CounterCatalog.Counter.Basic
import CounterCatalog.Counter.Writer
import CounterCatalog.Host

/-!
# Counter lists as files

`save` writes a whole counter list, `load` reads one. Lines that describe no counter are
skipped with a debug message; a line that is not UTF-8 makes the reading fail, after the messages for the
lines before it. `pick` looks a name up, and of several counters with that name takes the first.
-/

set_option autoImplicit false

namespace CounterCatalog.Listing

variable {τ : Type}

/-- The lines of a counter list, with `none` for each that is not UTF-8. -/
def lines (bytes : List UInt8) : List (Option String) :=
  (Text.terminatedLines bytes).map Text.Utf8.decode?

/-- The counters of a counter list, in order, if all of its lines are UTF-8. -/
def counters? (bytes : List UInt8) : Option (List Counter) :=
  ((lines bytes).mapM id).map fun texts => texts.filterMap Counter.ofLine?

/-- The lines that describe no counter, up to the first line that is not UTF-8. -/
def skipped (bytes : List UInt8) : List String :=
  (((lines bytes).takeWhile Option.isSome).filterMap id).filter fun line =>
    (Counter.ofLine? line).isNone

/-- The bytes of the counter list at a path. A path that cannot be opened and one that can be opened but
not read, a directory, fail with different words. -/
def readBytes (path : String) : Action τ (List UInt8) := do
  let host ← get
  match host.tree.locate host.cwd (Text.Utf8.encode path) with
  | .error fault => Action.failWithin ("opening " ++ path) (.system fault)
  | .ok (_, .device .terminal) => Action.failWithin ("opening " ++ path) (.system .noDevice)
  | .ok (_, node) => Action.attempt ("reading " ++ path) (Tree.contentOf node)

/-- Reads the counters of the counter list at a path. -/
def load (path : String) : Action τ (List Counter) := do
  let bytes ← readBytes path
  for line in skipped bytes do
    Action.log .debug (path ++ ": skipping \"" ++ line ++ "\"")
  match counters? bytes with
  | some counters => pure counters
  | none => Action.failWithin ("reading " ++ path) (.system .invalidUtf8)

/-- Looks up a name; the first of several counters with that name counts. -/
def pick (counters : List Counter) (name path : String) : Except Failure Counter :=
  match counters.find? fun counter => counter.name = name with
  | some counter => .ok counter
  | none => .error (.unlistedCounter name path)

/-- Passes on what a writer has handed to one of the output streams. -/
def pass (writer : Writer) : Action τ Unit :=
  match writer.target with
  | .stream number => modify fun host => host.withStream number writer.shown
  | _ => pure ()

/-- Writes records to the file at a path, whatever it held, and gives their number. -/
def save (path : String) (records : List Record) : Action τ Nat := do
  let host ← get
  let (writer, tree) ← Action.attempt ("creating " ++ path)
    (Writer.create host.tree host.cwd (Text.Utf8.encode path))
  Action.setTree tree
  let (writer, tree) ← Action.attempt ("writing " ++ path)
    ((writer.records tree records).bind fun (writer, tree) => writer.finish tree)
  Action.setTree tree
  pass writer
  pure writer.count

end CounterCatalog.Listing
