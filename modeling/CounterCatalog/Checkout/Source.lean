import CounterCatalog.Event.Source
import CounterCatalog.Path
import CounterCatalog.Process.Command
import CounterCatalog.Tree.Canonical

/-!
# A checkout as an event source

A built checkout of libpfm4 holds two example programs that make up an event source. They are run inside the
checkout, by paths that begin at the root. How they end says nothing about the events, so what they write
is taken as it is.
-/

set_option autoImplicit false

namespace CounterCatalog.Checkout

variable {τ : Type}

/-- The program that lists all events, inside a checkout. -/
def listingProgram : String := "examples/showevtinfo"

/-- The program that gives the code of a label, inside a checkout. -/
def codeProgram : String := "examples/check_events"

/-- The run of a program of the checkout. -/
def command (checkout program : String) (args : List String) : Command where
  program := Path.join checkout program
  args := args
  dir := some checkout
  strictness := .lenient

/-- What a program of the checkout writes. -/
def query (launcher : Launcher) (checkout program : String) (args : List String) :
    Action τ String := do
  let report ← (command checkout program args).run launcher
  pure report.stdout

/-- The event source made up of the programs of a checkout, given by its canonical path. -/
def source (launcher : Launcher) (checkout : String) : EventSource τ where
  listing := query launcher checkout listingProgram []
  answer label := query launcher checkout codeProgram [label]

/-- The failure of a canonical path that is no text. -/
def unreadable (path : List UInt8) : Failure :=
  .within ("PathBuf contains invalid UTF-8: " ++ Text.Utf8.decodeLossy path) (.system .invalidPath)

/-- The canonical path of a checkout. -/
def resolve (checkout : String) : Action τ String := do
  let host ← get
  let path ← Action.attempt ("canonicalizing " ++ checkout)
    (host.tree.canonical host.cwd (Text.Utf8.encode checkout))
  match Text.Utf8.decode? path with
  | some path => pure path
  | none => Action.failWithin ("canonicalizing " ++ checkout) (unreadable path)

end CounterCatalog.Checkout
