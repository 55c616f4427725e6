import CounterCatalog.Process.Launch
import CounterCatalog.Text.Terminal
import CounterCatalog.Text.Utf8

/-!
# The host

The host is what the program acts on: the files, the current directory, the two output streams, the
children launched so far, and whatever the event source remembers between questions. An action may fail,
and what it did to the host before it failed stays done.

Log messages go to standard error, one line each, if their level is not below the threshold. What a
terminal would obey in them is left out, unless the host keeps it.
-/

set_option autoImplicit false

namespace CounterCatalog

/-- The levels of log messages, from the most to the least urgent. -/
inductive Level where
  | error
  | warn
  | info
  | debug
  | trace
deriving DecidableEq

namespace Level

/-- The place of a level, counted from the most urgent. -/
def rank : Level → Nat
  | error => 0
  | warn => 1
  | info => 2
  | debug => 3
  | trace => 4

/-- The name of a level as log lines show it. -/
def name : Level → String
  | error => "error"
  | warn => "warn"
  | info => "info"
  | debug => "debug"
  | trace => "trace"

end Level

/-- What the program acts on; `τ` is what the event source remembers. -/
structure Host (τ : Type) where
  /-- The files. -/
  tree : Tree
  /-- The current directory. -/
  cwd : Handle
  /-- The least urgent level that is logged. -/
  threshold : Level
  /-- Log lines keep what a terminal would obey. -/
  keepsControls : Bool
  /-- What has been written to standard output. -/
  stdout : String
  /-- What has been written to standard error, by the program and by its children. -/
  stderr : List UInt8
  /-- What has been launched so far, in order, whether or not it could be started. -/
  launches : List Launch
  /-- What the event source remembers. -/
  memory : τ

/-- Something done to the host that may fail. -/
abbrev Action (τ : Type) (α : Type) := ExceptT Failure (StateM (Host τ)) α

namespace Host

variable {τ : Type}

/-- A host that has done nothing yet. -/
def fresh (tree : Tree) (cwd : Handle) (threshold : Level) (memory : τ) : Host τ :=
  { tree := tree, cwd := cwd, threshold := threshold, keepsControls := false, stdout := "", stderr := []
    launches := [], memory := memory }

/-- The host with a line written to its standard output. -/
def withLine (host : Host τ) (line : String) : Host τ :=
  { host with stdout := host.stdout ++ line ++ "\n" }

/-- The host with bytes written to its standard error. -/
def withErrors (host : Host τ) (bytes : List UInt8) : Host τ :=
  { host with stderr := host.stderr ++ bytes }

/-- The host with bytes written to one of its two output streams. -/
def withStream (host : Host τ) (number : Nat) (bytes : List UInt8) : Host τ :=
  if number = 1 then { host with stdout := host.stdout ++ Text.Utf8.decodeLossy bytes }
  else if number = 2 then host.withErrors bytes
  else host

/-- The line of a log message, before anything is left out of it. -/
def logLine (level : Level) (message : String) : String :=
  "perflist: " ++ level.name ++ ": " ++ message ++ "\n"

/-- What a log message writes to standard error. -/
def logBytes (host : Host τ) (level : Level) (message : String) : List UInt8 :=
  let line := Text.Utf8.encode (logLine level message)
  if host.keepsControls then line else Text.Terminal.visible line

/-- The host with a message logged, if its level is urgent enough. -/
def withLog (host : Host τ) (level : Level) (message : String) : Host τ :=
  if level.rank ≤ host.threshold.rank then host.withErrors (host.logBytes level message)
  else host

end Host

namespace Action

variable {τ α : Type}

/-- Runs an action: what it gave, and the host it left. -/
def perform (action : Action τ α) (host : Host τ) : Except Failure α × Host τ :=
  action.run host

/-- Writes a line to standard output. -/
def say (line : String) : Action τ Unit :=
  modify fun host => host.withLine line

/-- Logs a message. -/
def log (level : Level) (message : String) : Action τ Unit :=
  modify fun host => host.withLog level message

/-- Fails with a cause inside the description of what was being done. -/
def failWithin (doing : String) (cause : Failure) : Action τ α :=
  throw (.within doing cause)

/-- Gives the result of an operation of the system, whose fault becomes the cause of a failure while
`doing`. -/
def attempt (doing : String) (result : Except Fault α) : Action τ α :=
  match result with
  | .ok value => pure value
  | .error fault => failWithin doing (.system fault)

/-- Replaces the files. -/
def setTree (tree : Tree) : Action τ Unit :=
  modify fun host => { host with tree := tree }

end Action

end CounterCatalog
