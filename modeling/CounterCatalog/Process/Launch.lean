import CounterCatalog.Failure
import CounterCatalog.Process.Status
import CounterCatalog.Tree.Basic

/-!
# Children as functions

What a child does is a function of what it is started with and of the files it finds: it cannot be
started at all, or it ends with a status, its output, and the files it leaves. The program never looks
inside a child, so every statement about the program holds for all such functions.
-/

set_option autoImplicit false

namespace CounterCatalog

/-- What a child is started with. -/
structure Launch where
  /-- The program, by a path or by a name to be searched for. -/
  program : String
  /-- The arguments, not counting the program itself. -/
  args : List String
  /-- The directory the child runs in. -/
  directory : Handle
deriving DecidableEq

/-- What a child leaves behind. -/
structure Outcome where
  /-- How it ended. -/
  status : Status
  /-- What it wrote to its standard output. -/
  stdout : List UInt8
  /-- What it wrote to its standard error. -/
  stderr : List UInt8
  /-- The files as it left them. -/
  tree : Tree
deriving DecidableEq

/-- The behaviour of all children: whether one can be started, and what it leaves behind. -/
abbrev Launcher := Launch → Tree → Except Fault Outcome

end CounterCatalog
