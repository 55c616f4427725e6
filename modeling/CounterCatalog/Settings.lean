import CounterCatalog.Path
import CounterCatalog.Process.Command
import CounterCatalog.Tree.Canonical

/-!
# Settings

The settings of a run say where the checkout is, where it comes from, how it is brought up to date and
built, and where the counter list goes. Unless an output is set, the counter list goes next to the
checkout: into the directory that holds it, which for a checkout that ends in `..` or is only `.` is
looked up in the file tree.
-/

set_option autoImplicit false

namespace CounterCatalog

/-- What a run is to do. -/
structure Settings where
  /-- The path of the checkout. -/
  checkout : String
  /-- The path of the counter list, if it is not to go next to the checkout. -/
  output? : Option String
  /-- The address of the repository. -/
  url : String
  /-- The branch of the repository. -/
  branch : String
  /-- The program that clones and pulls. -/
  git : String
  /-- The program that builds. -/
  make : String
  /-- Take the checkout as it is. -/
  skipSync : Bool
  /-- Take the checkout as built. -/
  skipBuild : Bool
  /-- What to do when cloning, pulling or building ends badly. -/
  strictness : Strictness
deriving DecidableEq

namespace Settings

/-- The name of the counter list next to the checkout. -/
def outputName : String := "perf_list.csv"

/-- The settings of a run for which nothing was chosen. -/
def standard : Settings where
  checkout := "libpfm4"
  output? := none
  url := "https://github.com/wcohen/libpfm4.git"
  branch := "master"
  git := "git"
  make := "make"
  skipSync := false
  skipBuild := false
  strictness := .lenient

/-- A checkout path whose last component is a name, if it has to be resolved for that; one that cannot be
resolved, or whose canonical path is no text, stays as it is. -/
def namedCheckout (tree : Tree) (cwd : Handle) (checkout : String) : String :=
  match Path.fileName? checkout with
  | some _ => checkout
  | none =>
    match tree.canonical cwd (Text.Utf8.encode checkout) with
    | .ok path => (Text.Utf8.decode? path).getD checkout
    | .error _ => checkout

/-- The path of the directory that holds a checkout; nothing for the current directory. -/
def holdingDirectory (tree : Tree) (cwd : Handle) (checkout : String) : String :=
  (Path.parent? (namedCheckout tree cwd checkout)).getD ""

/-- The path that the counter list goes to. -/
def output (settings : Settings) (tree : Tree) (cwd : Handle) : String :=
  match settings.output? with
  | some path => path
  | none => Path.join (holdingDirectory tree cwd settings.checkout) outputName

end Settings

end CounterCatalog
