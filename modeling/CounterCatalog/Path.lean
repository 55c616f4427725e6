import CounterCatalog.Text.Split

/-!
# Paths as text

A path is a text whose names stand between slashes. Repeated slashes, a slash at the end and `.` between
slashes add nothing to it, a slash or `.` at its front does. `Path.parent?` removes the last component and
keeps the rest of the text as it was written, `Path.join` puts a name behind a path. Nothing here looks at
files: `..` stays where it stands.
-/

set_option autoImplicit false

namespace CounterCatalog.Path

/-- The texts between the slashes of a path, empty ones included. -/
def segments (path : String) : List String :=
  (Text.splitOn '/' path.toList).map String.ofList

/-- What a path begins with. -/
inductive Anchor where
  /-- A slash: the path does not depend on the current directory. -/
  | root
  /-- A written `.`: the path begins in the current directory, and says so. -/
  | here
  /-- A name or nothing: the path begins in the current directory. -/
  | bare
deriving DecidableEq

/-- What a path consists of once the segments that add nothing are left out. -/
inductive Component where
  | root
  | here
  | up
  | name (text : String)
deriving DecidableEq

/-- What a path begins with, and its further segments. -/
def anchored (path : String) : Anchor × List String :=
  match segments path with
  | "" :: segment :: rest => (.root, segment :: rest)
  | "." :: rest => (.here, rest)
  | all => (.bare, all)

/-- Inside a path, nothing and `.` add nothing. -/
def isIdle (segment : String) : Bool :=
  segment = "" || segment = "."

/-- The component that a segment adds. -/
def componentOf (segment : String) : Option Component :=
  if isIdle segment then none else if segment = ".." then some .up else some (.name segment)

/-- The component that the beginning of a path adds. -/
def Anchor.components : Anchor → List Component
  | .root => [.root]
  | .here => [.here]
  | .bare => []

/-- The components of a path, in order. -/
def components (path : String) : List Component :=
  let (anchor, body) := anchored path
  anchor.components ++ body.filterMap componentOf

/-- The last component of a path, where it is an ordinary name. -/
def fileName? (path : String) : Option String :=
  match (components path).getLast? with
  | some (.name text) => some text
  | _ => none

/-- The segments without those at the end that add nothing. -/
def dropIdleEnd (body : List String) : List String :=
  (body.reverse.dropWhile isIdle).reverse

/-- A path with a given beginning and given segments. -/
def Anchor.text (body : List String) : Anchor → String
  | .root => "/" ++ "/".intercalate body
  | .here => "/".intercalate ("." :: body)
  | .bare => "/".intercalate body

/-- The path without its last component, if it has one other than the root; what is left keeps its
spelling. -/
def parent? (path : String) : Option String :=
  let (anchor, body) := anchored path
  match dropIdleEnd body with
  | [] => if anchor = .here then some "" else none
  | segment :: rest => some (anchor.text (dropIdleEnd (segment :: rest).dropLast))

/-- A path does not depend on the current directory when it begins with a slash. -/
def isAbsolute (path : String) : Bool :=
  path.toList.head? = some '/'

/-- The path of `name` inside the directory `base`. -/
def join (base name : String) : String :=
  if isAbsolute name || base = "" then name
  else if base.toList.getLast? = some '/' then base ++ name
  else base ++ "/" ++ name

end CounterCatalog.Path
