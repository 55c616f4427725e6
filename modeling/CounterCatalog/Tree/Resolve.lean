import CounterCatalog.Failure
import CounterCatalog.Text.Split
import CounterCatalog.Tree.Basic

/-!
# Finding a path in a file tree

A path is followed step by step: `.` stays, `..` goes up, and a name goes down into a directory or through
a symbolic link, of which at most forty are followed for one path. `walk` stops in the directory in which
the last step is to be taken; `find` takes that step too and ends at something that stands there or at a
name that is free.
-/

set_option autoImplicit false

namespace CounterCatalog

/-- The steps of a path. -/
structure Route where
  /-- The path begins at the root. -/
  absolute : Bool
  /-- The steps, none of them empty. -/
  steps : List Name
  /-- Slashes follow the last step. -/
  slash : Bool
deriving DecidableEq

/-- The step that stays where it is. -/
def Route.stay : Name := [0x2E]

/-- The step that goes up. -/
def Route.up : Name := [0x2E, 0x2E]

/-- The steps of a path, which stand between slashes. -/
def Route.ofPath (path : List UInt8) : Route :=
  let segments := Text.splitOn 0x2F path
  { absolute := path.head? = some 0x2F
    steps := segments.filter fun segment => segment ≠ []
    slash := segments.getLast? = some [] }

namespace Tree

/-- The last step of a path, from the directory that all steps before it lead to. -/
inductive Last where
  /-- It stays in the directory. -/
  | here
  /-- It goes up from the directory. -/
  | up
  /-- It is a name; `slash` tells whether slashes follow it. -/
  | name (name : Name) (slash : Bool)
deriving DecidableEq

/-- Where the last step of a path is taken, and that step. -/
structure Place where
  /-- The directory. -/
  directory : Handle
  /-- The last step. -/
  last : Last
deriving DecidableEq

/-- What is done about a symbolic link at the very end of a path. -/
inductive Ending where
  /-- Nothing: the path stands for the link. -/
  | kept
  /-- It is followed only if slashes come after it. -/
  | viewed
  /-- It is followed. -/
  | followed
  /-- It is followed to a file to be made, and slashes at the end are refused. -/
  | made
deriving DecidableEq

/-- A link at the end of a path is followed. -/
def Ending.follows (slash : Bool) : Ending → Bool
  | kept => false
  | viewed => slash
  | followed | made => true

/-- How far a path leads without going through a link. -/
inductive Stretch where
  /-- To its last step. -/
  | arrives (place : Place)
  /-- To a link in a directory, with steps left behind it. -/
  | turns (directory : Handle) (target : List UInt8) (rest : List Name)

/-- The longest name that a directory can hold, in bytes. -/
def nameLimit : Nat := 255

/-- The length from which on a path is refused, in bytes. -/
def pathLimit : Nat := 4096

/-- The number of symbolic links that are followed for one path. -/
def linkLimit : Nat := 40

/-- Where a step from a directory leads. -/
def enter (tree : Tree) (directory : Handle) (step : Name) : Except Fault Handle :=
  if step = Route.stay then .ok directory
  else if step = Route.up then .ok (tree.above directory)
  else if nameLimit < step.length then .error .nameTooLong
  else
    match tree.child? directory step with
    | some handle => .ok handle
    | none => .error .notFound

/-- The path that a name in a directory stands for, if it is a symbolic link. -/
def targetOf? (tree : Tree) (directory : Handle) (name : Name) : Option (List UInt8) :=
  (tree.child? directory name).bind fun handle => (tree.get? handle).bind Node.target?

/-- The way along steps up to the first link that has to be followed. -/
def stretch (tree : Tree) (ending : Ending) (slash : Bool) : Handle → List Name → Except Fault Stretch
  | directory, [] => .ok (.arrives ⟨directory, .here⟩)
  | directory, [step] =>
    if step = Route.stay then .ok (.arrives ⟨directory, .here⟩)
    else if step = Route.up then .ok (.arrives ⟨directory, .up⟩)
    else if ending = .made ∧ slash = true then .error .isADirectory
    else
      match if ending.follows slash then tree.targetOf? directory step else none with
      | some target => .ok (.turns directory target [])
      | none => .ok (.arrives ⟨directory, .name step slash⟩)
  | directory, step :: next :: rest =>
    match tree.enter directory step with
    | .error fault => .error fault
    | .ok handle =>
      match tree.get? handle with
      | some (.directory _ _ _) => tree.stretch ending slash handle (next :: rest)
      | some (.link target) => .ok (.turns directory target (next :: rest))
      | _ => .error .notADirectory

/-- The directory that a route begins in, seen from a current directory. -/
def origin (cwd : Handle) (route : Route) : Handle :=
  if route.absolute then root else cwd

/-- The way along a route to its last step, given how many links may still be followed. -/
def walk (tree : Tree) (ending : Ending) : Nat → Handle → Route → Except Fault Place
  | 0, cwd, route =>
    match tree.stretch ending route.slash (origin cwd route) route.steps with
    | .error fault => .error fault
    | .ok (.arrives place) => .ok place
    | .ok (.turns _ _ _) => .error .tooManyLinks
  | links + 1, cwd, route =>
    match tree.stretch ending route.slash (origin cwd route) route.steps with
    | .error fault => .error fault
    | .ok (.arrives place) => .ok place
    | .ok (.turns directory target rest) =>
      let next := Route.ofPath target
      let slash := if rest = [] then route.slash || next.slash else route.slash
      tree.walk ending links directory ⟨next.absolute, next.steps ++ rest, slash⟩

/-- Where the last step of a path is taken, seen from a current directory. -/
def placeOf (tree : Tree) (ending : Ending) (cwd : Handle) (path : List UInt8) : Except Fault Place :=
  if path.contains 0 then .error .zeroInPath
  else if path = [] then .error .notFound
  else if pathLimit ≤ path.length then .error .nameTooLong
  else tree.walk ending linkLimit cwd (Route.ofPath path)

/-- Where a path ends. -/
inductive Spot where
  /-- Something stands there. -/
  | taken (handle : Handle) (node : Node)
  /-- The last name of the path is free in a directory; `slash` tells whether slashes follow it. -/
  | free (directory : Handle) (name : Name) (slash : Bool)
deriving DecidableEq

/-- What a handle stands for, as the end of a path. -/
def spotAt (tree : Tree) (handle : Handle) : Except Fault Spot :=
  match tree.get? handle with
  | some node => .ok (.taken handle node)
  | none => .error .notFound

/-- Where the last step of a path leads; slashes may follow only a directory. -/
def spotOf (tree : Tree) (place : Place) : Except Fault Spot :=
  match place.last with
  | .here => tree.spotAt place.directory
  | .up => tree.spotAt (tree.above place.directory)
  | .name name slash =>
    if nameLimit < name.length then .error .nameTooLong
    else
      match tree.child? place.directory name with
      | none => .ok (.free place.directory name slash)
      | some handle =>
        if slash = true ∧ tree.isDirectory handle = false then .error .notADirectory
        else tree.spotAt handle

/-- Where a path ends, a link at the very end treated as given. -/
def findWith (tree : Tree) (ending : Ending) (cwd : Handle) (path : List UInt8) : Except Fault Spot :=
  match tree.placeOf ending cwd path with
  | .error fault => .error fault
  | .ok place => tree.spotOf place

/-- Where a path ends; a link at the very end is followed or not. -/
def find (tree : Tree) (follow : Bool) (cwd : Handle) (path : List UInt8) : Except Fault Spot :=
  tree.findWith (if follow then .followed else .viewed) cwd path

/-- What stands at the end of a path, all links followed. -/
def locate (tree : Tree) (cwd : Handle) (path : List UInt8) : Except Fault (Handle × Node) :=
  match tree.find true cwd path with
  | .error fault => .error fault
  | .ok (.taken handle node) => .ok (handle, node)
  | .ok (.free _ _ _) => .error .notFound

/-- What stands at the end of a path, where a link may be. -/
def view (tree : Tree) (cwd : Handle) (path : List UInt8) : Except Fault (Handle × Node) :=
  match tree.find false cwd path with
  | .error fault => .error fault
  | .ok (.taken handle node) => .ok (handle, node)
  | .ok (.free _ _ _) => .error .notFound

/-- Something stands at the end of the path. -/
def pathExists (tree : Tree) (cwd : Handle) (path : List UInt8) : Bool :=
  (tree.locate cwd path).isOk

/-- The directory at the end of a path. -/
def directory (tree : Tree) (cwd : Handle) (path : List UInt8) : Except Fault Handle :=
  match tree.locate cwd path with
  | .error fault => .error fault
  | .ok (handle, .directory _ _ _) => .ok handle
  | .ok _ => .error .notADirectory

end Tree

end CounterCatalog
