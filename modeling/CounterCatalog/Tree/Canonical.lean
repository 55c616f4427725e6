import CounterCatalog.Tree.Resolve

/-!
# Canonical paths

The canonical path of something begins at the root and is free of links, `.` and `..`. It is built up name
by name, and a link that comes up is replaced by what it stands for. However long the path is that is
resolved, only the canonical path has to stay below the limit. What is followed by a slash, by `.` or by `..`
has to be a directory. Everything along the path has to be there, unless it is said that the last name, or any of
them, may be missing; and links may be left as they are, so that `..` takes back a name whatever it stands for.
-/

set_option autoImplicit false

namespace CounterCatalog.Tree

/-- What names on the way down from the root lead to, without following links. -/
def atWay? (tree : Tree) : Handle → List Name → Option Handle
  | handle, [] => some handle
  | handle, name :: way => (tree.child? handle name).bind fun next => tree.atWay? next way

/-- The steps demand that what they begin at is a directory before they name anything in it. -/
def needsDirectory (steps : List Name) (slash : Bool) : Bool :=
  match steps.find? fun step => step ≠ Route.stay with
  | some step => step = Route.up
  | none => slash || !steps.isEmpty

/-- What the canonical way is like so far. -/
inductive Resolved where
  /-- All steps have been taken. -/
  | ends (way : List Name)
  /-- A link has come up below a way, with steps left behind it. -/
  | turns (way : List Name) (target : List UInt8) (rest : List Name)

/-- What of a path may be missing. -/
inductive Lack where
  /-- Nothing. -/
  | nothing
  /-- What the last name stands for. -/
  | last
  /-- Anything. -/
  | anything
deriving DecidableEq

/-- A fault of a name is no matter, given the steps behind it. -/
def Lack.allows (lack : Lack) (fault : Fault) (rest : List Name) : Bool :=
  match lack with
  | nothing => false
  | last => fault = .notFound && rest.isEmpty
  | anything => true

/-- What a name below a way stands for. -/
def nodeBelow (tree : Tree) (way : List Name) (step : Name) : Except Fault Node :=
  if pathLimit ≤ (pathOf (way ++ [step])).length then .error .nameTooLong
  else
    match tree.atWay? root way with
    | none => .error .notFound
    | some above =>
      if tree.isDirectory above = false then .error .notADirectory
      else if nameLimit < step.length then .error .nameTooLong
      else
        match (tree.child? above step).bind tree.get? with
        | none => .error .notFound
        | some node => .ok node

/-- What a name below a way stands for in the end, if it is a link. -/
def nodeBehind (tree : Tree) (way : List Name) (step : Name) : Except Fault Node :=
  (tree.locate root (pathOf (way ++ [step]))).map Prod.snd

/-- The canonical way along steps up to the first link, or past all links if they are to be left as they are. -/
def resolveAlong (tree : Tree) (lack : Lack) (turns slash : Bool) :
    List Name → List Name → Except Fault Resolved
  | way, [] => .ok (.ends way)
  | way, step :: rest =>
    if step = Route.stay then tree.resolveAlong lack turns slash way rest
    else if step = Route.up then tree.resolveAlong lack turns slash way.dropLast rest
    else
      let goOn := tree.resolveAlong lack turns slash (way ++ [step]) rest
      if turns = false ∧ rest ≠ [] ∧ needsDirectory rest slash = false then goOn else
      match if turns then tree.nodeBelow way step else tree.nodeBehind way step with
      | .error fault => if lack.allows fault rest then goOn else .error fault
      | .ok (.link target) => if turns then .ok (.turns way target rest) else goOn
      | .ok node =>
        if needsDirectory rest slash = true ∧ node.isDirectory = false ∧ lack ≠ .anything then
          .error .notADirectory
        else goOn

/-- The canonical way along a route that begins below a way, given how many links may be followed. -/
def resolveFrom (tree : Tree) (lack : Lack) : Nat → List Name → Route → Except Fault (List Name)
  | 0, way, route =>
    match tree.resolveAlong lack (lack ≠ .anything) route.slash (if route.absolute then [] else way) route.steps with
    | .error fault => .error fault
    | .ok (.ends way) => .ok way
    | .ok (.turns _ _ _) => .error .tooManyLinks
  | links + 1, way, route =>
    match tree.resolveAlong lack true route.slash (if route.absolute then [] else way) route.steps with
    | .error fault => .error fault
    | .ok (.ends way) => .ok way
    | .ok (.turns way target rest) =>
      let next := Route.ofPath target
      let slash := if rest = [] then route.slash || next.slash else route.slash
      tree.resolveFrom lack links way ⟨next.absolute, next.steps ++ rest, slash⟩

/-- The canonical way of what stands at the end of a path. -/
def canonicalWay (tree : Tree) (lack : Lack) (turns : Bool) (cwd : Handle) (path : List UInt8) :
    Except Fault (List Name) :=
  if path.contains 0 then .error .zeroInPath
  else if path = [] then .error .notFound
  else
    let route := Route.ofPath path
    match if route.absolute then some [] else tree.wayTo? cwd with
    | none => .error .notFound
    | some way =>
      if turns then tree.resolveFrom lack linkLimit way route
      else
        match tree.resolveAlong lack false route.slash way route.steps with
        | .error fault => .error fault
        | .ok (.ends way) | .ok (.turns way _ _) => .ok way

/-- The canonical path of what stands at the end of a path. -/
def canonical (tree : Tree) (cwd : Handle) (path : List UInt8) : Except Fault (List UInt8) :=
  (tree.canonicalWay .nothing true cwd path).map pathOf

/-- The names on the way from a directory to something, given their ways from the root. -/
def relativeWay : List Name → List Name → List Name
  | name :: base, other :: way =>
    if name = other then relativeWay base way
    else (name :: base).map (fun _ => Route.up) ++ other :: way
  | base, way => base.map (fun _ => Route.up) ++ way

end CounterCatalog.Tree
