import CounterCatalog.Shell.Pattern
import CounterCatalog.Shell.Tool.Common

/-!
# Where lines are looked for

Lines are looked for in files, and where directories are searched, in all files below them, but for those that are
left out by their names.
-/

set_option autoImplicit false

namespace CounterCatalog.Shell.Tool.Grep

open Step

/-- A pattern for names, and whether files with such a name are searched or left out. -/
structure Rule where
  /-- They are searched. -/
  includes : Bool
  /-- The pattern. -/
  pattern : List Matcher

/-- A rule for a pattern as it is written. -/
def Rule.of (includes : Bool) (text : Chars) : Rule :=
  ⟨includes, Matcher.ofGlyphs (glyphs text)⟩
where
  /-- The characters of a pattern, of which those behind backslashes mean nothing. -/
  glyphs : Chars → List Glyph
    | '\\' :: c :: rest => .quoted c :: glyphs rest
    | c :: rest => .plain c :: glyphs rest
    | [] => []

/-- A name from its beginning on and from behind each slash on. -/
def tailsOf : Chars → List Chars
  | [] => []
  | '/' :: rest => if rest.head? = some '/' then tailsOf rest else rest :: tailsOf rest
  | _ :: rest => tailsOf rest

/-- The rule fits a name, or a part of it that begins behind a slash. -/
def Rule.fits (rule : Rule) (whole : Bool) (name : Chars) : Bool :=
  (name :: if whole then [] else tailsOf name).any (Matcher.matchesAll rule.pattern)

/-- What has a name is left out: the last rule that fits decides, and if there is none, the first rule. -/
def leavesOut (rules : List Rule) (whole : Bool) (name : Chars) : Bool :=
  match rules.reverse.find? fun rule => rule.fits whole name, rules with
  | some rule, _ => !rule.includes
  | none, rule :: _ => rule.includes
  | none, [] => false

/-- What is done with directories. -/
inductive Directories where
  /-- They are read like files, which fails. -/
  | read
  /-- What is in them is searched. -/
  | search
  /-- They are left out. -/
  | skip
deriving DecidableEq

/-- How files are chosen. -/
structure Choosing where
  /-- What is done with directories. -/
  directories : Directories
  /-- Links are followed below directories. -/
  follows : Bool
  /-- The rules for files. -/
  files : List Rule
  /-- The rules for directories. -/
  below : List Rule

/-- A file in which lines are looked for: its path, and the name under which it is shown. -/
structure Place where
  /-- The path, or a dash for standard input. -/
  path : Chars
  /-- The name. -/
  name : Chars

/-- The regular files at and below a path, at most as deep as given. -/
def filesBelow (choosing : Choosing) (machine : Machine) : Nat → Chars → List Chars
  | 0, _ => []
  | depth + 1, path =>
    let found :=
      if choosing.follows then machine.tree.locate machine.directory path.bytes
      else machine.tree.view machine.directory path.bytes
    let name := baseName path
    match found with
    | .ok (handle, .directory _ _ _) =>
      if leavesOut choosing.below true name then []
      else (pathsIn machine handle path).flatMap (filesBelow choosing machine depth)
    | .ok (_, .file _ _) | .ok (_, .program _) => if leavesOut choosing.files true name then [] else [path]
    | _ => []
where
  /-- The paths of what is in a directory, in the order of the names. -/
  pathsIn (machine : Machine) (handle : Handle) (path : Chars) : List Chars :=
    let names := (machine.tree.entries handle).map fun entry => Chars.ofBytes entry.1
    (names.mergeSort Chars.isBefore).map (within path)

/-- The files at and below a path that is given. -/
def placesAt (choosing : Choosing) (machine : Machine) (path : Chars) : List Place :=
  let isDirectory := path ≠ ['-'] && (machine.tree.directory machine.directory path.bytes).isOk
  if leavesOut (if isDirectory then choosing.below else choosing.files) false path then []
  else if !isDirectory then [⟨path, path⟩]
  else
    match choosing.directories with
    | .read => [⟨path, path⟩]
    | .skip => []
    | .search =>
      match machine.tree.locate machine.directory path.bytes with
      | .ok (handle, _) =>
        let depth := machine.tree.nodes.size + 1
        (filesBelow.pathsIn machine handle path).flatMap fun path =>
          (filesBelow choosing machine depth path).map fun path => ⟨path, path⟩
      | .error _ => [⟨path, path⟩]

/-- The files in which lines are looked for. -/
def placesOf (choosing : Choosing) (inputName : Chars) (files : List Chars) : Step (List Place) := do
  let machine ← get
  let named := fun place : Place => if place.path = ['-'] then { place with name := inputName } else place
  if files.isEmpty ∧ choosing.directories = .search then
    let places := placesAt { choosing with below := choosing.below.filter fun rule => !rule.fits true ['.'] }
      machine ['.']
    return places.map fun place => { place with name := place.name.drop 2 }
  return (inputs files).flatMap fun path => (placesAt choosing machine path).map named

end CounterCatalog.Shell.Tool.Grep
