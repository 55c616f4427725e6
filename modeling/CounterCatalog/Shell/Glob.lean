import CounterCatalog.Shell.Pattern
import CounterCatalog.Tree.File

/-!
# Patterns for paths

A field with special characters stands for the paths that it matches, step by step from left to right; a step
without special characters leads to whatever has that name. Names that begin with a dot are only matched by a
pattern that begins with one too. A field that matches nothing stands for itself.
-/

set_option autoImplicit false

namespace CounterCatalog.Shell.Glob

/-- The steps of a field between the slashes in it. -/
def steps (glyphs : List Glyph) : List (List Glyph) :=
  let isSlash := fun glyph : Glyph => decide (glyph.char? = some '/')
  let collect := fun (glyph : Glyph) (state : List Glyph × List (List Glyph)) =>
    if isSlash glyph then ([], state.1 :: state.2) else (glyph :: state.1, state.2)
  let (first, rest) := glyphs.foldr collect ([], [])
  first :: rest

/-- The step has special characters. -/
def isPattern (step : List Glyph) : Bool :=
  (Matcher.ofGlyphs step).any fun matcher => !(matcher matches .one _)

/-- The characters that a step without special characters stands for. -/
def name (step : List Glyph) : Chars :=
  (Matcher.ofGlyphs step).filterMap fun
    | .one c => some c
    | _ => none

/-- The names in a directory, with the two that every directory has. -/
def names (tree : Tree) (cwd : Handle) (path : Chars) : List Chars :=
  match tree.locate cwd (if path.isEmpty then Route.stay else path.bytes) with
  | .ok (_, .directory _ entries _) =>
    ['.'] :: ['.', '.'] :: entries.map fun entry => Chars.ofBytes entry.1
  | _ => []

/-- The names that a step matches in a directory. -/
def matching (tree : Tree) (cwd : Handle) (path : Chars) (step : List Glyph) : List Chars :=
  let pattern := Matcher.ofGlyphs step
  let dotted := pattern.head? = some (.one '.')
  (names tree cwd path).filter fun name =>
    (dotted || name.head? ≠ some '.') && Matcher.matchesAll pattern name

/-- The paths that steps lead to after a path; `special` tells whether a special character has come up. -/
def paths (tree : Tree) (cwd : Handle) : Bool → Chars → List (List Glyph) → List Chars
  | special, path, [] => if special && (tree.view cwd path.bytes).isOk then [path] else []
  | special, path, step :: rest =>
    let next := fun (special : Bool) (path : Chars) =>
      paths tree cwd special (if rest.isEmpty then path else path ++ ['/']) rest
    if isPattern step then
      (matching tree cwd path step).flatMap fun name => next true (path ++ name)
    else next special (path ++ name step)

/-- The texts that a field stands for. -/
def expand (tree : Tree) (cwd : Handle) (field : List Glyph) : List Chars :=
  let mayMatch := field.any fun glyph =>
    (glyph.active?).any fun c => c = '*' || c = '?' || c = '['
  let found := if mayMatch then paths tree cwd false [] (steps field) else []
  if found.isEmpty then [Glyph.text field] else found.mergeSort Chars.isBefore

end CounterCatalog.Shell.Glob
