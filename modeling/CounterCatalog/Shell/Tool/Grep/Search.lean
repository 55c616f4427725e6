import CounterCatalog.Shell.Regex.Perl

/-!
# Looking for patterns in lines

A line is selected if one of some patterns matches in it. Of the matches that begin first the longest counts; where
expressions are written as Perl writes them, it is the one that is preferred.
-/

set_option autoImplicit false

namespace CounterCatalog.Shell.Tool.Grep

/-- What lines are looked for. -/
structure Search where
  /-- The patterns. -/
  patterns : List Regex
  /-- Small letters are like capital ones. -/
  folded : Bool
  /-- A match is a word, or several, and no part of one. -/
  words : Bool
  /-- A match is the whole line. -/
  lines : Bool
  /-- The lines without a match are looked for. -/
  inverted : Bool
  /-- The match that is preferred counts, not the longest one. -/
  preferred : Bool

namespace Search

/-- How a line is looked at. -/
def view (search : Search) (line : Chars) : Regex.View :=
  ⟨line.toArray, search.folded, false, search.patterns.any Regex.refersBack⟩

/-- A match may begin and end at these places. -/
def accepts (search : Search) (view : Regex.View) (start stop : Nat) : Bool :=
  (!search.lines || (start = 0 && stop = view.text.size)) &&
    (!search.words || (!view.wordUpTo start && !view.wordAt stop))

/-- The match that counts among those that begin at a place. -/
def matchAt? (search : Search) (view : Regex.View) (start : Nat) : Option Regex.Match :=
  let points := (search.patterns.flatMap fun regex => regex.ends view [Regex.Point.start start]).filter fun point =>
    search.accepts view start point.place
  (if search.preferred then points.head? else Regex.furthest? points).map (Regex.Match.to start)

/-- The first match from a place on, given the number of places to try. -/
def firstFrom (search : Search) (view : Regex.View) : Nat → Nat → Option (Nat × Nat)
  | 0, _ => none
  | places + 1, start =>
    match search.matchAt? view start with
    | some found => some (found.start, found.stop.place)
    | none => firstFrom search view places (start + 1)

/-- A match from a place on is not ruled out by the characters that there are. -/
def isPossible (search : Search) (view : Regex.View) (start : Nat) : Bool :=
  search.patterns.any fun regex => regex.isPossible view start

/-- A line is one of those that are looked for. -/
def selects (search : Search) (line : Chars) : Bool :=
  let view := search.view line
  let places := if search.lines then 1 else view.text.size + 1
  (search.isPossible view 0 && (search.firstFrom view places 0).isSome) != search.inverted

/-- All matches in a line that are not empty, one behind the other, given the number of places to try and those so
far, the last one first. -/
def matchesFrom (search : Search) (view : Regex.View) : Nat → Nat → List (Nat × Nat) → List (Nat × Nat)
  | 0, _, found => found.reverse
  | places + 1, start, found =>
    match if search.isPossible view start then search.firstFrom view (view.text.size + 1 - start) start else none with
    | none => found.reverse
    | some (first, stop) =>
      if stop ≤ first then matchesFrom search view places (first + 1) found
      else matchesFrom search view places stop ((first, stop) :: found)

/-- All matches in a text that are not empty. -/
def allMatches (search : Search) (view : Regex.View) : List (Nat × Nat) :=
  search.matchesFrom view (view.text.size + 1) 0 []

end Search

/-- A line of a file as it is looked at. -/
structure Candidate where
  /-- Its number. -/
  number : Nat
  /-- The number of bytes in front of it. -/
  offset : Nat
  /-- Its text. -/
  text : Chars
  /-- It is one of those that are looked for. -/
  selected : Bool

/-- The line behind a number of lines and bytes, and how many more may be selected. -/
def candidate (search : Search) (number offset : Nat) (left? : Option Nat) (text : Chars) : Candidate × Option Nat :=
  let selected := left? ≠ some 0 && search.selects text
  (⟨number, offset, text, selected⟩, if selected then left?.map fun left => left - 1 else left?)

/-- The lines of a file as they are looked at, of which a number at most are selected. -/
def candidates (search : Search) (limit? : Option Nat) (lines : List Chars) : List Candidate :=
  (lines.foldl (fun (state : List Candidate × Nat × Nat × Option Nat) text =>
    let (found, number, offset, left?) := state
    let (next, left?) := candidate search number offset left? text
    (next :: found, number + 1, offset + text.length + 1, left?)) ([], 1, 0, limit?)).1.reverse

end CounterCatalog.Shell.Tool.Grep
