import CounterCatalog.Shell.Syntax
import Std.Data.HashSet

/-!
# Regular expressions

`Regex` is the syntax, and `Regex.ends` gives the places at which matches can end that begin at given places,
with what the groups have matched on the way. They come in the order in which they are preferred: the first of
two choices before the other one, and more repetitions before fewer. Of several ways to the same place the one
that comes first counts, so that `Regex.search` can take the first match of all or the longest one. It is not even
looked for where none of the characters comes that every match has to have.
-/

set_option autoImplicit false

namespace CounterCatalog.Shell

/-- A regular expression. -/
inductive Regex where
  /-- Nothing. -/
  | empty
  /-- Any character. -/
  | any
  /-- One of some characters. -/
  | oneOf (members : Chars)
  /-- The beginning of a line. -/
  | lineStart
  /-- The end of a line. -/
  | lineEnd
  /-- The beginning of the text. -/
  | textStart
  /-- The end of the text. -/
  | textEnd
  /-- The beginning of a word. -/
  | wordStart
  /-- The end of a word. -/
  | wordEnd
  /-- The beginning or the end of a word. -/
  | wordEdge
  /-- Neither the beginning nor the end of a word. -/
  | wordInside
  /-- What a group has matched, once more. -/
  | again (group : Nat)
  /-- A group, by its number. -/
  | group (number : Nat) (body : Regex)
  /-- One after the other. -/
  | seq (first second : Regex)
  /-- One or the other. -/
  | either (first second : Regex)
  /-- Any number of times, as often as possible first. -/
  | star (body : Regex)
  /-- Any number of times, as seldom as possible first. -/
  | lazyStar (body : Regex)
  /-- The way that is preferred, and no other one. -/
  | atomic (body : Regex)
  /-- Something that follows, or does not, without belonging to the match. -/
  | followed (negated : Bool) (body : Regex)
  /-- Something that comes before, or does not, without belonging to the match. -/
  | preceded (negated : Bool) (body : Regex)
  /-- A match begins only here. -/
  | restart

namespace Regex

/-- All characters, one for each byte. -/
def alphabet : Chars :=
  (List.range 256).map Char.ofNat

/-- A character of a word. -/
def isWordChar (c : Char) : Bool :=
  Chars.isNameChar c

/-- How a text is looked at. -/
structure View where
  /-- The characters. -/
  text : Array Char
  /-- Small letters are like capital ones. -/
  folded : Bool
  /-- Lines begin and end inside the text too. -/
  byLine : Bool
  /-- The expression refers to what groups have matched. -/
  refersBack : Bool

/-- A place in a text, and what groups have matched on the way to it: where each began and ended. -/
structure Point where
  /-- The place. -/
  place : Nat
  /-- The groups by number, with their beginnings and ends. -/
  groups : List (Nat × Nat × Nat)
  /-- The places at which the groups have begun that have not ended yet, the innermost one first. -/
  begun : List Nat
deriving DecidableEq

/-- A place at which nothing has been matched yet. -/
def Point.start (place : Nat) : Point :=
  ⟨place, [], []⟩

/-- The point with a group begun. -/
def Point.enter (point : Point) : Point :=
  { point with begun := point.place :: point.begun }

/-- The point with the group ended that has been begun last. -/
def Point.leave (number : Nat) (point : Point) : Point :=
  match point.begun with
  | [] => point
  | start :: begun =>
    let others := point.groups.filter fun item => item.1 ≠ number
    { point with groups := (number, start, point.place) :: others, begun := begun }

namespace View

/-- A character as it is compared. -/
def shape (view : View) (c : Char) : Char :=
  if view.folded then c.toLower else c

/-- The character in front of a place, if there is one. -/
def before? (view : View) (place : Nat) : Option Char :=
  if place = 0 then none else view.text[place - 1]?

/-- A word begins or goes on at a place. -/
def wordAt (view : View) (place : Nat) : Bool :=
  (view.text[place]?).any isWordChar

/-- A word goes up to a place. -/
def wordUpTo (view : View) (place : Nat) : Bool :=
  (view.before? place).any isWordChar

/-- The characters between two places. -/
def between (view : View) (start stop : Nat) : Chars :=
  (view.text.extract start stop).toList

/-- A condition on a place. -/
def holds (view : View) (place : Nat) : Regex → Bool
  | .lineStart => place = 0 || (view.byLine && view.before? place = some '\n')
  | .lineEnd => place = view.text.size || (view.byLine && view.text[place]? = some '\n')
  | .textStart => place = 0
  | .textEnd => place = view.text.size
  | .wordStart => view.wordAt place && !view.wordUpTo place
  | .wordEnd => view.wordUpTo place && !view.wordAt place
  | .wordEdge => view.wordAt place != view.wordUpTo place
  | .wordInside => view.wordAt place == view.wordUpTo place
  | _ => true

/-- A character is one of some. -/
def contains (view : View) (members : Chars) (c : Char) : Bool :=
  members.contains c || (view.folded && (members.contains c.toLower || members.contains c.toUpper))

end View

/-- Points without those that come to a place again; where groups are referred to, what they have matched must
be the same too. -/
def View.distinct (view : View) (points : List Point) : List Point :=
  match points with
  | [] | [_] => points
  | points =>
    if view.refersBack then points.eraseDups
    else
      (points.foldl (fun (state : List Point × Std.HashSet Nat) point =>
        if state.2.contains point.place then state else (point :: state.1, state.2.insert point.place))
        ([], ∅)).1.reverse

/-- What is still to be done when something is repeated. -/
inductive Task where
  /-- To go on from a point. -/
  | visit (point : Point)
  /-- To end at a point. -/
  | arrive (point : Point)

/-- The points at which repetitions end, the last one first: to go on comes before to end where as many as
possible are wanted. No place is gone on from twice. At least as many steps are given as there are tasks. -/
def repeated (next : Point → List Point) (greedy : Bool) :
    Nat → Std.HashSet Nat → List Task → List Point → List Point
  | 0, _, _, found => found
  | _, _, [], found => found
  | steps + 1, seen, .arrive point :: tasks, found => repeated next greedy steps seen tasks (point :: found)
  | steps + 1, seen, .visit point :: tasks, found =>
    if seen.contains point.place then repeated next greedy steps seen tasks found
    else
      let further := (next point).map Task.visit
      let here := if greedy then further ++ [.arrive point] else .arrive point :: further
      repeated next greedy steps (seen.insert point.place) (here ++ tasks) found

/-- The points at which repetitions of what leads from one point to others end, in a text of a size. -/
def repetitions (next : Point → List Point) (greedy : Bool) (size : Nat) (points : List Point) : List Point :=
  let steps := (size + 2) * (size + 3) + 2 * points.length
  (repeated next greedy steps ∅ (points.map Task.visit) []).reverse

/-- The numbers of characters that an expression can match, as far as they are limited. -/
def widths : Regex → List Nat
  | .any | .oneOf _ => [1]
  | .group _ body | .atomic body => widths body
  | .seq first second => ((widths first).flatMap fun n => (widths second).map fun m => n + m).eraseDups
  | .either first second => (widths first ++ widths second).eraseDups
  | .star _ | .lazyStar _ | .again _ => []
  | _ => [0]

/-- The characters that match, if the expression always matches a single one. -/
def single? (view : View) : Regex → Option (Char → Bool)
  | .any => some fun _ => true
  | .oneOf members => some (view.contains members)
  | _ => none

/-- The points at which runs from a point on end of characters that have a property, the furthest one first, behind
others, up to a place that has been reached before, and all places reached; given how many characters there may be. -/
def run (view : View) (test : Char → Bool) (point : Point) :
    Nat → Nat → List Point → Std.HashSet Nat → List Point × Std.HashSet Nat
  | 0, _, found, seen => (found, seen)
  | count + 1, place, found, seen =>
    if seen.contains place then (found, seen)
    else
      let found := { point with place := place } :: found
      let seen := seen.insert place
      if (view.text[place]?).any test then run view test point count (place + 1) found seen else (found, seen)

/-- The points at which runs of characters that have a property end, as many as possible first. -/
def runs (view : View) (test : Char → Bool) (points : List Point) : List Point :=
  let step := fun (state : List Point × Std.HashSet Nat) (point : Point) =>
    let seen := if view.refersBack then ∅ else state.2
    let (found, seen) := run view test point (view.text.size + 1 - point.place) point.place [] seen
    (found.reverse ++ state.1, seen)
  (points.foldl step ([], ∅)).1.reverse

/-- The points at which matches from points on can end. -/
def ends (view : View) : Regex → List Point → List Point
  | .empty, points => points
  | .any, points =>
    points.filterMap fun point =>
      if point.place < view.text.size then some { point with place := point.place + 1 } else none
  | .oneOf members, points =>
    points.filterMap fun point =>
      if (view.text[point.place]?).any (view.contains members) then some { point with place := point.place + 1 }
      else none
  | .again number, points =>
    points.filterMap fun point =>
      match point.groups.find? fun item => item.1 = number with
      | none => none
      | some (_, start, stop) =>
        let size := stop - start
        let shown := (view.between start stop).map view.shape
        let here := (view.between point.place (point.place + size)).map view.shape
        if shown = here then some { point with place := point.place + size } else none
  | .group number body, points => (ends view body (points.map Point.enter)).map (Point.leave number)
  | .seq first second, points => view.distinct (ends view second (ends view first points))
  | .either first second, points =>
    view.distinct (points.flatMap fun point => ends view first [point] ++ ends view second [point])
  | .star body, points =>
    match single? view body with
    | some test => runs view test points
    | none => repeats (ends view body) true points
  | .lazyStar body, points => repeats (ends view body) false points
  | .atomic body, points => points.flatMap fun point => (ends view body [point]).take 1
  | .followed negated body, points =>
    points.filter fun point => (ends view body [point]).isEmpty = negated
  | .preceded negated body, points =>
    points.filter fun point =>
      let starts := (widths body).filter fun width => decide (width ≤ point.place)
      let found := starts.any fun width =>
        (ends view body [{ point with place := point.place - width }]).any fun other => other.place = point.place
      found ≠ negated
  | .restart, points =>
    points.map fun point => { point with groups := (0, point.place, point.place) :: point.groups }
  | condition, points => points.filter fun point => view.holds point.place condition
where
  /-- The points at which repetitions end; where groups are referred to, from each point on its own. -/
  repeats (next : List Point → List Point) (greedy : Bool) (points : List Point) : List Point :=
    let from_ := repetitions (fun point => next [point]) greedy view.text.size
    if view.refersBack then view.distinct (points.flatMap fun point => from_ [point]) else from_ points

/-- The shorter one of two lists, if there are two. -/
def shorter? (first? second? : Option Chars) : Option Chars :=
  match first?, second? with
  | some first, some second => some (if second.length < first.length then second else first)
  | first?, second? => first?.orElse fun _ => second?

/-- Characters of which every match has at least one. -/
def needed : Regex → Option Chars
  | .oneOf members => some members
  | .group _ body | .atomic body => needed body
  | .seq first second => shorter? (needed first) (needed second)
  | .either first second => do return (← needed first) ++ (← needed second)
  | _ => none

/-- A match from a place on is not ruled out by the characters that there are. -/
def isPossible (regex : Regex) (view : View) (start : Nat) : Bool :=
  match regex.needed with
  | none => true
  | some members => view.text.any (view.contains members) start

/-- The expression refers to what a group has matched. -/
def refersBack : Regex → Bool
  | .again _ => true
  | .group _ body | .star body | .lazyStar body | .atomic body | .followed _ body | .preceded _ body =>
    refersBack body
  | .seq first second | .either first second => refersBack first || refersBack second
  | _ => false

/-- A text as it is looked at for an expression. -/
def view (regex : Regex) (text : Chars) (folded byLine : Bool) : View :=
  ⟨text.toArray, folded, byLine, regex.refersBack⟩

/-- A match: where it begins and ends, and what groups have matched. -/
structure Match where
  /-- Where it begins. -/
  start : Nat
  /-- Where it ends, and the groups. -/
  stop : Point

/-- The match of a place and a point, which may have moved its beginning. -/
def Match.to (start : Nat) (point : Point) : Match :=
  match point.groups.find? fun item => item.1 = 0 with
  | some (_, moved, _) => ⟨moved, point⟩
  | none => ⟨start, point⟩

/-- Of some points the one that is furthest on, and of several ways to it the first. -/
def furthest? (points : List Point) : Option Point :=
  points.foldl (fun best? point =>
    match best? with
    | some best => if best.place < point.place then some point else some best
    | none => some point) none

/-- The longest match that begins at a place. -/
def matchAt (regex : Regex) (view : View) (start : Nat) : Option Match :=
  (furthest? (regex.ends view [Point.start start])).map (Match.to start)

/-- The first match from a place on, given the number of places to try. -/
def searchFrom (regex : Regex) (view : View) : Nat → Nat → Option Match
  | 0, _ => none
  | places + 1, start =>
    match regex.matchAt view start with
    | some found => some found
    | none => searchFrom regex view places (start + 1)

/-- The first match from a place on. -/
def search (regex : Regex) (view : View) (start : Nat) : Option Match :=
  if regex.isPossible view start then searchFrom regex view (view.text.size + 1 - start) start else none

/-- What a group has matched. -/
def Match.groupText (found : Match) (view : View) (number : Nat) : Chars :=
  if number = 0 then view.between found.start found.stop.place
  else
    match found.stop.groups.find? fun item => item.1 = number with
    | some (_, start, stop) => view.between start stop
    | none => []

end Regex

end CounterCatalog.Shell
