import CounterCatalog.Shell.Tool.Grep.Search

/-!
# Showing lines

A selected line is shown, or only what matches in it, with what is known about it in front: the name of its file, its
number, and the number of bytes before it. Lines around it may be shown too, with other signs behind these things,
and something that separates groups of lines.
-/

set_option autoImplicit false

namespace CounterCatalog.Shell.Tool.Grep

/-- How lines are shown. -/
structure Showing where
  /-- The name of the file stands in front. -/
  name? : Option Chars
  /-- A zero stands behind the name. -/
  zeros : Bool
  /-- The number of the line stands in front. -/
  numbers : Bool
  /-- The number of bytes in front of what is shown stands there too. -/
  offsets : Bool
  /-- A tab stands in front of what is shown. -/
  tabs : Bool
  /-- Only the matches are shown. -/
  parts : Bool
  /-- Colours show what is what. -/
  colours : Bool
  /-- The number of lines that are shown in front of a selected one. -/
  before? : Option Nat
  /-- The number of lines that are shown behind a selected one. -/
  after? : Option Nat
  /-- What separates groups of lines. -/
  separator? : Option Chars
  /-- What ends a line. -/
  ending : Char

namespace Showing

/-- A text in a colour, if there are colours. -/
def coloured (showing : Showing) (colour : String) (text : Chars) : Chars :=
  if showing.colours then "\x1b[".toList ++ colour.toList ++ "m\x1b[K".toList ++ text ++ "\x1b[m\x1b[K".toList
  else text

/-- A sign that separates. -/
def sign (showing : Showing) (c : Char) : Chars :=
  showing.coloured "36" [c]

/-- The name of the file and what stands behind it. -/
def nameThen (showing : Showing) (c : Char) : Chars :=
  match showing.name? with
  | some name => showing.coloured "35" name ++ if showing.zeros then ['\x00'] else showing.sign c
  | none => []

/-- What stands in front of something that is shown, given how long that is. -/
def front (showing : Showing) (c : Char) (number offset size : Nat) : Chars :=
  let counted := fun n : Nat => showing.coloured "32" (Chars.ofNat n) ++ showing.sign c
  let front := showing.nameThen c ++ (if showing.numbers then counted number else []) ++
    if showing.offsets then counted offset else []
  if showing.tabs ∧ !front.isEmpty ∧ size ≠ 0 then front ++ ['\t'] else front

/-- A match in its colour. -/
def found (showing : Showing) (text : Chars) : Chars :=
  showing.coloured "01;31" text

/-- A line with its matches in their colour, given the place up to which it has been shown. -/
def marked (showing : Showing) (view : Regex.View) : Nat → List (Nat × Nat) → Chars
  | place, [] => view.between place view.text.size
  | place, (start, stop) :: rest =>
    view.between place start ++ showing.found (view.between start stop) ++ marked showing view stop rest

/-- What is shown of a line that is selected or stands near one, given the sign for that. -/
def line (showing : Showing) (search : Search) (c : Char) (item : Candidate) : Chars :=
  let hasMatches := (c = ':') != search.inverted
  let view := search.view item.text
  if showing.parts then
    if !hasMatches then []
    else
      (search.allMatches view).flatMap fun (start, stop) =>
        showing.front c item.number (item.offset + start) (stop - start) ++
          showing.found (view.between start stop) ++ [showing.ending]
  else
    let body := if showing.colours ∧ hasMatches then showing.marked view 0 (search.allMatches view) else item.text
    showing.front c item.number item.offset item.text.length ++ body ++ [showing.ending]

/-- How far the showing of lines has come. -/
structure State where
  /-- The lines that have been passed over, the last one first. -/
  passed : List Candidate
  /-- The number of lines that are still shown behind a selected one. -/
  more : Nat
  /-- Lines have been shown before those that have been passed over. -/
  shown : Bool
  /-- A line of this file has been selected. -/
  any : Bool
  /-- What is shown, the last piece first. -/
  pieces : List Chars

/-- Goes on to the next line. -/
def step (showing : Showing) (search : Search) (state : State) (item : Candidate) : State :=
  if item.selected then
    let front := (state.passed.take (showing.before?.getD 0)).reverse
    let hasGap := state.shown && (!state.any || front.length < state.passed.length) &&
      (showing.before?.isSome || showing.after?.isSome)
    let gap :=
      match showing.separator? with
      | some separator => if hasGap then [showing.coloured "36" separator ++ ['\n']] else []
      | none => []
    let shown := gap ++ front.map (showing.line search '-') ++ [showing.line search ':' item]
    ⟨[], showing.after?.getD 0, true, true, shown.reverse ++ state.pieces⟩
  else
    match state.more with
    | more + 1 => { state with more := more, pieces := showing.line search '-' item :: state.pieces }
    | 0 => { state with passed := item :: state.passed }

/-- What is shown of lines, given whether lines have been shown before. -/
def lines (showing : Showing) (search : Search) (shown : Bool) (items : List Candidate) : Chars :=
  (items.foldl (showing.step search) ⟨[], 0, shown, false, []⟩).pieces.reverse.flatten

end Showing

end CounterCatalog.Shell.Tool.Grep
