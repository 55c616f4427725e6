import CounterCatalog.Text.Scan

/-!
# Cutting and joining

A text is cut at a single separator (`splitOn`) or at every occurrence of a separating word, from the
left and without overlap (`splitOnWord`). Both give one piece more than they find separators, so that
joining the pieces again gives the text back. `terminatedLines` cuts a byte text into lines.
-/

set_option autoImplicit false

namespace CounterCatalog.Text

/-- The pieces with an element put in front of the first of them. -/
def consFirst {α : Type} (a : α) : List (List α) → List (List α)
  | [] => [[a]]
  | piece :: pieces => (a :: piece) :: pieces

/-- The pieces between the occurrences of a separator, empty ones included. -/
def splitOn {α : Type} [DecidableEq α] (sep : α) : List α → List (List α)
  | [] => [[]]
  | a :: text => if a = sep then [] :: splitOn sep text else consFirst a (splitOn sep text)

/-- The pieces with a separator between any two of them. -/
def joinWith {α : Type} (sep : List α) : List (List α) → List α
  | [] => []
  | [piece] => piece
  | piece :: next :: pieces => piece ++ sep ++ joinWith sep (next :: pieces)

/-- The pieces between the occurrences of the word `c :: word`, found from the left without
overlap. -/
def splitOnWord (c : Char) (word : List Char) (text : List Char) : List (List Char) :=
  match _ : dropWord? (c :: word) text with
  | some rest => [] :: splitOnWord c word rest
  | none =>
    match text with
    | [] => [[]]
    | d :: text => consFirst d (splitOnWord c word text)
termination_by text.length
decreasing_by
  · have := length_of_dropWord? ‹dropWord? (c :: word) text = some _›
    simp only [List.length_cons] at this
    omega
  · simp

/-- The lines of a byte text: a line ends at a line feed, before which one carriage return is dropped
too, and bytes after the last line feed make a line of their own, kept as they are. -/
def terminatedLines (bytes : List UInt8) : List (List UInt8) :=
  let pieces := splitOn 0x0A bytes
  let whole := pieces.dropLast.map fun line =>
    if line.getLast? = some 0x0D then line.dropLast else line
  match pieces.getLast? with
  | some (b :: rest) => whole ++ [b :: rest]
  | _ => whole

end CounterCatalog.Text
