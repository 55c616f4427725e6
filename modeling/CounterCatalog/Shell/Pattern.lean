import CounterCatalog.Shell.Syntax

/-!
# Patterns of the shell

A pattern matches whole texts: `*` any run of characters, `?` any character, a bracket any character of a
set, and everything else itself. Only characters that were not quoted mean anything special, so a pattern
is made from glyphs, which remember where their characters come from. A backslash that an expansion put in
takes the meaning off the character behind it.
-/

set_option autoImplicit false

namespace CounterCatalog.Shell

/-- A character of an expanded word, with what may still happen to it. -/
inductive Glyph where
  /-- Written in the script, and may be special in a pattern. -/
  | plain (c : Char)
  /-- Quoted: nothing more happens to it. -/
  | quoted (c : Char)
  /-- Put in by an expansion: it may also separate fields. -/
  | expanded (c : Char)
  /-- No character, but a field is here even if it stays empty. -/
  | mark
  /-- No character, but one field ends and another begins here. -/
  | cut
  /-- No character, but fields are separated here as by a blank. -/
  | gap
deriving DecidableEq

namespace Glyph

/-- The character of a glyph, if it has one. -/
def char? : Glyph → Option Char
  | plain c | quoted c | expanded c => some c
  | mark => none
  | cut | gap => some ' '

/-- The characters of glyphs. -/
def text (glyphs : List Glyph) : Chars :=
  glyphs.filterMap char?

/-- The character of a glyph that may be special in a pattern. -/
def active? : Glyph → Option Char
  | plain c | expanded c => some c
  | _ => none

/-- Glyphs without the backslashes that expansions put in, each of which takes the meaning off the character
behind it. -/
def settled : List Glyph → List Glyph
  | [] => []
  | [glyph] => [glyph]
  | .expanded '\\' :: next :: rest =>
    match next.char? with
    | some c => .quoted c :: settled rest
    | none => .quoted '\\' :: settled rest
  | glyph :: next :: rest => glyph :: settled (next :: rest)

end Glyph

/-- The classes of characters that have names in patterns. -/
def isInClass (name : Chars) (c : Char) : Bool :=
  let isLower := 'a' ≤ c && c ≤ 'z'
  let isUpper := 'A' ≤ c && c ≤ 'Z'
  let isGraph := '!' ≤ c && c ≤ '~'
  match String.ofList name with
  | "lower" => isLower
  | "upper" => isUpper
  | "alpha" => isLower || isUpper
  | "digit" => c.isDigit
  | "alnum" => isLower || isUpper || c.isDigit
  | "xdigit" => c.isDigit || ('a' ≤ c && c ≤ 'f') || ('A' ≤ c && c ≤ 'F')
  | "space" => c = ' ' || ('\t' ≤ c && c ≤ '\r')
  | "blank" => c = ' ' || c = '\t'
  | "graph" => isGraph
  | "print" => isGraph || c = ' '
  | "punct" => isGraph && !(isLower || isUpper || c.isDigit)
  | "cntrl" => c < ' ' || c = '\x7f'
  | _ => false

/-- A piece of a set of characters. -/
inductive SetItem where
  /-- The characters between two, and these two. -/
  | range (low high : Char)
  /-- The characters of a class. -/
  | named (name : Chars)
deriving DecidableEq

namespace SetItem

/-- A character belongs to a piece. -/
def contains (c : Char) : SetItem → Bool
  | range low high => low ≤ c && c ≤ high
  | named name => isInClass name c

end SetItem

/-- One element of a pattern. -/
inductive Matcher where
  /-- One character. -/
  | one (c : Char)
  /-- Any character. -/
  | any
  /-- Any run of characters. -/
  | many
  /-- Any character of a set, or none of them. -/
  | set (negated : Bool) (items : List SetItem)
deriving DecidableEq

namespace Matcher

/-- The name of a class between colons, and what follows the bracket that closes it. -/
def className? (glyphs : List Glyph) : Option (Chars × List Glyph) :=
  match glyphs with
  | .plain '[' :: .plain ':' :: rest | .expanded '[' :: .expanded ':' :: rest =>
    let name := rest.takeWhile fun glyph => (glyph.active?).any fun c => 'a' ≤ c && c ≤ 'z'
    match (rest.drop name.length).map Glyph.active? with
    | some ':' :: some ']' :: _ => some (Glyph.text name, rest.drop (name.length + 2))
    | _ => none
  | _ => none

/-- The pieces of a set up to the bracket that closes it, and what follows, given at least as many steps as
there are glyphs; a closing bracket at the very front belongs to the set. -/
def items? : Nat → Bool → List Glyph → Option (List SetItem × List Glyph)
  | 0, _, _ => none
  | _, _, [] => none
  | steps + 1, first, glyph :: rest =>
    if glyph.active? = some ']' ∧ first = false then some ([], rest)
    else
      match className? (glyph :: rest) with
      | some (name, after) =>
        (items? steps false after).map fun (items, left) => (.named name :: items, left)
      | none =>
        match glyph.char?, rest with
        | none, rest => items? steps first rest
        | some low, dash :: next :: after =>
          if dash.active? = some '-' ∧ next.active? ≠ some ']' then
            match next.char? with
            | some high =>
              (items? steps false after).map fun (items, left) => (.range low high :: items, left)
            | none =>
              (items? steps false rest).map fun (items, left) => (.range low low :: items, left)
          else (items? steps false rest).map fun (items, left) => (.range low low :: items, left)
        | some low, rest =>
          (items? steps false rest).map fun (items, left) => (.range low low :: items, left)

/-- A set after the bracket that opens it, and what follows it. -/
def set? (glyphs : List Glyph) : Option (Matcher × List Glyph) :=
  match glyphs with
  | glyph :: rest =>
    if glyph.active? = some '!' then
      (items? (rest.length + 1) true rest).map fun (items, left) => (set true items, left)
    else
      (items? (glyphs.length + 1) true glyphs).map fun (items, left) => (set false items, left)
  | [] => none

/-- The pattern that settled glyphs make, given at least as many steps as there are glyphs. -/
def ofGlyphsIn : Nat → List Glyph → List Matcher
  | 0, _ => []
  | _, [] => []
  | steps + 1, glyph :: rest =>
    match glyph.active? with
    | some '*' => many :: ofGlyphsIn steps rest
    | some '?' => any :: ofGlyphsIn steps rest
    | some '[' =>
      match set? rest with
      | some (found, after) => found :: ofGlyphsIn steps after
      | none => one '[' :: ofGlyphsIn steps rest
    | _ =>
      match glyph.char? with
      | some c => one c :: ofGlyphsIn steps rest
      | none => ofGlyphsIn steps rest

/-- The pattern that glyphs make. -/
def ofGlyphs (glyphs : List Glyph) : List Matcher :=
  ofGlyphsIn (glyphs.length + 1) (Glyph.settled glyphs)

/-- An element other than a run accepts a character. -/
def accepts (c : Char) : Matcher → Bool
  | one d => c = d
  | any => true
  | many => false
  | set negated items => (items.any (SetItem.contains c)) != negated

/-- All ends of a text, the longest first, each with the number of characters in front of it, given those that have
been found already, the last one first, and the number in front of the text. -/
def tailsFrom (found : List (Nat × Chars)) (count : Nat) : Chars → List (Nat × Chars)
  | [] => ((count, []) :: found).reverse
  | c :: text => tailsFrom ((count, c :: text) :: found) (count + 1) text

/-- The rests of texts behind the beginnings that a pattern matches, each with the number of characters in front of
it, those with the fewest first. -/
def rests : List Matcher → List (Nat × Chars) → List (Nat × Chars)
  | [], texts => texts
  | many :: pattern, texts =>
    match texts with
    | [] => []
    | (count, longest) :: _ => rests pattern (tailsFrom [] count longest)
  | matcher :: pattern, texts =>
    rests pattern (texts.filterMap fun (count, text) =>
      match text with
      | c :: rest => if matcher.accepts c then some (count + 1, rest) else none
      | [] => none)

/-- A pattern matches a whole text. -/
def matchesAll (pattern : List Matcher) (text : Chars) : Bool :=
  (rests pattern [(0, text)]).any fun item => item.2.isEmpty

/-- The lengths at which a text can be cut so that a pattern matches what is cut off, from the shortest
cut on. -/
def cuts (pattern : List Matcher) (front : Bool) (text : Chars) : List Nat :=
  let found := if front then rests pattern [(0, text)] else rests pattern.reverse [(0, text.reverse)]
  found.map Prod.fst

/-- A text without what a pattern matches at one end of it. -/
def trim (pattern : List Matcher) (front longest : Bool) (text : Chars) : Chars :=
  let found := cuts pattern front text
  match if longest then found.getLast? else found.head? with
  | none => text
  | some count => if front then text.drop count else text.take (text.length - count)

/-- Texts one behind the other without what a pattern matches at one end of them. At the front that is a part of
the first text, or everything if the longest match is the whole of it. At the back the shortest match is looked
for in the last text first, the longest one in the first text only, and what stands behind goes too. -/
def trimAll (pattern : List Matcher) (front longest : Bool) : List Chars → List Chars
  | [] => []
  | text :: rest =>
    let found := cuts pattern front text
    let first := trim pattern front longest text
    if front then
      if longest ∧ found.getLast? = some text.length then [[]] else first :: rest
    else if longest then
      if found.isEmpty then text :: rest else [first]
    else if rest.any fun other => !(cuts pattern front other).isEmpty then
      text :: trimAll pattern front longest rest
    else if found.isEmpty then text :: rest else [first]

end Matcher

end CounterCatalog.Shell
