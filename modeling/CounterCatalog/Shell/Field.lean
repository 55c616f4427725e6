import CounterCatalog.Shell.Pattern

/-!
# Fields

A word that has been expanded is divided into fields, at the separators among the characters that
expansions put in. Blank separators in a row count once, together with at most one other separator among
them, and those at the front of a field do not count at all. A field without characters is left out unless
something in the word was quoted there.
-/

set_option autoImplicit false

namespace CounterCatalog.Shell

/-- The separators of fields, where no others are set. -/
def standardSeparators : Chars := Chars.blanks

/-- How far the division of a word has come. -/
structure Division where
  /-- The fields that are complete, last one first. -/
  fields : List (List Glyph)
  /-- The glyphs of the next field, last one first. -/
  field : List Glyph
  /-- A blank separator has just ended a field. -/
  blank : Bool

namespace Division

/-- Nothing has been divided yet. -/
def start : Division := ⟨[], [], false⟩

/-- The glyph belongs to the field. -/
def keep (division : Division) (glyph : Glyph) : Division :=
  { division with field := glyph :: division.field, blank := false }

/-- The field ends here. -/
def finish (division : Division) (blank : Bool) : Division :=
  ⟨division.field.reverse :: division.fields, [], blank⟩

/-- A blank separator stands here. -/
def separate (division : Division) : Division :=
  if division.field.isEmpty then division else division.finish true

/-- Takes the next glyph. -/
def step (separators : Chars) (division : Division) (glyph : Glyph) : Division :=
  match glyph with
  | .expanded c =>
    if !separators.contains c then division.keep glyph
    else if Chars.blanks.contains c then division.separate
    else if division.blank then { division with blank := false }
    else division.finish false
  | .gap => division.separate
  | .cut => division.finish false
  | .plain _ | .quoted _ | .mark => division.keep glyph

/-- All fields, the last of them unless it is empty. -/
def result (division : Division) : List (List Glyph) :=
  if division.field.isEmpty then division.fields.reverse
  else (division.field.reverse :: division.fields).reverse

end Division

/-- The fields of an expanded word. -/
def Glyph.fields (separators : Chars) (glyphs : List Glyph) : List (List Glyph) :=
  (glyphs.foldl (Division.step separators) Division.start).result

end CounterCatalog.Shell
