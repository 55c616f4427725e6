import CounterCatalog.Event.Block
import CounterCatalog.Text.Blank
import CounterCatalog.Text.Digit

/-!
# Event labels

A block names its event on a line `Name : NAME` and lists the event's variants on lines
`Umask-00 : 0x01 : PMU : [DESCRIPTION]`. The labels of the block are the bare name when it has no
variants, and otherwise one `NAME.DESCRIPTION` per variant, with each space of the description written
as an underscore. A block without a name has no labels.

The lines are found anywhere in the block: the name at the leftmost place where one stands, a variant
at the leftmost place after the end of the variant before it.
-/

set_option autoImplicit false

namespace CounterCatalog.Event

open Text

/-- What follows a colon with blanks on both sides. -/
def dropColon? (text : List Char) : Option (List Char) := do
  let text ← dropRun? isBlank text
  let text ← dropWord? [':'] text
  dropRun? isBlank text

/-- The name that the text gives to its event, if the text begins with a name line's content. -/
def nameHere? (text : List Char) : Option (List Char) := do
  let text ← dropWord? "Name".toList text
  let text ← dropColon? text
  let (name, _) ← takeRun? isNameChar text
  pure name

/-- The name of a block's event: the one at the leftmost place where a name stands. -/
def name? (block : List Char) : Option (List Char) :=
  firstSite nameHere? block

/-- What follows the number, the mask and the unit of a variant, up to and with its opening bracket. -/
def dropUmaskHead? (text : List Char) : Option (List Char) := do
  let text ← dropWord? "Umask-".toList text
  let text ← dropRun? isDecimalDigit text
  let text ← dropColon? text
  let text ← dropWord? "0x".toList text
  let text ← dropRun? isHexDigit text
  let text ← dropColon? text
  let text ← dropWord? "PMU".toList text
  let text ← dropColon? text
  dropWord? ['['] text

/-- A description goes on until a closing bracket and does not leave its line. -/
def isDescriptionChar (c : Char) : Bool :=
  c != ']' && c != '\n'

/-- The description of the variant that the text begins with, and what follows its closing bracket. -/
def umaskHere? (text : List Char) : Option (List Char × List Char) := do
  let text ← dropUmaskHead? text
  let rest ← dropWord? [']'] (text.dropWhile isDescriptionChar)
  pure (text.takeWhile isDescriptionChar, rest)

/-- The head of a variant has at least the six characters of its first word. -/
theorem length_lt_of_dropUmaskHead? {text rest : List Char} (h : dropUmaskHead? text = some rest) :
    rest.length < text.length := by
  simp only [dropUmaskHead?, dropColon?, Option.bind_eq_bind, Option.bind_eq_some_iff] at h
  obtain ⟨t₁, h₁, t₂, h₂, t₃, ⟨_, ha, _, hb, h₃⟩, t₄, h₄, t₅, h₅, t₆, ⟨_, hc, _, hd, h₆⟩,
    t₇, h₇, t₈, ⟨_, he, _, hf, h₈⟩, h₉⟩ := h
  have := length_of_dropWord? h₁
  have := length_le_of_dropRun? h₂
  have := length_le_of_dropRun? ha
  have := length_of_dropWord? hb
  have := length_le_of_dropRun? h₃
  have := length_of_dropWord? h₄
  have := length_le_of_dropRun? h₅
  have := length_le_of_dropRun? hc
  have := length_of_dropWord? hd
  have := length_le_of_dropRun? h₆
  have := length_of_dropWord? h₇
  have := length_le_of_dropRun? he
  have := length_of_dropWord? hf
  have := length_le_of_dropRun? h₈
  have := length_of_dropWord? h₉
  have : ("Umask-".toList).length = 6 := rfl
  omega

/-- A variant takes up at least one character. -/
theorem length_lt_of_umaskHere? {text description rest : List Char}
    (h : umaskHere? text = some (description, rest)) : rest.length < text.length := by
  simp only [umaskHere?, Option.bind_eq_bind, Option.bind_eq_some_iff, Option.pure_def,
    Option.some.injEq, Prod.mk.injEq] at h
  obtain ⟨t, ht, r, hr, -, rfl⟩ := h
  have := length_lt_of_dropUmaskHead? ht
  have := length_of_dropWord? hr
  have := (List.dropWhile_sublist isDescriptionChar (l := t)).length_le
  omega

/-- The descriptions of a block's variants, in order; each variant is looked for from the end of the
one before it. -/
def umasks (block : List Char) : List (List Char) :=
  match _ : umaskHere? block with
  | some (description, rest) => description :: umasks rest
  | none =>
    match block with
    | [] => []
    | _ :: block => umasks block
termination_by block.length
decreasing_by
  · exact length_lt_of_umaskHere? ‹umaskHere? block = some _›
  · simp

/-- The label of a variant: the event's name, a dot, and the description with underscores for its
spaces. -/
def variantLabel (name description : List Char) : List Char :=
  name ++ '.' :: description.map fun c => if c = ' ' then '_' else c

/-- The labels of one block, in order. -/
def blockLabels (block : List Char) : List (List Char) :=
  match name? block with
  | none => []
  | some name =>
    match umasks block with
    | [] => [name]
    | descriptions => descriptions.map (variantLabel name)

/-- The labels of one block, in order. -/
def labelsOfBlock (block : String) : List String :=
  (blockLabels block.toList).map String.ofList

/-- The labels of a whole event listing, in order and with repetitions. -/
def listingLabels (listing : List Char) : List (List Char) :=
  (blockChars listing).flatMap blockLabels

/-- The labels of a whole event listing, in order and with repetitions. -/
def labels (listing : String) : List String :=
  (listingLabels listing.toList).map String.ofList

end CounterCatalog.Event
