/-!
# Scanning from the front

A scanner looks at the front of a text and, if it finds what it wants, gives what it found together
with the untouched rest. Two scanners suffice for the tools' output: a fixed word, and the longest
run of characters of a class. `firstSite` tries a scanner at every position from the left.
-/

set_option autoImplicit false

namespace CounterCatalog.Text

/-- What follows `word`, if the text begins with it. -/
def dropWord? : List Char → List Char → Option (List Char)
  | [], text => some text
  | _ :: _, [] => none
  | c :: word, d :: text => if c = d then dropWord? word text else none

/-- The longest run of characters of a class at the front of the text, and the rest; the run has to
have at least one character. -/
def takeRun? (p : Char → Bool) (text : List Char) : Option (List Char × List Char) :=
  match text.takeWhile p with
  | [] => none
  | c :: run => some (c :: run, text.dropWhile p)

/-- What follows the longest run of characters of a class; the run has to have at least one
character. -/
def dropRun? (p : Char → Bool) (text : List Char) : Option (List Char) :=
  (takeRun? p text).map Prod.snd

/-- What the scanner finds at the leftmost position where it finds something. -/
def firstSite {α : Type} (scan : List Char → Option α) : List Char → Option α
  | [] => scan []
  | c :: text =>
    match scan (c :: text) with
    | some found => some found
    | none => firstSite scan text

/-- A word is dropped exactly from the texts that consist of it and the rest. -/
theorem dropWord?_eq_some_iff {word text rest : List Char} :
    dropWord? word text = some rest ↔ text = word ++ rest := by
  induction word generalizing text with
  | nil => simp [dropWord?]
  | cons c word ih =>
    cases text with
    | nil => simp [dropWord?]
    | cons d text =>
      by_cases h : c = d
      · subst h; simp [dropWord?, ih]
      · simp [dropWord?, h, Ne.symm h]

/-- Dropping a word leaves what the word's length says. -/
theorem length_of_dropWord? {word text rest : List Char} (h : dropWord? word text = some rest) :
    text.length = word.length + rest.length := by
  rw [dropWord?_eq_some_iff.1 h, List.length_append]

/-- A run and its rest make up the text. -/
theorem append_of_takeRun? {p : Char → Bool} {text run rest : List Char}
    (h : takeRun? p text = some (run, rest)) : text = run ++ rest := by
  unfold takeRun? at h
  split at h
  · cases h
  · next c r hr =>
    obtain ⟨rfl, rfl⟩ := Prod.mk.inj (Option.some.inj h)
    rw [← hr, List.takeWhile_append_dropWhile]

/-- Dropping a run never lengthens the text. -/
theorem length_le_of_dropRun? {p : Char → Bool} {text rest : List Char}
    (h : dropRun? p text = some rest) : rest.length ≤ text.length := by
  unfold dropRun? at h
  obtain ⟨⟨run, r⟩, hr, rfl⟩ := Option.map_eq_some_iff.1 h
  rw [append_of_takeRun? hr, List.length_append]
  exact Nat.le_add_left _ _

end CounterCatalog.Text
