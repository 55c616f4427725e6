import CounterCatalog.Event.Code
import CounterCatalog.Proofs.Event.Site

/-!
# The format of an answer

An answer of the encoding tool gives a code where it spells out the word `Codes`, a colon between blanks, and the code
itself. What comes before the first such place does not matter, not even if it begins like one, and neither does
what comes behind the last digit. `code?_eq_iff` says that the program's code is the first that the answer spells out,
and that the program finds none exactly where the answer spells out none.
-/

set_option autoImplicit false

namespace CounterCatalog.Event

open Text

/-! ## Sites -/

/-- The text goes on with `Codes`, a colon between blanks, and a code: `0x` and a run of hexadecimal digits that is
followed by no other such digit. -/
def CodeSpelled (text code : List Char) : Prop :=
  ∃ gap digits rest, text = "Codes".toList ++ gap ++ code ++ rest ∧ IsColon gap ∧ code = '0' :: 'x' :: digits ∧
    IsRun isHexDigit digits ∧ Stops isHexDigit rest

/-- The answer spells out a code behind the text `before`. -/
def CodeBehind (answer before code : List Char) : Prop :=
  ∃ text, answer = before ++ text ∧ CodeSpelled text code

/-- The answer spells out a code, and none with less text before it. -/
def FirstCode (answer code : List Char) : Prop :=
  ∃ before, CodeBehind answer before code ∧
    ∀ before' code', CodeBehind answer before' code' → before.length ≤ before'.length

/-- A code is read at the front of a text exactly if it is spelled out there. -/
theorem codeHere?_eq_some_iff {text code : List Char} : codeHere? text = some code ↔ CodeSpelled text code := by
  simp only [codeHere?, Option.bind_eq_bind, Option.bind_eq_some_iff, dropWord?_eq_some_iff, dropColon?_eq_some_iff,
    Prod.exists, takeRun?_eq_some_iff, Option.pure_def, Option.some.injEq]
  constructor
  · rintro ⟨_, rfl, _, ⟨gap, rfl, hgap, -⟩, _, rfl, digits, rest, ⟨rfl, hdigits, hrest⟩, rfl⟩
    exact ⟨gap, digits, rest, by simp, hgap, rfl, hdigits, hrest⟩
  · rintro ⟨gap, digits, rest, rfl, hgap, rfl, hdigits, hrest⟩
    -- the gap ends before the code's zero, which is no blank
    refine ⟨gap ++ ('0' :: 'x' :: digits ++ rest), by simp, '0' :: 'x' :: digits ++ rest, ⟨gap, rfl, hgap, ?_⟩,
      digits ++ rest, rfl, digits, rest, ⟨rfl, hdigits, hrest⟩, rfl⟩
    exact stops_cons.2 (by decide)

/-- None is read at the front of a text exactly if none is spelled out there. -/
theorem codeHere?_eq_none_iff {text : List Char} : codeHere? text = none ↔ ∀ code, ¬ CodeSpelled text code := by
  simp only [← codeHere?_eq_some_iff, Option.eq_none_iff_forall_ne_some, ne_eq]

/-! ## The first code of an answer -/

/-- A code at a position stands behind the text before that position. -/
theorem codeBehind_drop {answer code : List Char} {i : Nat} (h : CodeSpelled (answer.drop i) code) :
    CodeBehind answer (answer.take i) code :=
  ⟨answer.drop i, (List.take_append_drop i answer).symm, h⟩

/-- The code that is read from an answer is the first one in it. -/
theorem codeChars?_eq_some_iff {answer code : List Char} : codeChars? answer = some code ↔ FirstCode answer code := by
  simp only [codeChars?, firstSite_eq_some_iff, codeHere?_eq_some_iff, codeHere?_eq_none_iff]
  constructor
  · rintro ⟨i, hi, hbefore⟩
    refine ⟨answer.take i, codeBehind_drop hi, ?_⟩
    rintro before' code' ⟨text, rfl, htext⟩
    rcases Nat.lt_or_ge before'.length i with hshort | hlong
    · have hnone := hbefore before'.length hshort code'
      rw [List.drop_left] at hnone
      exact absurd htext hnone
    · exact Nat.le_trans (List.length_take_le i _) hlong
  · rintro ⟨before, ⟨text, rfl, htext⟩, hfirst⟩
    refine ⟨before.length, ?_, ?_⟩
    · rw [List.drop_left]
      exact htext
    · intro j hj code' hcode'
      have hlong := hfirst _ code' (codeBehind_drop hcode')
      have htake := List.length_take_le j (before ++ text)
      omega

/-- No code is read from an answer exactly if none is spelled out anywhere in it. -/
theorem codeChars?_eq_none_iff {answer : List Char} :
    codeChars? answer = none ↔ ∀ before code, ¬ CodeBehind answer before code := by
  simp only [codeChars?, firstSite_eq_none_iff, codeHere?_eq_none_iff]
  constructor
  · rintro h before code ⟨text, rfl, htext⟩
    have hnone := h before.length code
    rw [List.drop_left] at hnone
    exact hnone htext
  · intro h i code hcode
    exact h _ code (codeBehind_drop hcode)

/-- **The format of an answer.** The code of an answer is the first one that it spells out, as far as its digits go;
and an answer has no code exactly if it spells out none. -/
theorem code?_eq_iff (answer : String) :
    (∀ code : String, code? answer = some code ↔ FirstCode answer.toList code.toList) ∧
      (code? answer = none ↔ ∀ before code, ¬ CodeBehind answer.toList before code) := by
  constructor
  · intro code
    rw [← codeChars?_eq_some_iff, code?, Option.map_eq_some_iff]
    constructor
    · rintro ⟨chars, hchars, rfl⟩
      rw [hchars, String.toList_ofList]
    · intro hchars
      exact ⟨code.toList, hchars, String.ofList_toList⟩
  · rw [← codeChars?_eq_none_iff, code?, Option.map_eq_none_iff]

/-- Neither a place that is broken off nor one without a number hides the code behind it. -/
example : code? "Codes : 0x\nCodes :Codes\t:\n 0x53003cG Codes : 0x1" = some "0x53003c" := by decide +kernel

end CounterCatalog.Event
