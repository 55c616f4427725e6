import CounterCatalog.Proofs.Event.Code

/-!
# What labels and codes are made of

A label is not empty and stays on one line: the characters of an event name are no line feeds, and a description
does not leave its line. A code is `0x` and one or more hexadecimal digits.
-/

set_option autoImplicit false

namespace CounterCatalog.Event

open Text

/-! ## Labels -/

/-- No description has a line feed in it. -/
theorem newline_not_mem_of_variants {text : List Char} {descriptions : List (List Char)}
    (h : Variants text descriptions) : ∀ description ∈ descriptions, '\n' ∉ description := by
  induction h with
  | done => simp
  | next i hsite _ _ ih =>
    intro description hmem hnewline
    rcases List.mem_cons.1 hmem with rfl | hmem
    · exact (hsite.2 '\n' hnewline).2 rfl
    · exact ih description hmem hnewline

/-- The name of a block is of some length and on one line. -/
theorem LeftmostName.line {block name : List Char} (h : LeftmostName block name) : name ≠ [] ∧ '\n' ∉ name := by
  obtain ⟨i, ⟨gap, rest, -, -, ⟨hne, hchars⟩, -⟩, -⟩ := h
  exact ⟨hne, fun hmem => absurd (hchars '\n' hmem) (by decide)⟩

/-- The labels of a block are not empty and have no line feed in them. -/
theorem BlockLabels.line {block : List Char} {labels : List (List Char)} (h : BlockLabels block labels) :
    ∀ label ∈ labels, label ≠ [] ∧ '\n' ∉ label := by
  cases h with
  | unnamed => simp
  | bare hname => simpa using hname.line
  | varied hname hvariants =>
    intro label hmem
    obtain ⟨description, hdescription, rfl⟩ := List.mem_map.1 hmem
    refine ⟨by simp, fun hnewline => ?_⟩
    rcases List.mem_append.1 hnewline with hnewline | hnewline
    · exact hname.line.2 hnewline
    rcases List.mem_cons.1 hnewline with hnewline | hnewline
    · cases hnewline
    -- An underscore is no line feed either, so one would stand in the description itself.
    obtain ⟨c, hc, heq⟩ := List.mem_map.1 hnewline
    split at heq
    · cases heq
    · subst heq
      exact newline_not_mem_of_variants hvariants description hdescription hc

/-- **Every label of a listing is not empty and has no line feed in it.** -/
theorem line_of_mem_labels {listing label : String} (h : label ∈ labels listing) :
    label ≠ "" ∧ '\n' ∉ label.toList := by
  obtain ⟨chars, hchars, rfl⟩ := List.mem_map.1 h
  obtain ⟨block, -, hblock⟩ := List.mem_flatMap.1 hchars
  obtain ⟨hne, hline⟩ := (blockLabels_eq_iff.1 rfl).line chars hblock
  rw [String.toList_ofList]
  exact ⟨fun hempty => hne (by simpa using congrArg String.toList hempty), hline⟩

/-! ## Codes -/

/-- **Every code is `0x` and one or more hexadecimal digits.** -/
theorem hex_of_code? {answer code : String} (h : code? answer = some code) :
    ∃ digits, IsRun isHexDigit digits ∧ code.toList = '0' :: 'x' :: digits := by
  obtain ⟨chars, hchars, rfl⟩ := Option.map_eq_some_iff.1 h
  obtain ⟨-, ⟨-, -, -, digits, -, -, -, hcode, hdigits, -⟩, -⟩ := codeChars?_eq_some_iff.1 hchars
  rw [String.toList_ofList]
  exact ⟨digits, hdigits, hcode⟩

end CounterCatalog.Event
