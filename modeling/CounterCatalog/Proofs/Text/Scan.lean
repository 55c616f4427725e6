import CounterCatalog.Text.Blank
import CounterCatalog.Text.Digit
import CounterCatalog.Text.Scan

/-!
# What the scanners find

A run of a class of characters is found as a whole: `takeRun?` succeeds exactly on a run of the class
that is followed by something else, so a pattern made of runs and words has at most one way to match as
long as what follows a run never begins with a character of the run's class. `firstSite` finds what the
scanner finds at the leftmost position at which it finds anything.

The last section is about text that cannot contain a word whose first character occurs in it only once.
Such a word does not overlap itself, and an occurrence that begins in one piece of a text and ends in the
next needs a next piece that begins inside the word.
-/

set_option autoImplicit false

namespace CounterCatalog.Text

/-! ## Runs -/

/-- One or more characters of a class. -/
def IsRun (p : Char → Bool) (run : List Char) : Prop :=
  run ≠ [] ∧ ∀ c ∈ run, p c = true

instance (p : Char → Bool) (run : List Char) : Decidable (IsRun p run) :=
  decidable_of_iff (run ≠ [] ∧ run.all p = true) (and_congr_right fun _ => List.all_eq_true)

/-- The text does not begin with a character of a class. -/
def Stops (p : Char → Bool) (rest : List Char) : Prop :=
  ∀ c ∈ rest.head?, p c = false

/-- Every run ends where the text ends. -/
@[simp] theorem stops_nil {p : Char → Bool} : Stops p [] := by
  simp [Stops]

/-- A run ends before a character that is not of its class. -/
@[simp] theorem stops_cons {p : Char → Bool} {c : Char} {rest : List Char} :
    Stops p (c :: rest) ↔ p c = false := by
  simp [Stops]

/-- What is left of a text after its characters of a class does not begin with one. -/
theorem stops_dropWhile (p : Char → Bool) (text : List Char) : Stops p (text.dropWhile p) := by
  intro c hc
  have h := List.head?_dropWhile_not p text
  rw [Option.mem_def.1 hc] at h
  simpa using h

/-- The characters of a class at the front of a text are as many as stand before one of another class. -/
theorem takeWhile_append_of_stops {p : Char → Bool} {run rest : List Char} (hrun : ∀ c ∈ run, p c = true)
    (hrest : Stops p rest) : (run ++ rest).takeWhile p = run := by
  rw [List.takeWhile_append_of_pos hrun]
  cases rest with
  | nil => simp
  | cons c rest =>
    rw [stops_cons] at hrest
    simp [hrest]

/-- Characters of a class are dropped up to where they stop. -/
theorem dropWhile_append_of_stops {p : Char → Bool} {run rest : List Char} (hrun : ∀ c ∈ run, p c = true)
    (hrest : Stops p rest) : (run ++ rest).dropWhile p = rest := by
  rw [List.dropWhile_append_of_pos hrun]
  cases rest with
  | nil => rfl
  | cons c rest =>
    rw [stops_cons] at hrest
    simp [hrest]

/-- A run is taken exactly when the text consists of it and a rest that does not go on with it. -/
theorem takeRun?_eq_some_iff {p : Char → Bool} {text run rest : List Char} :
    takeRun? p text = some (run, rest) ↔ text = run ++ rest ∧ IsRun p run ∧ Stops p rest := by
  constructor
  · intro h
    have happ := append_of_takeRun? h
    unfold takeRun? at h
    split at h
    · cases h
    · next c r hr =>
      obtain ⟨rfl, rfl⟩ := Prod.mk.inj (Option.some.inj h)
      refine ⟨happ, ⟨by simp, fun d hd => ?_⟩, stops_dropWhile p text⟩
      rw [← hr] at hd
      exact List.all_eq_true.1 List.all_takeWhile d hd
  · rintro ⟨rfl, ⟨hne, hrun⟩, hrest⟩
    unfold takeRun?
    rw [takeWhile_append_of_stops hrun hrest, dropWhile_append_of_stops hrun hrest]
    cases run with
    | nil => exact absurd rfl hne
    | cons c run => rfl

/-- A run is dropped exactly when the text consists of a run and a rest that does not go on with it. -/
theorem dropRun?_eq_some_iff {p : Char → Bool} {text rest : List Char} :
    dropRun? p text = some rest ↔ ∃ run, text = run ++ rest ∧ IsRun p run ∧ Stops p rest := by
  simp [dropRun?, takeRun?_eq_some_iff]

/-! ## Classes that have nothing in common -/

/-- No blank is a decimal digit. -/
theorem isDecimalDigit_of_isBlank {c : Char} (h : isBlank c = true) : isDecimalDigit c = false := by
  have hn : ∀ n : Nat, (0x09 ≤ n ∧ n ≤ 0x0D) ∨ n = 0x20 ∨ n = 0x85 ∨ n = 0xA0 ∨ n = 0x1680 ∨
      (0x2000 ≤ n ∧ n ≤ 0x200A) ∨ n = 0x2028 ∨ n = 0x2029 ∨ n = 0x202F ∨ n = 0x205F ∨ n = 0x3000 →
      ∀ start ∈ digitZeros, ¬ (start ≤ n ∧ n ≤ start + 9) := by
    intro n hn start hstart
    simp only [digitZeros, List.mem_cons, List.not_mem_nil, or_false] at hstart
    omega
  simp only [isBlank, Bool.or_eq_true, Bool.and_eq_true, decide_eq_true_eq, beq_iff_eq] at h
  simp only [isDecimalDigit, List.any_eq_false, Bool.and_eq_true, decide_eq_true_eq]
  exact hn c.toNat (by omega)

/-- No blank is a hexadecimal digit. -/
theorem isHexDigit_of_isBlank {c : Char} (h : isBlank c = true) : isHexDigit c = false := by
  simp only [isBlank, Bool.or_eq_true, Bool.and_eq_true, decide_eq_true_eq, beq_iff_eq] at h
  simp only [isHexDigit, Bool.or_eq_false_iff, Bool.and_eq_false_iff, decide_eq_false_iff_not,
    Char.le_def, UInt32.le_iff_toNat_le]
  have : c.val.toNat = c.toNat := rfl
  simp only [this]
  refine ⟨⟨?_, ?_⟩, ?_⟩ <;> simp <;> omega

/-- No character of a name is blank. -/
theorem isBlank_of_isNameChar {c : Char} (h : isNameChar c = true) : isBlank c = false := by
  cases hb : isBlank c with
  | false => rfl
  | true =>
    simp only [isBlank, Bool.or_eq_true, Bool.and_eq_true, decide_eq_true_eq, beq_iff_eq] at hb
    simp only [isNameChar, Bool.or_eq_true, Bool.and_eq_true, decide_eq_true_eq, beq_iff_eq,
      Char.le_def, UInt32.le_iff_toNat_le] at h
    have hc : c.val.toNat = c.toNat := rfl
    simp only [hc] at h
    rcases h with (((h | h) | h) | rfl) | rfl
    · simp at h; omega
    · simp at h; omega
    · simp at h; omega
    · simp at hb
    · simp at hb

/-! ## The leftmost site -/

/-- There is no first site exactly if there is none at any position. -/
theorem firstSite_eq_none_iff {α : Type} {scan : List Char → Option α} {text : List Char} :
    firstSite scan text = none ↔ ∀ i, scan (text.drop i) = none := by
  induction text with
  | nil => simp [firstSite]
  | cons c text ih =>
    unfold firstSite
    cases hs : scan (c :: text) with
    | some found =>
      simp only [reduceCtorEq, false_iff]
      intro h
      have := h 0
      simp [hs] at this
    | none =>
      rw [ih]
      constructor
      · intro h i
        cases i with
        | zero => exact hs
        | succ i => exact h i
      · intro h i
        exact h (i + 1)

/-- Something is found exactly when the scanner finds it at a position, and nothing at any position
before. -/
theorem firstSite_eq_some_iff {α : Type} {scan : List Char → Option α} {text : List Char} {found : α} :
    firstSite scan text = some found ↔
      ∃ i, scan (text.drop i) = some found ∧ ∀ j < i, scan (text.drop j) = none := by
  induction text with
  | nil =>
    simp only [firstSite, List.drop_nil]
    constructor
    · intro h
      exact ⟨0, h, fun j hj => absurd hj (Nat.not_lt_zero j)⟩
    · rintro ⟨i, h, -⟩
      exact h
  | cons c text ih =>
    unfold firstSite
    cases hs : scan (c :: text) with
    | some first =>
      constructor
      · rintro h
        exact ⟨0, by simpa [hs] using h, fun j hj => absurd hj (Nat.not_lt_zero j)⟩
      · rintro ⟨i, h, hbefore⟩
        cases i with
        | zero => simpa [hs] using h
        | succ i =>
          have := hbefore 0 (Nat.succ_pos i)
          simp [hs] at this
    | none =>
      rw [ih]
      constructor
      · rintro ⟨i, h, hbefore⟩
        refine ⟨i + 1, h, fun j hj => ?_⟩
        cases j with
        | zero => exact hs
        | succ j => exact hbefore j (Nat.lt_of_succ_lt_succ hj)
      · rintro ⟨i, h, hbefore⟩
        cases i with
        | zero =>
          rw [List.drop_zero, hs] at h
          cases h
        | succ i => exact ⟨i, h, fun j hj => hbefore (j + 1) (Nat.succ_lt_succ hj)⟩

/-! ## Words that do not overlap themselves -/

/-- A word that begins in a piece of a text ends there too, unless the text after the piece begins inside the
word. -/
theorem prefix_of_prefix_append {c : Char} {word piece next : List Char} (hpre : c :: word <+: piece ++ next)
    (hne : piece ≠ []) (hnext : ∀ d ∈ next.head?, d ∉ word) : c :: word <+: piece := by
  rcases List.prefix_or_prefix_of_prefix hpre (List.prefix_append piece next) with h | ⟨rest, hrest⟩
  · exact h
  · -- the word is the piece and more, and what more there is begins like the next piece
    obtain ⟨a, piece, rfl⟩ := List.exists_cons_of_ne_nil hne
    rw [← hrest, List.prefix_append_right_inj] at hpre
    rw [List.cons_append, List.cons.injEq] at hrest
    cases rest with
    | nil =>
      rw [List.append_nil] at hrest
      obtain ⟨rfl, rfl⟩ := hrest
      exact List.prefix_rfl
    | cons d rest =>
      obtain ⟨tail, rfl⟩ := hpre
      have hd : d ∉ word := hnext d (by simp)
      apply absurd _ hd
      rw [← hrest.2]
      simp

/-- A word whose first character occurs in it only once begins in a text without it only if the text
after that begins inside the word. -/
theorem not_prefix_append {c : Char} {word piece next : List Char} (hpiece : ¬ c :: word <:+: piece)
    (hne : piece ≠ []) (hnext : ∀ d ∈ next.head?, d ∉ word) : ¬ c :: word <+: piece ++ next := by
  intro hpre
  exact hpiece (prefix_of_prefix_append hpre hne hnext).isInfix

/-- A word occurs in a text only if all of its characters do. -/
theorem not_infix_of_not_mem {d : Char} {word text : List Char} (hword : d ∈ word) (htext : d ∉ text) :
    ¬ word <:+: text :=
  fun h => htext (h.subset hword)

/-- A word lies on one side of a character that it does not have. -/
theorem infix_append_cons {d : Char} {word left right : List Char} (hd : d ∉ word)
    (h : word <:+: left ++ d :: right) : word <:+: left ∨ word <:+: right := by
  obtain ⟨before, after, h⟩ := h
  rw [List.append_assoc, List.append_eq_append_iff] at h
  obtain ⟨gap, rfl, h⟩ | ⟨gap, rfl, h⟩ := h
  · -- the word begins in what is left of the character, so it ends there
    rw [List.append_eq_append_iff] at h
    obtain ⟨more, rfl, -⟩ | ⟨more, rfl, h⟩ := h
    · exact .inl ⟨before, more, by simp⟩
    · cases more with
      | nil => exact .inl ⟨before, [], by simp⟩
      | cons e more =>
        rw [List.cons_append, List.cons.injEq] at h
        exact absurd (by simp [h.1]) hd
  · cases gap with
    | nil =>
      cases word with
      | nil => exact .inl List.nil_infix
      | cons e word =>
        rw [List.nil_append, List.cons_append, List.cons.injEq] at h
        exact absurd (by simp [h.1]) hd
    | cons e gap =>
      rw [List.cons_append, List.cons.injEq] at h
      exact .inr ⟨gap, after, by rw [h.2, List.append_assoc]⟩

/-- A text that has a character which a word has not is free of the word if both of its sides are. -/
theorem not_infix_append_cons {d : Char} {word left right : List Char} (hd : d ∉ word)
    (hleft : ¬ word <:+: left) (hright : ¬ word <:+: right) : ¬ word <:+: left ++ d :: right :=
  fun h => (infix_append_cons hd h).elim hleft hright

/-- A character that a word has not can stand in front of a text without the word. -/
theorem not_infix_cons {d : Char} {word right : List Char} (hd : d ∉ word) (hne : word ≠ [])
    (hright : ¬ word <:+: right) : ¬ word <:+: d :: right := by
  have hnil : ¬ word <:+: [] := by simpa using hne
  exact not_infix_append_cons hd hnil hright

/-- A word that begins nowhere in a piece is found after it. -/
theorem firstSite_append {α : Type} {scan : List Char → Option α} (c : Char) (word : List Char)
    {piece next : List Char}
    (hscan : ∀ text, ¬ c :: word <+: text → scan text = none) (hpiece : ¬ c :: word <:+: piece)
    (hnext : ∀ d ∈ next.head?, d ∉ word) : firstSite scan (piece ++ next) = firstSite scan next := by
  induction piece with
  | nil => rfl
  | cons a piece ih =>
    have hnone : scan (a :: (piece ++ next)) = none :=
      hscan _ (not_prefix_append hpiece (by simp) hnext)
    rw [List.cons_append, firstSite, hnone]
    exact ih fun h => hpiece (List.infix_cons h)

/-- A scanner for a word finds nothing in a text without the word. -/
theorem firstSite_eq_none {α : Type} {scan : List Char → Option α} {word text : List Char}
    (hscan : ∀ text, ¬ word <+: text → scan text = none) (htext : ¬ word <:+: text) :
    firstSite scan text = none := by
  rw [firstSite_eq_none_iff]
  intro i
  apply hscan
  intro hpre
  exact htext (hpre.isInfix.trans (List.drop_suffix i text).isInfix)

end CounterCatalog.Text
