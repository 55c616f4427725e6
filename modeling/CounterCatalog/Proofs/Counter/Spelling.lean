import CounterCatalog.Proofs.Counter.Numeral
import Mathlib.Data.List.Forall2

/-!
# How numbers are spelled

A field holds a number exactly if it spells one of at most sixty-four bits: between blanks, in decimal digits or, behind
`0x` or `0X`, in hexadecimal digits of either case, and with at most one plus sign in front of the digits
(`parse?_exact`). The digits stand for their number in positional notation, whose length is not bounded. So zeros in
front do not count, and a number of more bits is refused and not cut down; a field without digits is refused, and so is
one in which anything else stands between the blanks.
-/

set_option autoImplicit false

namespace CounterCatalog.Counter.Numeral

open Text

/-! ## Spellings -/

/-- A text is another text between blanks, and that text neither begins nor ends with a blank. -/
def IsTrimmed (text body : List Char) : Prop :=
  ∃ front back, text = front ++ (body ++ back) ∧ (∀ c ∈ front, isBlank c = true) ∧ (∀ c ∈ back, isBlank c = true) ∧
    Stops isBlank body ∧ Stops isBlank body.reverse

/-- A character is a digit of a base and has a value there; letters count in either case. -/
def IsDigit (base value : Nat) (c : Char) : Prop :=
  value < base ∧ (c = value.digitChar ∨ c = value.digitChar.toUpper)

/-- One or more digits of a base stand for a number; the last of them counts once. -/
def Spells (base : Nat) (digits : List Char) (n : Nat) : Prop :=
  digits ≠ [] ∧ ∃ values, List.Forall₂ (IsDigit base) values digits ∧ n = Nat.ofDigits base values.reverse

/-- What may stand in front of a number of either base: nothing, or a plus. -/
def IsSign (sign : List Char) : Prop :=
  sign = [] ∨ sign = ['+']

/-- What stands in front of the digits of a base. -/
inductive IsHead : List Char → Nat → Prop
  | decimal {sign : List Char} (isSign : IsSign sign) : IsHead sign 10
  | hexadecimal {mark : Char} {sign : List Char} (isMark : mark = 'x' ∨ mark = 'X') (isSign : IsSign sign) :
      IsHead ('0' :: mark :: sign) 16

/-- A text is a numeral of a number. -/
def Denotes (text : List Char) (n : Nat) : Prop :=
  ∃ head base digits, IsHead head base ∧ text = head ++ digits ∧ Spells base digits n

/-! ## Blanks at either end -/

/-- The blanks in front are trimmed, and nothing of what begins without a blank. -/
theorem trimFront_append {front rest : List Char} (hfront : ∀ c ∈ front, isBlank c = true)
    (hrest : Stops isBlank rest) : trimFront (front ++ rest) = rest :=
  dropWhile_append_of_stops hfront hrest

/-- A text is blanks and what is left of it when they are trimmed. -/
theorem exists_front (text : List Char) :
    ∃ front, text = front ++ trimFront text ∧ (∀ c ∈ front, isBlank c = true) ∧ Stops isBlank (trimFront text) := by
  refine ⟨text.takeWhile isBlank, List.takeWhile_append_dropWhile.symm, ?_, stops_dropWhile isBlank text⟩
  intro c hc
  exact List.all_eq_true.1 List.all_takeWhile c hc

/-- Trimming a text leaves what stands between its blanks. -/
theorem trimBlank_eq_iff {text body : List Char} : trimBlank text = body ↔ IsTrimmed text body := by
  constructor
  · rintro rfl
    obtain ⟨front, htext, hfront, hstops⟩ := exists_front text
    -- The blanks at the back stand in front of the text that is read backwards.
    obtain ⟨back, hreverse, hback, hend⟩ := exists_front (trimFront text).reverse
    have hinner : trimFront text = trimBlank text ++ back.reverse := by
      have h := congrArg List.reverse hreverse
      rwa [List.reverse_reverse, List.reverse_append] at h
    refine ⟨front, back.reverse, ?_, hfront, ?_, ?_, ?_⟩
    · rw [← hinner]
      exact htext
    · intro c hc
      exact hback c (List.mem_reverse.1 hc)
    · intro c hc
      apply hstops c
      rw [hinner, List.head?_append, Option.mem_def.1 hc]
      rfl
    · rw [trimBlank, trimBack, List.reverse_reverse]
      exact hend
  · rintro ⟨front, back, rfl, hfront, hback, hbegin, hend⟩
    have hreverse : ∀ c ∈ back.reverse, isBlank c = true := by
      intro c hc
      exact hback c (List.mem_reverse.1 hc)
    cases body with
    | nil =>
      have hall : ∀ c ∈ front ++ back, isBlank c = true := by
        intro c hc
        rcases List.mem_append.1 hc with hc | hc
        · exact hfront c hc
        · exact hback c hc
      have hnil : trimFront (front ++ back ++ []) = [] := trimFront_append hall stops_nil
      rw [List.append_nil] at hnil
      rw [List.nil_append, trimBlank, hnil]
      rfl
    | cons c body =>
      have hstops : Stops isBlank (c :: body ++ back) := stops_cons.2 (stops_cons.1 hbegin)
      have hlast : trimFront (c :: body ++ back).reverse = (c :: body).reverse := by
        rw [List.reverse_append]
        exact trimFront_append hreverse hend
      rw [trimBlank, trimFront_append hfront hstops, trimBack]
      change (trimFront (c :: body ++ back).reverse).reverse = c :: body
      rw [hlast, List.reverse_reverse]

/-! ## Digits -/

/-- The digits up to nine follow each other from `0`, and the others from `a`. -/
theorem toNat_digitChar {value : Nat} (h : value < 16) :
    value.digitChar.toNat = if value < 10 then 48 + value else 87 + value := by
  interval_cases value <;> rfl

/-- The upper letters for digits follow each other from `A`. -/
theorem toNat_toUpper_digitChar {value : Nat} (hten : 10 ≤ value) (h : value < 16) :
    value.digitChar.toUpper.toNat = 55 + value := by
  interval_cases value <;> rfl

/-- A character that has a value in a base is the digit with that value. -/
theorem isDigit_of_digitValue? {base value : Nat} {c : Char} (h : digitValue? base c = some value) :
    IsDigit base value c := by
  have hc : c.val.toNat = c.toNat := rfl
  simp only [digitValue?, Option.filter_eq_some_iff, decide_eq_true_eq, Bool.and_eq_true, Char.le_def,
    UInt32.le_iff_toNat_le, hc] at h
  obtain ⟨hvalue, hlt⟩ := h
  refine ⟨hlt, ?_⟩
  split at hvalue
  · next hrange =>
    obtain ⟨hlow, hhigh⟩ : 48 ≤ c.toNat ∧ c.toNat ≤ 57 := hrange
    have heq : c.toNat - 48 = value := Option.some.inj hvalue
    left
    apply Char.toNat_inj.1
    rw [toNat_digitChar (by omega), if_pos (by omega)]
    omega
  split at hvalue
  · next hrange =>
    obtain ⟨hlow, hhigh⟩ : 97 ≤ c.toNat ∧ c.toNat ≤ 102 := hrange
    have heq : c.toNat - 97 + 10 = value := Option.some.inj hvalue
    left
    apply Char.toNat_inj.1
    rw [toNat_digitChar (by omega), if_neg (by omega)]
    omega
  split at hvalue
  · next hrange =>
    obtain ⟨hlow, hhigh⟩ : 65 ≤ c.toNat ∧ c.toNat ≤ 70 := hrange
    have heq : c.toNat - 65 + 10 = value := Option.some.inj hvalue
    right
    apply Char.toNat_inj.1
    rw [toNat_toUpper_digitChar (by omega) (by omega)]
    omega
  · cases hvalue

/-- A digit is read as its value. -/
theorem IsDigit.digitValue? {base value : Nat} {c : Char} (h : IsDigit base value c) (hbase : base ≤ 16) :
    Text.digitValue? base c = some value := by
  obtain ⟨hlt, rfl | rfl⟩ := h
  · exact digitValue?_digitChar hlt hbase
  · have hvalue : Text.digitValue? base value.digitChar.toUpper = (some value).filter (· < base) := by
      have hlt16 : value < 16 := by omega
      interval_cases value <;> rfl
    rw [hvalue, Option.filter_some, if_pos (by simpa using hlt)]

/-- Digits are read exactly as the number that they spell. -/
theorem value?_eq_some_iff_spells {base n : Nat} {digits : List Char} (hbase : base ≤ 16) :
    value? base digits = some n ↔ Spells base digits n := by
  rw [value?_eq_some_iff]
  constructor
  · rintro ⟨hne, hsome, rfl⟩
    refine ⟨hne, digits.map fun c => (digitValue? base c).getD 0, ?_, rfl⟩
    rw [List.forall₂_map_left_iff, List.forall₂_same]
    intro c hc
    obtain ⟨value, hvalue⟩ := Option.isSome_iff_exists.1 (hsome c hc)
    rw [hvalue]
    exact isDigit_of_digitValue? hvalue
  · rintro ⟨hne, values, hvalues, rfl⟩
    have hread : digits.map (fun c => (digitValue? base c).getD 0) = values ∧
        ∀ c ∈ digits, (digitValue? base c).isSome = true := by
      clear hne
      induction hvalues with
      | nil => simp
      | cons hdigit _ ih =>
        have hvalue := hdigit.digitValue? hbase
        rw [List.map_cons, hvalue, Option.getD_some, ih.1, List.forall_mem_cons, hvalue]
        exact ⟨rfl, rfl, ih.2⟩
    refine ⟨hne, hread.2, ?_⟩
    rw [number, hread.1]

/-- What spells a number has nothing but hexadecimal digits in it. -/
theorem Spells.isHexDigit {base n : Nat} {digits : List Char} (h : Spells base digits n) (hbase : base ≤ 16) :
    ∀ c ∈ digits, isHexDigit c = true := by
  intro c hc
  obtain ⟨-, hsome, -⟩ := value?_eq_some_iff.1 ((value?_eq_some_iff_spells hbase).2 h)
  exact isHexDigit_of_isSome_digitValue? (hsome c hc)

/-- A zero in front of digits counts nothing. -/
theorem Spells.zero {base n : Nat} {digits : List Char} (h : Spells base digits n) : Spells base ('0' :: digits) n := by
  obtain ⟨hne, values, hvalues, rfl⟩ := h
  have hbase : 0 < base := by
    cases hvalues with
    | nil => exact absurd rfl hne
    | cons hdigit _ => exact Nat.zero_lt_of_lt hdigit.1
  refine ⟨List.cons_ne_nil _ _, 0 :: values, .cons ⟨hbase, .inl rfl⟩ hvalues, ?_⟩
  rw [Nat.ofDigits_reverse_cons, Nat.mul_zero, Nat.add_zero]

/-- Zeros in front of digits change nothing. -/
theorem Spells.zeros {base n : Nat} {digits : List Char} (h : Spells base digits n) (k : Nat) :
    Spells base (List.replicate k '0' ++ digits) n := by
  induction k with
  | zero => exact h
  | succ k ih => exact ih.zero

/-! ## Numerals -/

/-- A text is read in a base exactly if it spells a number there behind an optional plus sign. -/
theorem signedValue?_eq_some_iff {base n : Nat} {text : List Char} (hbase : base ≤ 16) :
    signedValue? base text = some n ↔ ∃ sign digits, IsSign sign ∧ text = sign ++ digits ∧ Spells base digits n := by
  constructor
  · intro h
    unfold signedValue? at h
    split at h
    · next digits => exact ⟨['+'], digits, .inr rfl, rfl, (value?_eq_some_iff_spells hbase).1 h⟩
    · exact ⟨[], text, .inl rfl, rfl, (value?_eq_some_iff_spells hbase).1 h⟩
  · rintro ⟨sign, digits, rfl | rfl, rfl, hspells⟩
    · exact (signedValue?_of_digits (hspells.isHexDigit hbase)).trans ((value?_eq_some_iff_spells hbase).2 hspells)
    · exact (value?_eq_some_iff_spells hbase).2 hspells

/-- A text is read as a number exactly if it is a numeral of that number. -/
theorem magnitude?_eq_some_iff {text : List Char} {n : Nat} : magnitude? text = some n ↔ Denotes text n := by
  constructor
  · intro h
    unfold magnitude? at h
    split at h
    · obtain ⟨sign, digits, hsign, rfl, hspells⟩ := (signedValue?_eq_some_iff (by decide)).1 h
      exact ⟨_, 16, digits, .hexadecimal (.inl rfl) hsign, rfl, hspells⟩
    · obtain ⟨sign, digits, hsign, rfl, hspells⟩ := (signedValue?_eq_some_iff (by decide)).1 h
      exact ⟨_, 16, digits, .hexadecimal (.inr rfl) hsign, rfl, hspells⟩
    · obtain ⟨sign, digits, hsign, rfl, hspells⟩ := (signedValue?_eq_some_iff (by decide)).1 h
      exact ⟨sign, 10, digits, .decimal hsign, rfl, hspells⟩
  · rintro ⟨head, base, digits, hhead, rfl, hspells⟩
    cases hhead with
    | decimal hsign =>
      -- Digits do not begin like the prefix of a hexadecimal numeral, and neither does a plus sign.
      have hvalue := (value?_eq_some_iff_spells (by decide)).2 hspells
      rcases hsign with rfl | rfl
      · exact (magnitude?_of_digits (hspells.isHexDigit (by decide))).trans hvalue
      · exact hvalue
    | hexadecimal hmark hsign =>
      have hvalue := (signedValue?_eq_some_iff (by decide)).2 ⟨_, digits, hsign, rfl, hspells⟩
      rcases hmark with rfl | rfl
      · exact hvalue
      · exact hvalue

/-- A numeral has nothing in it but digits, plus signs and marks of the base. -/
theorem Denotes.mem {text : List Char} {n : Nat} (h : Denotes text n) {c : Char} (hc : c ∈ text) :
    isHexDigit c = true ∨ c = '+' ∨ c = 'x' ∨ c = 'X' := by
  obtain ⟨head, base, digits, hhead, rfl, hspells⟩ := h
  have hsigned : ∀ {sign : List Char}, IsSign sign → c ∈ sign → c = '+' := by
    rintro sign (rfl | rfl) hmem
    · cases hmem
    · exact List.mem_singleton.1 hmem
  rcases List.mem_append.1 hc with hc | hc
  · cases hhead with
    | decimal hsign => exact .inr (.inl (hsigned hsign hc))
    | hexadecimal hmark hsign =>
      rcases List.mem_cons.1 hc with rfl | hc
      · left
        decide
      rcases List.mem_cons.1 hc with rfl | hc
      · exact .inr (.inr hmark)
      · exact .inr (.inl (hsigned hsign hc))
  · left
    have hbase : base ≤ 16 := by cases hhead <;> decide
    exact hspells.isHexDigit hbase c hc

/-- No blank is in a numeral. -/
theorem Denotes.not_blank {text : List Char} {n : Nat} (h : Denotes text n) : ∀ c ∈ text, isBlank c = false := by
  intro c hc
  rcases h.mem hc with hdigit | rfl | rfl | rfl
  · exact isBlank_of_isHexDigit hdigit
  all_goals decide

/-! ## Fields -/

/-- A field is read exactly if a numeral of at most sixty-four bits stands between its blanks. -/
theorem parse?_eq_some_iff {field : List Char} {n : Nat} :
    (parse? field).map UInt64.toNat = some n ↔ ∃ body, IsTrimmed field body ∧ Denotes body n ∧ n < 2 ^ 64 := by
  have hbody : ∀ body, IsTrimmed field body ↔ trimBlank field = body := fun body => trimBlank_eq_iff.symm
  simp only [hbody, exists_eq_left', ← magnitude?_eq_some_iff, parse?]
  cases magnitude? (trimBlank field) with
  | none => simp
  | some m =>
    by_cases hfits : m < UInt64.size
    · simp only [dif_pos hfits, Option.map_some, UInt64.toNat_ofNatLT, Option.some.injEq]
      constructor
      · rintro rfl
        exact ⟨rfl, hfits⟩
      · rintro ⟨rfl, -⟩
        rfl
    · simp only [dif_neg hfits, Option.map_none, reduceCtorEq, Option.some.injEq, false_iff, not_and]
      rintro rfl
      exact hfits

/-- A numeral of a number that needs more than sixty-four bits is refused. -/
theorem parse?_eq_none_of_large {field body : List Char} {n : Nat} (hfield : IsTrimmed field body)
    (h : Denotes body n) (hlarge : 2 ^ 64 ≤ n) : parse? field = none := by
  obtain rfl := trimBlank_eq_iff.2 hfield
  unfold parse?
  rw [magnitude?_eq_some_iff.2 h]
  have hfits : ¬ n < UInt64.size := Nat.not_lt.2 hlarge
  simp only [dif_neg hfits]

/-- A field that has no numeral between its blanks is refused. -/
theorem parse?_eq_none_of_forall {field body : List Char} (hfield : IsTrimmed field body)
    (h : ∀ n, ¬ Denotes body n) : parse? field = none := by
  obtain rfl := trimBlank_eq_iff.2 hfield
  have hnone : magnitude? (trimBlank field) = none := by
    apply Option.eq_none_iff_forall_ne_some.2
    intro n hn
    exact h n (magnitude?_eq_some_iff.1 hn)
  unfold parse?
  rw [hnone]

/-- Zeros in front of the digits do not change the number, nor whether it is too large. -/
theorem parse?_zeros {head digits : List Char} {base n : Nat} (hhead : IsHead head base) (h : Spells base digits n)
    (k : Nat) : parse? (head ++ (List.replicate k '0' ++ digits)) = parse? (head ++ digits) := by
  have hlong : Denotes (head ++ (List.replicate k '0' ++ digits)) n := ⟨head, base, _, hhead, rfl, h.zeros k⟩
  have hshort : Denotes (head ++ digits) n := ⟨head, base, digits, hhead, rfl, h⟩
  rw [parse?_of_magnitude? hlong.not_blank (magnitude?_eq_some_iff.2 hlong),
    parse?_of_magnitude? hshort.not_blank (magnitude?_eq_some_iff.2 hshort)]

/-- A sign, a prefix, both of them, and nothing at all are no numbers. -/
theorem parse?_head {head : List Char} {base : Nat} (h : IsHead head base) : parse? head = none := by
  cases h with
  | decimal hsign =>
    rcases hsign with rfl | rfl
    all_goals decide
  | hexadecimal hmark hsign =>
    rcases hmark with rfl | rfl <;> rcases hsign with rfl | rfl
    all_goals decide

/-- **A field holds exactly the number that it spells, up to sixty-four bits.** A number is read exactly if the field is
a numeral of it between blanks and it is less than `2 ^ 64`; a numeral of a larger number is refused. Zeros in front of
the digits change nothing, however many they are. A sign or a prefix without digits is refused, and so is everything
that has a character in it, between the blanks at its ends, which is no ASCII digit of a base, no plus sign and no mark
of a base: a minus sign, a blank, or a digit of another script. -/
theorem parse?_exact :
    (∀ (field : List Char) (n : Nat), (parse? field).map UInt64.toNat = some n ↔
      ∃ body, IsTrimmed field body ∧ Denotes body n ∧ n < 2 ^ 64) ∧
    (∀ field body n, IsTrimmed field body → Denotes body n → 2 ^ 64 ≤ n → parse? field = none) ∧
    (∀ head base digits n k, IsHead head base → Spells base digits n →
      parse? (head ++ (List.replicate k '0' ++ digits)) = parse? (head ++ digits)) ∧
    (∀ head base, IsHead head base → parse? head = none) ∧
    ∀ field body c, IsTrimmed field body → c ∈ body → isHexDigit c = false → c ≠ '+' → c ≠ 'x' → c ≠ 'X' →
      parse? field = none := by
  refine ⟨?_, ?_, ?_, ?_, ?_⟩
  · intro field n
    exact parse?_eq_some_iff
  · intro field body n hfield hdenotes hlarge
    exact parse?_eq_none_of_large hfield hdenotes hlarge
  · intro head base digits n k hhead hspells
    exact parse?_zeros hhead hspells k
  · intro head base hhead
    exact parse?_head hhead
  · intro field body c hfield hc hdigit hplus hlower hupper
    apply parse?_eq_none_of_forall hfield
    intro n hdenotes
    rcases hdenotes.mem hc with h | h | h | h
    · rw [h] at hdigit
      cases hdigit
    · exact hplus h
    · exact hlower h
    · exact hupper h

/-- The largest number in hexadecimal between blanks, the number behind it, many zeros, a prefix without digits, and a
blank between digits. -/
theorem parse?_exact_edges :
    (parse? " 0X+00ffFFffFFffFFffFF\n".toList).map UInt64.toNat = some (2 ^ 64 - 1) ∧
      parse? "18446744073709551616".toList = none ∧
      parse? ("0x".toList ++ (List.replicate 1000 '0' ++ "1f".toList)) = parse? "0x1f".toList ∧
      parse? "0x+".toList = none ∧ parse? "1 2".toList = none := by
  obtain ⟨hread, hlarge, hzeros, hhead, hother⟩ := parse?_exact
  have hmarked : ∀ sign, IsSign sign → IsHead ('0' :: 'x' :: sign) 16 := by
    intro sign hsign
    exact .hexadecimal (.inl rfl) hsign
  refine ⟨?_, ?_, ?_, ?_, ?_⟩
  · apply (hread _ _).2
    refine ⟨"0X+00ffFFffFFffFFffFF".toList, trimBlank_eq_iff.1 (by decide), ?_, by decide⟩
    exact magnitude?_eq_some_iff.1 (by decide)
  · apply hlarge _ "18446744073709551616".toList (2 ^ 64) (trimBlank_eq_iff.1 (by decide)) _ (Nat.le_refl _)
    exact magnitude?_eq_some_iff.1 (by decide)
  · apply hzeros "0x".toList 16 "1f".toList 31 1000 (hmarked [] (.inl rfl))
    exact (value?_eq_some_iff_spells (by decide)).1 (by decide)
  · exact hhead "0x+".toList 16 (hmarked ['+'] (.inr rfl))
  · apply hother "1 2".toList "1 2".toList ' ' (trimBlank_eq_iff.1 (by decide))
    all_goals decide

end CounterCatalog.Counter.Numeral
