import CounterCatalog.Counter.Numeral
import CounterCatalog.Proofs.Text.Scan
import Mathlib.Data.Nat.Digits.Defs
import Mathlib.Tactic.IntervalCases

/-!
# The number that a numeral stands for

Digits are read from the left, and what is read is the number that they stand for in positional notation
(`value?_eq_some_iff`). A code in hexadecimal is read as its number if that fits into sixty-four bits, however
many zeros it begins with, and not at all if it does not (`parse?_hex`). A number that is printed, in hexadecimal or
in decimal, is read as it was (`parse?_hexChars`, `parse?_decimalChars`).
-/

set_option autoImplicit false

namespace CounterCatalog.Counter.Numeral

open Text

/-! ## Positional notation -/

/-- The number that digits stand for in a base; the last of them counts once. -/
def number (base : Nat) (digits : List Char) : Nat :=
  Nat.ofDigits base (digits.map fun c => (digitValue? base c).getD 0).reverse

/-- The first digit counts as often as there are numbers of as many digits as follow it. -/
theorem number_cons (base : Nat) (c : Char) (digits : List Char) :
    number base (c :: digits) = (digitValue? base c).getD 0 * base ^ digits.length + number base digits := by
  rw [number, List.map_cons, Nat.ofDigits_reverse_cons, List.length_map, number, Nat.mul_comm, Nat.add_comm]

/-- Digits are read exactly when each of them is a digit of the base, and then as the number that they stand for
behind what was read before them. -/
theorem valueFrom?_eq_some_iff {base value n : Nat} {digits : List Char} :
    valueFrom? base value digits = some n ↔
      (∀ c ∈ digits, (digitValue? base c).isSome = true) ∧
        n = value * base ^ digits.length + number base digits := by
  induction digits generalizing value with
  | nil =>
    have hnumber : number base [] = 0 := rfl
    simp only [valueFrom?, hnumber, Option.some.injEq, List.not_mem_nil, false_implies, implies_true, true_and,
      List.length_nil, Nat.pow_zero, Nat.mul_one, Nat.add_zero]
    exact eq_comm
  | cons c digits ih =>
    rw [valueFrom?]
    cases hc : digitValue? base c with
    | none => simp [hc]
    | some d =>
      have hnumber : (value * base + d) * base ^ digits.length + number base digits =
          value * base ^ (c :: digits).length + number base (c :: digits) := by
        rw [number_cons, hc, Option.getD_some, List.length_cons, Nat.pow_succ]
        ring
      simp only [ih, hnumber, List.forall_mem_cons, hc, Option.isSome_some, true_and]

/-- Digits have a value exactly if there are some and each is one of the base, and then it is their number. -/
theorem value?_eq_some_iff {base n : Nat} {digits : List Char} :
    value? base digits = some n ↔
      digits ≠ [] ∧ (∀ c ∈ digits, (digitValue? base c).isSome = true) ∧ n = number base digits := by
  cases digits with
  | nil => simp [value?]
  | cons c digits => simp [value?, valueFrom?_eq_some_iff]

/-! ## Hexadecimal codes -/

/-- Every hexadecimal digit has a value to the base sixteen. -/
theorem isSome_digitValue?_of_isHexDigit {c : Char} (h : isHexDigit c = true) :
    (digitValue? 16 c).isSome = true := by
  have hc : c.val.toNat = c.toNat := rfl
  simp only [isHexDigit, Bool.or_eq_true, Bool.and_eq_true, decide_eq_true_eq, Char.le_def,
    UInt32.le_iff_toNat_le, hc] at h
  simp only [digitValue?, Bool.and_eq_true, decide_eq_true_eq, Char.le_def, UInt32.le_iff_toNat_le, hc]
  split_ifs with hdigit hlower hupper
  · simp at hdigit ⊢
    omega
  · simp at hlower ⊢
    omega
  · simp at hupper ⊢
    omega
  · simp at h hdigit hlower hupper
    omega

/-- Nothing is trimmed from a text without blanks. -/
theorem trimBlank_of_forall {text : List Char} (h : ∀ c ∈ text, isBlank c = false) : trimBlank text = text := by
  have hnone : ∀ c ∈ ([] : List Char), isBlank c = true := by simp
  have hfront : text.dropWhile isBlank = text :=
    dropWhile_append_of_stops hnone fun c hc => h c (List.mem_of_head? hc)
  have hback : text.reverse.dropWhile isBlank = text.reverse :=
    dropWhile_append_of_stops hnone fun c hc => h c (List.mem_reverse.1 (List.mem_of_head? hc))
  rw [trimBlank, trimFront, hfront, trimBack, hback, List.reverse_reverse]

/-- No hexadecimal digit is blank. -/
theorem isBlank_of_isHexDigit {c : Char} (h : isHexDigit c = true) : isBlank c = false := by
  by_contra hblank
  rw [Bool.not_eq_false] at hblank
  rw [isHexDigit_of_isBlank hblank] at h
  cases h

/-- A number of which the numeral has no blanks is read if it fits into sixty-four bits. -/
theorem parse?_of_magnitude? {field : List Char} {n : Nat} (hblank : ∀ c ∈ field, isBlank c = false)
    (hvalue : magnitude? field = some n) :
    parse? field = if n < 2 ^ 64 then some (UInt64.ofNat n) else none := by
  unfold parse?
  rw [trimBlank_of_forall hblank, hvalue]
  by_cases hfits : n < 2 ^ 64
  · rw [if_pos hfits]
    simp only [dif_pos (show n < UInt64.size from hfits), UInt64.ofNatLT_eq_ofNat]
  · rw [if_neg hfits]
    simp only [dif_neg (show ¬ n < UInt64.size from hfits)]

/-- Digits without a sign are read as they are. -/
theorem signedValue?_of_digits {base : Nat} {digits : List Char} (h : ∀ c ∈ digits, isHexDigit c = true) :
    signedValue? base digits = value? base digits := by
  unfold signedValue?
  split
  · exact absurd (h '+' (by simp)) (by decide)
  · rfl

/-- **A hexadecimal code is read as the number that its digits stand for, if that fits into sixty-four
bits.** -/
theorem parse?_hex {digits : List Char} (h : IsRun isHexDigit digits) :
    parse? ('0' :: 'x' :: digits) =
      if number 16 digits < 2 ^ 64 then some (UInt64.ofNat (number 16 digits)) else none := by
  have hblank : ∀ c ∈ '0' :: 'x' :: digits, isBlank c = false := by
    intro c hc
    rcases List.mem_cons.1 hc with rfl | hc
    · decide
    rcases List.mem_cons.1 hc with rfl | hc
    · decide
    · exact isBlank_of_isHexDigit (h.2 c hc)
  have hvalue : value? 16 digits = some (number 16 digits) :=
    value?_eq_some_iff.2 ⟨h.1, fun c hc => isSome_digitValue?_of_isHexDigit (h.2 c hc), rfl⟩
  apply parse?_of_magnitude? hblank
  rw [magnitude?, signedValue?_of_digits h.2, hvalue]

/-! ## Printed numbers -/

/-- A printed digit has its value back in every base that has the digit. -/
theorem digitValue?_digitChar {base d : Nat} (hd : d < base) (hbase : base ≤ 16) :
    digitValue? base d.digitChar = some d := by
  have hvalue : digitValue? base d.digitChar = (some d).filter (· < base) := by
    have hd16 : d < 16 := by omega
    interval_cases d <;> rfl
  rw [hvalue, Option.filter_some, if_pos (by simpa using hd)]

/-- The last digit counts once, and those before it as often as the base says. -/
theorem number_concat (base : Nat) (c : Char) (digits : List Char) :
    number base (digits ++ [c]) = base * number base digits + (digitValue? base c).getD 0 := by
  simp only [number, List.map_append, List.map_cons, List.map_nil, List.reverse_append, List.reverse_cons,
    List.reverse_nil, List.nil_append, List.singleton_append, Nat.ofDigits_cons]
  exact Nat.add_comm _ _

/-- The digits of a printed number stand for that number. -/
theorem value?_toDigits {base : Nat} (hone : 1 < base) (hbase : base ≤ 16) (n : Nat) :
    value? base (Nat.toDigits base n) = some n := by
  have hdigits : ∀ m, (∀ c ∈ Nat.toDigits base m, (digitValue? base c).isSome = true) ∧
      number base (Nat.toDigits base m) = m := by
    intro m
    induction m using Nat.strongRecOn with
    | ind m ih =>
      rw [Nat.toDigits_eq_if hone]
      by_cases hm : m < base
      · have hvalue := digitValue?_digitChar hm hbase
        rw [if_pos hm]
        refine ⟨by simp [hvalue], ?_⟩
        have hnumber := number_concat base m.digitChar []
        rw [hvalue, List.nil_append] at hnumber
        simpa [number] using hnumber
      · have hlt : m / base < m := Nat.div_lt_self (by omega) hone
        have hvalue := digitValue?_digitChar (Nat.mod_lt m (show 0 < base by omega)) hbase
        obtain ⟨hsome, hnumber⟩ := ih (m / base) hlt
        rw [if_neg hm]
        constructor
        · intro c hc
          rcases List.mem_append.1 hc with hc | hc
          · exact hsome c hc
          · rw [List.mem_singleton.1 hc, hvalue]
            rfl
        · rw [number_concat, hnumber, hvalue, Option.getD_some, Nat.div_add_mod]
  obtain ⟨hsome, hnumber⟩ := hdigits n
  exact value?_eq_some_iff.2 ⟨Nat.toDigits_ne_nil, hsome, hnumber.symm⟩

/-- The digits of every base are among the hexadecimal ones. -/
theorem isHexDigit_of_isSome_digitValue? {base : Nat} {c : Char} (h : (digitValue? base c).isSome = true) :
    isHexDigit c = true := by
  by_contra hc
  simp only [isHexDigit, Bool.or_eq_true, not_or] at hc
  obtain ⟨⟨hdigit, hlower⟩, hupper⟩ := hc
  simp only [digitValue?, if_neg hdigit, if_neg hlower, if_neg hupper] at h
  cases h

/-- The digits that a number is written with are hexadecimal ones, to any base up to sixteen. -/
theorem isHexDigit_of_mem_toDigits {base n : Nat} (hone : 1 < base) (hbase : base ≤ 16) {c : Char}
    (hc : c ∈ Nat.toDigits base n) : isHexDigit c = true := by
  obtain ⟨-, hsome, -⟩ := value?_eq_some_iff.1 (value?_toDigits hone hbase n)
  exact isHexDigit_of_isSome_digitValue? (hsome c hc)

/-- Digits are read in base ten: the second of them is no `x`. -/
theorem magnitude?_of_digits {digits : List Char} (h : ∀ c ∈ digits, isHexDigit c = true) :
    magnitude? digits = value? 10 digits := by
  unfold magnitude?
  split
  · exact absurd (h 'x' (by simp)) (by decide)
  · exact absurd (h 'X' (by simp)) (by decide)
  · exact signedValue?_of_digits h

/-- A number that is printed in hexadecimal is read as it was. -/
theorem parse?_hexChars (n : UInt64) : parse? (hexChars n.toNat) = some n := by
  have hdigits : IsRun isHexDigit (Nat.toDigits 16 n.toNat) :=
    ⟨Nat.toDigits_ne_nil, fun c hc => isHexDigit_of_mem_toDigits (by decide) (by decide) hc⟩
  have hnumber : number 16 (Nat.toDigits 16 n.toNat) = n.toNat := by
    have hvalue : value? 16 (Nat.toDigits 16 n.toNat) = some n.toNat := value?_toDigits (by decide) (by decide) _
    exact (value?_eq_some_iff.1 hvalue).2.2.symm
  rw [hexChars, parse?_hex hdigits, hnumber, if_pos n.toNat_lt, UInt64.ofNat_toNat]

/-- A number that is printed in decimal is read as it was. -/
theorem parse?_decimalChars {n : Nat} (h : n < 2 ^ 64) : parse? (decimalChars n) = some (UInt64.ofNat n) := by
  have hdigits : ∀ c ∈ decimalChars n, isHexDigit c = true := by
    intro c hc
    exact isHexDigit_of_mem_toDigits (by decide) (by decide) hc
  have hvalue : magnitude? (decimalChars n) = some n := by
    rw [magnitude?_of_digits hdigits]
    exact value?_toDigits (by decide) (by decide) n
  have hblank : ∀ c ∈ decimalChars n, isBlank c = false := by
    intro c hc
    exact isBlank_of_isHexDigit (hdigits c hc)
  rw [parse?_of_magnitude? hblank hvalue, if_pos h]

end CounterCatalog.Counter.Numeral
