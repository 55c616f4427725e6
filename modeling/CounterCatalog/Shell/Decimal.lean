import CounterCatalog.Shell.Arithmetic

/-!
# Numbers with a point

A decimal number is kept exactly, as a size in units of a power of ten. It is shown with a number of digits
behind the point, with an exponent, or in whichever way is shorter; what is left out rounds to the nearest
number that can be shown, and to the even one of two.
-/

set_option autoImplicit false

namespace CounterCatalog.Shell

/-- A number as it is written: a size in units of a power of ten. -/
structure Decimal where
  /-- It is below zero. -/
  negative : Bool
  /-- The digits. -/
  size : Nat
  /-- The power of ten. -/
  exponent : Int

namespace Decimal

/-- The exponent at the front of a text, behind one of two letters, and what follows it; there is none if no
digit follows the letter. -/
def exponentOf (letters : Char × Char) (text : Chars) : Int × Chars :=
  match text with
  | [] => (0, [])
  | c :: rest =>
    let signed := rest.head? = some '-' || rest.head? = some '+'
    let digits := (if signed then rest.tail else rest).takeWhile Char.isDigit
    if (c ≠ letters.1 ∧ c ≠ letters.2) ∨ digits.isEmpty then (0, c :: rest)
    else
      let size : Int := Chars.toNat digits
      (if rest.head? = some '-' then -size else size,
        rest.drop (digits.length + if signed then 1 else 0))

/-- The digits in front of a point and behind it, and what follows them, unless there are none at all. -/
def digits? (isDigit : Char → Bool) (text : Chars) : Option (Chars × Chars × Chars) :=
  let whole := text.takeWhile isDigit
  let rest := text.drop whole.length
  let part := if rest.head? = some '.' then (rest.drop 1).takeWhile isDigit else []
  if whole.isEmpty ∧ part.isEmpty then none
  else some (whole, part, if rest.head? = some '.' then rest.drop (part.length + 1) else rest)

/-- The number at the front of a text without a sign, and what follows it. -/
def read? (negative : Bool) (text : Chars) : Option (Decimal × Chars) :=
  (digits? Char.isDigit text).map fun (whole, part, rest) =>
    let (power, rest) := exponentOf ('e', 'E') rest
    (⟨negative, Chars.toNat (whole ++ part), power - (part.length : Int)⟩, rest)

/-- A size divided by another, to the nearest whole number, and to the even one of two. -/
def nearest (a b : Nat) : Nat :=
  let quotient := a / b
  let twice := 2 * (a % b)
  if twice > b ∨ (twice = b ∧ quotient % 2 = 1) then quotient + 1 else quotient

/-- The number in units of a power of ten. -/
def inUnits (number : Decimal) (power : Int) : Nat :=
  let shift := number.exponent - power
  if 0 ≤ shift then number.size * Number.tenTo shift.toNat
  else nearest number.size (Number.tenTo (-shift).toNat)

/-- Digits with a point in front of the last ones. -/
def pointed (digits : Chars) (places : Nat) (based : Bool) : Chars :=
  let digits := List.replicate (places + 1 - digits.length) '0' ++ digits
  let whole := digits.take (digits.length - places)
  if places = 0 then (if based then whole ++ ['.'] else whole)
  else whole ++ ['.'] ++ digits.drop (digits.length - places)

/-- The power of ten of the first digit, once the number is rounded to a number of digits. -/
def magnitude (number : Decimal) (digits : Nat) : Int :=
  let first := ((Nat.toDigits 10 number.size).length : Int) - 1 + number.exponent
  let rounded := number.inUnits (first - digits + 1)
  if (Nat.toDigits 10 rounded).length > digits then first + 1 else first

/-- The number with a number of digits behind the point. -/
def fixed (number : Decimal) (places : Nat) (based : Bool) : Chars :=
  pointed (Nat.toDigits 10 (number.inUnits (-(places : Int)))) places based

/-- An exponent of two digits at least. -/
def exponentText (power : Int) : Chars :=
  let digits := Nat.toDigits 10 power.natAbs
  ['e', if power < 0 then '-' else '+'] ++ List.replicate (2 - digits.length) '0' ++ digits

/-- The number with one digit before the point, and an exponent. -/
def scientific (number : Decimal) (places : Nat) (based : Bool) : Chars :=
  let power := if number.size = 0 then 0 else number.magnitude (places + 1)
  pointed (Nat.toDigits 10 (number.inUnits (power - places))) places based ++ exponentText power

/-- Digits without the zeros at their end that stand behind a point, and without the point if nothing is left
behind it. -/
def trimmed (digits : Chars) : Chars :=
  if digits.contains '.' then
    ((digits.reverse.dropWhile fun c => c = '0').dropWhile fun c => c = '.').reverse
  else digits

/-- Digits and an exponent, the digits without the zeros at their end. -/
def shortened (text : Chars) : Chars :=
  let digits := text.takeWhile fun c => c ≠ 'e'
  trimmed digits ++ text.drop digits.length

/-- The number with a number of digits, in whichever way is shorter. -/
def general (number : Decimal) (precision : Nat) (based : Bool) : Chars :=
  let digits := if precision = 0 then 1 else precision
  let power := if number.size = 0 then 0 else number.magnitude digits
  let text :=
    if power < -4 ∨ (digits : Int) ≤ power then number.scientific (digits - 1) based
    else number.fixed ((digits : Int) - 1 - power).toNat based
  if based then text else shortened text

end Decimal

end CounterCatalog.Shell
