import CounterCatalog.Shell.Decimal

/-!
# Numbers of a machine

A machine keeps a number with a point as a size in units of a power of two, where the size has a limited number
of bits. What does not fit is rounded to the nearest number that does, and to the even one of two; what is too
large becomes infinite. A number is read as it is written, rounded once, and computed with by rounding after
each operation.
-/

set_option autoImplicit false

namespace CounterCatalog.Shell

/-- How exact the numbers of a machine are. -/
structure Precision where
  /-- The number of bits that the size has at most. -/
  bits : Nat
  /-- The least power of two that sizes are in units of. -/
  least : Int
  /-- The power of two that no number reaches. -/
  top : Int

namespace Precision

/-- Numbers that take up 64 bits. -/
def double : Precision := ⟨53, -1074, 1024⟩

/-- Numbers that take up 80 bits. -/
def extended : Precision := ⟨64, -16445, 16384⟩

end Precision

/-- A number of a machine. -/
inductive Floating where
  /-- A size in units of a power of two, below zero or not. -/
  | finite (negative : Bool) (size : Nat) (power : Int)
  /-- A number beyond all others, below zero or not. -/
  | infinite (negative : Bool)
  /-- No number at all, with a sign nevertheless. -/
  | undefined (negative : Bool)

namespace Floating

/-- A power of two. -/
def twoTo (power : Int) : Nat :=
  Nat.pow 2 power.toNat

/-- The number nearest to a fraction. -/
def ofFraction (precision : Precision) (negative : Bool) (numerator denominator : Nat) : Floating :=
  if numerator = 0 then finite negative 0 0
  else
    let guess : Int := (numerator.log2 : Int) - denominator.log2 - precision.bits + 1
    let above := fun power : Int => numerator * twoTo (-power)
    let below := fun power : Int => denominator * twoTo power
    let power := if above guess < below guess * twoTo (precision.bits - 1) then guess - 1 else guess
    let power := max power precision.least
    let size := Decimal.nearest (above power) (below power)
    if size ≠ 0 ∧ precision.top ≤ size.log2 + power then infinite negative
    else finite negative size power

/-- The power of ten beyond which every number is infinite, and under which it is zero. -/
def farPower : Int := 6000

/-- The number nearest to a decimal one. -/
def ofDecimal (precision : Precision) (number : Decimal) : Floating :=
  let length : Int := (Nat.toDigits 10 number.size).length
  if number.size = 0 ∨ length + number.exponent < -farPower then finite number.negative 0 0
  else if farPower < length + number.exponent then infinite number.negative
  else
    ofFraction precision number.negative (number.size * Number.tenTo number.exponent.toNat)
      (Number.tenTo (-number.exponent).toNat)

/-- A number, whether it is below zero, its size and its power of two, if it is finite. -/
def parts? : Floating → Option (Bool × Nat × Int)
  | finite negative size power => some (negative, size, power)
  | _ => none

/-- It is below zero. -/
def isNegative : Floating → Bool
  | finite negative _ _ | infinite negative | undefined negative => negative

/-- A finite size in units of a power of two, exactly in decimal digits. -/
def decimal (negative : Bool) (size : Nat) (power : Int) : Decimal :=
  if 0 ≤ power then ⟨negative, size * twoTo power, 0⟩
  else ⟨negative, size * Nat.pow 5 power.natAbs, power⟩

/-- A number as it has been read from a text. -/
structure Reading where
  /-- The number. -/
  value : Floating
  /-- What follows it. -/
  rest : Chars
  /-- It is too large or too close to zero. -/
  isOutside : Bool

/-- A fraction as it is read; it is outside where it becomes infinite, or has not all its bits and is not
exact. -/
def readFraction (precision : Precision) (value : Floating) (numerator denominator : Nat) (rest : Chars) :
    Reading :=
  let isOutside :=
    match value with
    | finite _ size power =>
      size < twoTo (precision.bits - 1) &&
        size * twoTo power * denominator ≠ numerator * twoTo (-power)
    | _ => true
  ⟨value, rest, isOutside⟩

/-- A text begins with a word in small letters, whatever the case of its own letters. -/
def begins (word : String) (text : Chars) : Bool :=
  (text.take word.length).map Char.toLower = word.toList

/-- The number at the front of a text in base sixteen, behind the letter that tells so. -/
def readHexadecimal? (precision : Precision) (negative : Bool) (text : Chars) : Option Reading :=
  (Decimal.digits? (fun c => decide (Arithmetic.digitValue c < 16)) text).map fun (whole, part, rest) =>
    let (power, rest) := Decimal.exponentOf ('p', 'P') rest
    let size := Arithmetic.valueIn 16 (whole ++ part)
    let power := power - 4 * (part.length : Int)
    if size = 0 then ⟨finite negative 0 0, rest, false⟩
    else if 4 * farPower < power + size.log2 then ⟨infinite negative, rest, true⟩
    else if power + size.log2 < -4 * farPower then ⟨finite negative 0 0, rest, true⟩
    else
      let numerator := size * twoTo power
      let denominator := twoTo (-power)
      readFraction precision (ofFraction precision negative numerator denominator) numerator denominator rest

/-- The number at the front of a text in base ten. -/
def readDecimal? (precision : Precision) (negative : Bool) (text : Chars) : Option Reading :=
  (Decimal.read? negative text).map fun (number, rest) =>
    let value := ofDecimal precision number
    if number.size = 0 then ⟨value, rest, false⟩
    else if farPower < ((Nat.toDigits 10 number.size).length + number.exponent).natAbs then ⟨value, rest, true⟩
    else
      readFraction precision value (number.size * Number.tenTo number.exponent.toNat)
        (Number.tenTo (-number.exponent).toNat) rest

/-- The number at the front of a text, behind blanks and a sign, in base ten or sixteen or as a word. -/
def read? (precision : Precision) (text : Chars) : Option Reading :=
  let trimmed := text.dropWhile Char.isWhitespace
  let negative := trimmed.head? = some '-'
  let text := if negative ∨ trimmed.head? = some '+' then trimmed.tail else trimmed
  if begins "infinity" text then some ⟨infinite negative, text.drop 8, false⟩
  else if begins "inf" text then some ⟨infinite negative, text.drop 3, false⟩
  else if begins "nan" text then
    let inner := (text.drop 4).takeWhile fun c => c.isAlphanum || c = '_'
    let closes := (text.drop 3).head? = some '(' && (text.drop (4 + inner.length)).head? = some ')'
    some ⟨undefined negative, text.drop (if closes then 5 + inner.length else 3), false⟩
  else
    let hexadecimal? := if begins "0x" text then readHexadecimal? precision negative (text.drop 2) else none
    hexadecimal?.orElse fun _ => readDecimal? precision negative text

/-! ## Computing -/

/-- The exact sum of two finite numbers, or product, before it is rounded: a size with a sign in units of a
power of two. -/
def rounded (precision : Precision) (size : Int) (power : Int) : Floating :=
  ofFraction precision (size < 0) (size.natAbs * twoTo power) (twoTo (-power))

/-- A size with its sign. -/
def signed (negative : Bool) (size : Nat) : Int :=
  if negative then -size else size

/-- The sum of two numbers. -/
def add (precision : Precision) (a b : Floating) : Floating :=
  match a, b with
  | finite n x i, finite m y j =>
    let power := min i j
    rounded precision (signed n x * twoTo (i - power) + signed m y * twoTo (j - power)) power
  | finite _ _ _, other => other
  | infinite n, infinite m => if n = m then infinite n else undefined true
  | infinite n, finite _ _ _ => infinite n
  | infinite _, undefined n => undefined n
  | undefined n, _ => undefined n

/-- A number so many times. -/
def times (precision : Precision) (count : Nat) : Floating → Floating
  | finite n x i => rounded precision (signed n x * count) i
  | infinite n => if count = 0 then undefined true else infinite n
  | undefined n => undefined n

/-- How two numbers compare, unless one of them is none. -/
def compare? (a b : Floating) : Option Ordering :=
  match a, b with
  | undefined _, _ | _, undefined _ => none
  | infinite n, infinite m => some (compare m.toNat n.toNat)
  | infinite n, finite _ _ _ => some (if n then .lt else .gt)
  | finite _ _ _, infinite n => some (if n then .gt else .lt)
  | finite n x i, finite m y j =>
    let power := min i j
    some (compare (signed n x * twoTo (i - power)) (signed m y * twoTo (j - power)))

/-- A number comes before another. -/
def isBelow (a b : Floating) : Bool :=
  compare? a b = some .lt

/-! ## Showing -/

/-- A finite number in base sixteen: digits of which the first stands before the point, and an exponent of two;
the first digit takes the bits that the other ones leave over. -/
def hexadecimal (precision : Precision) (size : Nat) (power : Int) (places? : Option Nat) (based : Bool) : Chars :=
  let places := (precision.bits - 1) / 4
  let lack := precision.bits - 1 - size.log2
  let shift : Int := if size = 0 then 0 else min lack (power - precision.least)
  let size := size * twoTo shift
  let power := if size = 0 then 0 else power - shift + 4 * places
  let kept := places?.getD places
  let size :=
    if kept < places then Decimal.nearest size (Nat.pow 16 (places - kept))
    else size * Nat.pow 16 (kept - places)
  let text := Decimal.pointed (Nat.toDigits 16 size) kept based
  let text := if places?.isNone ∧ based = false then Decimal.trimmed text else text
  ['0', 'x'] ++ text ++ ['p', if power < 0 then '-' else '+'] ++ Chars.ofNat power.natAbs

/-- A number without its sign, as a letter says, with a number of digits behind the point or altogether. -/
def shown (precision : Precision) (kind : Char) (places? : Option Nat) (based : Bool) (value : Floating) : Chars :=
  let text :=
    match value with
    | infinite _ => "inf".toList
    | undefined _ => "nan".toList
    | finite negative size power =>
      let number := decimal negative size power
      let places := places?.getD 6
      match kind.toLower with
      | 'f' => number.fixed places based
      | 'e' => number.scientific places based
      | 'g' => number.general places based
      | _ => hexadecimal precision size power places? based
  if kind.isUpper then text.map Char.toUpper else text

end Floating

end CounterCatalog.Shell
