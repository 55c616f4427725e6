import CounterCatalog.Text.Blank
import CounterCatalog.Text.Digit

/-!
# Numerals of a counter list

A number in a counter list is written in decimal, or in hexadecimal after `0x` or `0X`. Blanks around it
and one plus sign before its digits are allowed, leading zeros as well. A number that does not fit into
sixty-four bits is no number at all.
-/

set_option autoImplicit false

namespace CounterCatalog.Counter.Numeral

open Text

/-- The value of digits in a base, given the value of the digits before them. -/
def valueFrom? (base : Nat) : Nat → List Char → Option Nat
  | value, [] => some value
  | value, c :: digits =>
    match digitValue? base c with
    | some d => valueFrom? base (value * base + d) digits
    | none => none

/-- The value of one or more digits in a base. -/
def value? (base : Nat) : List Char → Option Nat
  | [] => none
  | c :: digits => valueFrom? base 0 (c :: digits)

/-- The value of one or more digits in a base, after an optional plus sign. -/
def signedValue? (base : Nat) : List Char → Option Nat
  | '+' :: digits => value? base digits
  | digits => value? base digits

/-- The number of a numeral without its blanks, of whatever size: hexadecimal after its prefix, decimal
otherwise. -/
def magnitude? : List Char → Option Nat
  | '0' :: 'x' :: digits => signedValue? 16 digits
  | '0' :: 'X' :: digits => signedValue? 16 digits
  | digits => signedValue? 10 digits

/-- The number that a field of a counter list holds, if it holds one of at most sixty-four bits. -/
def parse? (field : List Char) : Option UInt64 :=
  match magnitude? (trimBlank field) with
  | some n => if h : n < UInt64.size then some (UInt64.ofNatLT n h) else none
  | none => none

/-- A number in hexadecimal with lower-case digits and the prefix `0x`. -/
def hexChars (n : Nat) : List Char :=
  '0' :: 'x' :: Nat.toDigits 16 n

/-- A number in decimal. -/
def decimalChars (n : Nat) : List Char :=
  Nat.toDigits 10 n

/-- A number in decimal. -/
def decimal (n : Nat) : String :=
  String.ofList (decimalChars n)

end CounterCatalog.Counter.Numeral
