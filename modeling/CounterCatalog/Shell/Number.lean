/-!
# The sizes of whole numbers

Whole numbers that the shell computes with have 64 bits, and counts that its own commands take have 32; both
kinds have a sign. Within these bounds everything is exact.
-/

set_option autoImplicit false

namespace CounterCatalog.Shell.Number

/-- The least whole number. -/
def least : Int := -0x8000000000000000

/-- The greatest whole number. -/
def greatest : Int := 0x7FFFFFFFFFFFFFFF

/-- One more than the greatest whole number without a sign. -/
def modulus : Int := 0x10000000000000000

/-- The least count. -/
def leastCount : Int := -0x80000000

/-- The greatest count. -/
def greatestCount : Int := 0x7FFFFFFF

/-- A power of ten. -/
def tenTo (power : Nat) : Nat :=
  Nat.pow 10 power

/-- What numbers come to together. -/
def total (numbers : List Nat) : Nat :=
  numbers.foldl Nat.add 0

end CounterCatalog.Shell.Number
