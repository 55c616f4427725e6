import CounterCatalog.Shell.Stream

/-!
# Arithmetic expressions

An expression is read from left to right and evaluated as it is read, in whole numbers of 64 bits that wrap
around. What cannot matter, behind `&&`, `||` and `?`, is read but neither computed nor assigned. Operators
bind by `Operator.rank`, and those of one rank group to the left.

The rules for sums and for whole expressions call each other, and each spends fuel; a rule is at most a fixed
number of calls away from the next token, so fuel in proportion to the number of tokens is enough.
-/

set_option autoImplicit false

namespace CounterCatalog.Shell.Arithmetic

/-- The operators between two operands that are both evaluated. -/
inductive Operator where
  | mul | div | rem | add | sub | shiftLeft | shiftRight | less | lessEqual | greater | greaterEqual
  | equal | notEqual | bitAnd | bitXor | bitOr
deriving DecidableEq

namespace Operator

/-- How tightly an operator binds; the tightest have rank zero. -/
def rank : Operator → Nat
  | mul | div | rem => 0
  | add | sub => 1
  | shiftLeft | shiftRight => 2
  | less | lessEqual | greater | greaterEqual => 3
  | equal | notEqual => 4
  | bitAnd => 5
  | bitXor => 6
  | bitOr => 7

/-- One for what is true, and zero for what is not. -/
def truth (condition : Bool) : Int64 :=
  if condition then 1 else 0

/-- The value of an operation, unless it divides by zero. -/
def result? (operator : Operator) (a b : Int64) : Option Int64 :=
  match operator with
  | mul => some (a * b)
  | div => if b = 0 then none else some (a / b)
  | rem => if b = 0 then none else some (a % b)
  | add => some (a + b)
  | sub => some (a - b)
  | shiftLeft => some (a <<< b)
  | shiftRight => some (a >>> b)
  | less => some (truth (a < b))
  | lessEqual => some (truth (a ≤ b))
  | greater => some (truth (b < a))
  | greaterEqual => some (truth (b ≤ a))
  | equal => some (truth (a = b))
  | notEqual => some (truth (a ≠ b))
  | bitAnd => some (a &&& b)
  | bitXor => some (a ^^^ b)
  | bitOr => some (a ||| b)

/-- The signs of the operators, and which of them may be followed by an equals sign to assign. -/
def signs : List (String × Operator × Bool) :=
  [("<<", shiftLeft, true), (">>", shiftRight, true), ("<=", lessEqual, false),
   (">=", greaterEqual, false), ("==", equal, false), ("!=", notEqual, false), ("*", mul, true),
   ("/", div, true), ("%", rem, true), ("+", add, true), ("-", sub, true), ("<", less, false),
   (">", greater, false), ("&", bitAnd, true), ("^", bitXor, true), ("|", bitOr, true)]

end Operator

/-- A token of an expression. -/
inductive Token where
  | number (value : Int64)
  | name (text : Chars)
  | operator (operator : Operator)
  | assign (operator? : Option Operator)
  | both
  | either
  | negation
  | complement
  | openParen
  | closeParen
  | question
  | colon
  /-- Something that has no meaning. -/
  | unknown
deriving DecidableEq

/-- The value of a digit in base thirty-six, or more than that. -/
def digitValue (c : Char) : Nat :=
  if c.isDigit then c.toNat - '0'.toNat
  else if 'a' ≤ c ∧ c ≤ 'z' then c.toNat - 'a'.toNat + 10
  else if 'A' ≤ c ∧ c ≤ 'Z' then c.toNat - 'A'.toNat + 10
  else 36

/-- The value of digits in a base. -/
def valueIn (base : Nat) (digits : Chars) : Nat :=
  digits.foldl (fun value c => value * base + digitValue c) 0

/-- The number at the front of a text, in base eight after a zero and in base sixteen after `0x`, and the
number of characters that it takes up. -/
def unsigned? (text : Chars) : Option (Nat × Nat) :=
  let run := fun (base : Nat) (from? : Chars) => from?.takeWhile fun c => decide (digitValue c < base)
  match text with
  | '0' :: x :: rest =>
    let hexadecimal := run 16 rest
    if (x = 'x' ∨ x = 'X') ∧ !hexadecimal.isEmpty then
      some (valueIn 16 hexadecimal, hexadecimal.length + 2)
    else
      let octal := run 8 text
      some (valueIn 8 octal, octal.length)
  | text =>
    let decimal := run 10 text
    if decimal.isEmpty then none else some (valueIn 10 decimal, decimal.length)

/-- The tokens of an expression, given at least as many steps as it has characters; nothing follows what has
no meaning. -/
def tokensIn : Nat → Chars → List Token
  | 0, _ => []
  | _, [] => []
  | steps + 1, c :: rest =>
    let after := fun (token : Token) (size : Nat) => token :: tokensIn steps ((c :: rest).drop size)
    if Chars.blanks.contains c then tokensIn steps rest
    else if Chars.isNameStart c then
      let name := (c :: rest).takeWhile Chars.isNameChar
      after (.name name) name.length
    else
      match unsigned? (c :: rest) with
      | some (value, size) => after (.number (Int64.ofNat (min value Number.greatest.toNat))) size
      | none =>
        if "&&".toList.isPrefixOf (c :: rest) then after .both 2
        else if "||".toList.isPrefixOf (c :: rest) then after .either 2
        else
          match Operator.signs.find? fun item => item.1.toList.isPrefixOf (c :: rest) with
          | some (sign, operator, assigns) =>
            if assigns ∧ ((c :: rest)[sign.length]?) = some '=' then
              after (.assign (some operator)) (sign.length + 1)
            else after (.operator operator) sign.length
          | none =>
            match c with
            | '=' => after (.assign none) 1
            | '!' => after .negation 1
            | '~' => after .complement 1
            | '(' => after .openParen 1
            | ')' => after .closeParen 1
            | '?' => after .question 1
            | ':' => after .colon 1
            | _ => [.unknown]

/-- The tokens of an expression. -/
def tokens (text : Chars) : List Token :=
  tokensIn (text.length + 1) text

/-- A whole number at the front of a text, after blanks and with a sign, and what follows it. -/
def integer? (text : Chars) : Option (Int × Chars) :=
  let trimmed := text.dropWhile Char.isWhitespace
  let signed := trimmed.head? = some '-' || trimmed.head? = some '+'
  let digits := if signed then trimmed.drop 1 else trimmed
  (unsigned? digits).map fun (size, count) =>
    (if trimmed.head? = some '-' then -(size : Int) else size, digits.drop count)

/-- The value of a variable's text; a text that is no number has none. -/
def valueOf? (text : Chars) : Option Int64 :=
  match integer? text with
  | some (value, rest) =>
    if rest.all Char.isWhitespace ∧ Number.least ≤ value ∧ value ≤ Number.greatest then
      some (Int64.ofInt value)
    else none
  | none => if text.all Char.isWhitespace then some 0 else none

/-- Evaluates tokens that are left to be read. -/
abbrev Eval (α : Type) := StateT (List Token) Step α

/-- The expression is faulty. -/
def faulty {α : Type} (text : Chars) (reason : String) : Eval α :=
  liftM (m := Step) (Step.fail ("arithmetic expression: ".toList ++ reason.toList ++ ": \"".toList ++
    text ++ ['\x22']))

/-- The next token, which is left to be read. -/
def peek : Eval (Option Token) := do
  return (← get).head?

/-- Moves past a token. -/
def advance : Eval Unit :=
  modify List.tail

/-- The value of a variable. -/
def lookup (name : Chars) : Eval Int64 := do
  let machine ← liftM (m := Step) get
  let value := (machine.lookup? name).getD []
  match valueOf? value with
  | some number => return number
  | none => liftM (m := Step) (Step.fail ("Illegal number: ".toList ++ value))

/-- The value of an operation. -/
def operate (text : Chars) (operator : Operator) (a b : Int64) : Eval Int64 :=
  match operator.result? a b with
  | some value => pure value
  | none => faulty text "division by zero"

mutual

/-- An operand with the signs in front of it; `idle` means that its value does not matter. -/
def primary (text : Chars) : Nat → Bool → Eval Int64
  | 0, _ => faulty text "expecting primary"
  | fuel + 1, idle => do
    match ← peek with
    | some (.number value) =>
      advance
      return value
    | some (.name name) =>
      advance
      if idle then return 0 else lookup name
    | some .openParen =>
      advance
      let value ← expression text fuel idle
      unless (← peek) = some .closeParen do faulty text "expecting ')'"
      advance
      return value
    | some (.operator .add) =>
      advance
      primary text fuel idle
    | some (.operator .sub) =>
      advance
      return -(← primary text fuel idle)
    | some .negation =>
      advance
      return Operator.truth ((← primary text fuel idle) = 0)
    | some .complement =>
      advance
      return ~~~(← primary text fuel idle)
    | _ => faulty text "expecting primary"

/-- The value of operators of less than a given rank, and of what they stand between, after a first operand
has been read. -/
def operators (text : Chars) : Nat → Bool → Nat → Int64 → Eval Int64
  | 0, _, _, first => pure first
  | fuel + 1, idle, rank, first => do
    match ← peek with
    | some (.operator operator) =>
      if rank ≤ operator.rank then return first
      advance
      let second ← primary text fuel idle
      let second ← operators text fuel idle operator.rank second
      let value ← if idle then pure second else operate text operator first second
      operators text fuel idle rank value
    | _ => return first

/-- Operands joined by `&&`. -/
def conjunction (text : Chars) : Nat → Bool → Eval Int64
  | 0, _ => faulty text "expecting primary"
  | fuel + 1, idle => do
    let first ← operators text fuel idle 8 (← primary text fuel idle)
    unless (← peek) = some .both do return first
    advance
    let second ← conjunction text fuel (idle || first = 0)
    return Operator.truth (first ≠ 0 && second ≠ 0)

/-- Operands joined by `||`. -/
def disjunction (text : Chars) : Nat → Bool → Eval Int64
  | 0, _ => faulty text "expecting primary"
  | fuel + 1, idle => do
    let first ← conjunction text fuel idle
    unless (← peek) = some .either do return first
    advance
    let second ← disjunction text fuel (idle || first ≠ 0)
    return Operator.truth (first ≠ 0 || second ≠ 0)

/-- A choice by a condition, or a value without a condition. -/
def conditional (text : Chars) : Nat → Bool → Eval Int64
  | 0, _ => faulty text "expecting primary"
  | fuel + 1, idle => do
    let condition ← disjunction text fuel idle
    unless (← peek) = some .question do return condition
    advance
    let positive ← expression text fuel (idle || condition = 0)
    unless (← peek) = some .colon do faulty text "expecting ':'"
    advance
    let negative ← conditional text fuel (idle || condition ≠ 0)
    return if condition ≠ 0 then positive else negative

/-- An assignment, or a value that is not assigned. -/
def expression (text : Chars) : Nat → Bool → Eval Int64
  | 0, _ => faulty text "expecting primary"
  | fuel + 1, idle => do
    match ← get with
    | .name name :: .assign operator? :: rest =>
      set rest
      let value ← expression text fuel idle
      if idle then return value
      let value ←
        match operator? with
        | none => pure value
        | some operator => do operate text operator (← lookup name) value
      liftM (m := Step) (Step.assign name (Chars.ofInt value.toInt))
      return value
    | _ => conditional text fuel idle

end

/-- The value of an expression. -/
def evaluate (text : Chars) : Step Int64 := do
  let tokens := tokens text
  let (value, rest) ← (expression text (8 * tokens.length + 16) false).run tokens
  unless rest.isEmpty do
    let _ ← (faulty text "expecting EOF" : Eval Unit).run []
  return value

end CounterCatalog.Shell.Arithmetic
