import CounterCatalog.Shell.Test
import CounterCatalog.Shell.Tool.Common

/-!
# Conditions

`test` as a program answers the same questions as the command of the shell, but reads the words by their number:
up to four words have one meaning each, and more are read from left to right.
-/

set_option autoImplicit false

namespace CounterCatalog.Shell.Tool

open Step

namespace Condition

/-- What is known where a condition is read: the files, all words, and those that stand behind the last of them
without belonging to the condition. -/
structure Setting where
  /-- The files. -/
  machine : Machine
  /-- The last word. -/
  lastWord : Chars
  /-- The words behind the last one. -/
  behind : List Chars

/-- Something is missing. -/
def missing {α : Type} (setting : Setting) : Except Chars α :=
  .error ("missing argument after ".toList ++ quoted setting.lastWord)

/-- A word that compares two others. -/
def isBinary (word : Chars) : Bool :=
  ["=", "!=", "==", "-nt", "-ot", "-ef", "-eq", "-ne", "-lt", "-le", "-gt", "-ge"].any fun name =>
    name.toList = word

/-- A word that looks like a question about another one. -/
def isUnary (word : Chars) : Bool :=
  match word with
  | ['-', _] => true
  | _ => false

/-- The whole number that a word is. -/
def number (word : Chars) : Except Chars Int :=
  let isBlank := fun c : Char => c = ' ' || c = '\t'
  let trimmed := word.dropWhile isBlank
  let negative := trimmed.head? = some '-'
  let rest := if negative ∨ trimmed.head? = some '+' then trimmed.tail else trimmed
  let digits := rest.takeWhile Char.isDigit
  if digits.isEmpty ∨ !(rest.drop digits.length).all isBlank then .error ("invalid integer ".toList ++ quoted word)
  else .ok (if negative then -(Chars.toNat digits : Int) else Chars.toNat digits)

/-- The answer to a question about a word. -/
def unaryAnswer (setting : Setting) (operator operand : Chars) : Except Chars Bool := do
  match operator with
  | ['-', 'z'] => return operand.isEmpty
  | ['-', 'n'] => return !operand.isEmpty
  | ['-', 't'] =>
    let _ ← number operand
    return false
  | ['-', letter] =>
    if "abcdefghkLNOGprsSuwx".toList.contains letter then
      return Test.fileAnswer setting.machine (if letter = 'a' ∨ letter = 'N' then 'e' else letter) operand
    throw (quoted operator ++ ": unary operator expected".toList)
  | _ => throw (quoted operator ++ ": unary operator expected".toList)

/-- The answer to a question that words begin with, and what follows them. -/
def unary (setting : Setting) (words : List Chars) : Except Chars (Bool × List Chars) :=
  match words with
  | operator :: operand :: rest => (unaryAnswer setting operator operand).map fun answer => (answer, rest)
  | [operator] =>
    if isUnary operator ∧ "abcdefghkLNOGprsSuwxtnz".toList.contains (operator.getLastD ' ') then missing setting
    else .error (quoted operator ++ ": unary operator expected".toList)
  | [] => missing setting

/-- The answer to a comparison; either side may be the length of a text. -/
def compared (setting : Setting) (operator left right : Chars) (leftIsSize rightIsSize : Bool) : Except Chars Bool := do
  let size := fun (isSize : Bool) (word : Chars) => if isSize then .ok (word.length : Int) else number word
  let numbers := fun holds : Int → Int → Bool => do return holds (← size leftIsSize left) (← size rightIsSize right)
  let ofFiles := ["-nt", "-ot", "-ef"].any fun name => name.toList = operator
  if ofFiles ∧ (leftIsSize ∨ rightIsSize) then throw (operator ++ " does not accept -l".toList)
  match String.ofList operator with
  | "-eq" => numbers fun x y => x = y
  | "-ne" => numbers fun x y => x ≠ y
  | "-lt" => numbers fun x y => x < y
  | "-le" => numbers fun x y => x ≤ y
  | "-gt" => numbers fun x y => y < x
  | "-ge" => numbers fun x y => y ≤ x
  | "==" => return left = right
  | _ => Test.binaryAnswer setting.machine operator left right

/-- The answer to a comparison that words begin with, and what follows them. -/
def binary (setting : Setting) (leftIsSize : Bool) (words : List Chars) : Except Chars (Bool × List Chars) :=
  match words with
  | left :: operator :: ['-', 'l'] :: right :: rest =>
    (compared setting operator left right leftIsSize true).map fun answer => (answer, rest)
  | left :: operator :: right :: rest =>
    (compared setting operator left right leftIsSize false).map fun answer => (answer, rest)
  | _ => missing setting

/-- The number of words inside parentheses of which the first has been read, up to four of them if the closing one
does not come sooner. -/
def innerSize (words : List Chars) : Nat :=
  let size := 1 + (words.tail.takeWhile fun word => word ≠ [')']).length
  if size < 4 ∨ (size = 4 ∧ words.length = 4) then size else if size = 4 ∧ 4 < words.length then 4 else words.length

mutual

/-- Conditions joined by `-o`, and what follows them. -/
def disjunction (setting : Setting) : Nat → List Chars → Except Chars (Bool × List Chars)
  | 0, words => .ok (false, words)
  | fuel + 1, words => do
    let (first, rest) ← conjunction setting fuel words
    match rest with
    | ['-', 'o'] :: rest =>
      let (others, rest) ← disjunction setting fuel rest
      return (first || others, rest)
    | rest => return (first, rest)

/-- Conditions joined by `-a`, and what follows them. -/
def conjunction (setting : Setting) : Nat → List Chars → Except Chars (Bool × List Chars)
  | 0, words => .ok (false, words)
  | fuel + 1, words => do
    let (first, rest) ← term setting fuel words
    match rest with
    | ['-', 'a'] :: rest =>
      let (others, rest) ← conjunction setting fuel rest
      return (first && others, rest)
    | rest => return (first, rest)

/-- A single condition, or one between parentheses, and what follows it. -/
def term (setting : Setting) : Nat → List Chars → Except Chars (Bool × List Chars)
  | 0, words => .ok (false, words)
  | fuel + 1, words =>
    match words with
    | [] => missing setting
    | ['!'] :: rest => (term setting fuel rest).map fun (answer, rest) => (!answer, rest)
    | ['('] :: rest => do
      if rest.isEmpty then missing setting
      let (answer, rest) ← byCount setting fuel (innerSize rest) rest
      match rest ++ setting.behind with
      | [] => throw "')' expected".toList
      | word :: _ =>
        unless word = [')'] do throw ("')' expected, found ".toList ++ quoted word)
        return (answer, rest.tail)
    | word :: rest =>
      if word = ['-', 'l'] ∧ 4 ≤ words.length ∧ rest[1]?.any isBinary then binary setting true rest
      else if 3 ≤ words.length ∧ rest.head?.any isBinary then binary setting false words
      else if isUnary word then unary setting words
      else .ok (!word.isEmpty, rest)

/-- A condition of a number of words, which says how they are to be read, and what follows it. -/
def byCount (setting : Setting) : Nat → Nat → List Chars → Except Chars (Bool × List Chars)
  | 0, _, words => .ok (false, words)
  | fuel + 1, count, words => do
    let negated := fun (result : Except Chars (Bool × List Chars)) => result.map fun (answer, rest) => (!answer, rest)
    let free := disjunction setting fuel words
    match count, words with
    | 1, word :: rest => return (!word.isEmpty, rest)
    | 2, ['!'] :: word :: rest => return (word.isEmpty, rest)
    | 2, word :: _ => if isUnary word then unary setting words else missing setting
    | 3, a :: b :: c :: rest =>
      if isBinary b then binary setting false words
      else if a = ['!'] then negated (byCount setting fuel 2 words.tail)
      else if a = ['('] ∧ c = [')'] then return (!b.isEmpty, rest)
      else if b = ['-', 'a'] ∨ b = ['-', 'o'] then free
      else throw (quoted b ++ ": binary operator expected".toList)
    | 4, a :: b :: c :: d :: rest =>
      if a = ['!'] then negated (byCount setting fuel 3 words.tail)
      else if a = ['('] ∧ d = [')'] then
        let (answer, _) ← byCount setting fuel 2 [b, c]
        return (answer, rest)
      else free
    | _, _ => free

end

/-- The answer to a condition in words, or what is wrong with it; given the words behind it. -/
def answer (machine : Machine) (words behind : List Chars) : Except Chars Bool := do
  if words.isEmpty then return false
  let setting : Setting := ⟨machine, words.getLastD [], behind⟩
  let (answer, rest) ← byCount setting (8 * words.length + 8) words.length words
  if let some extra := rest.head? then throw ("extra argument ".toList ++ quoted extra)
  return answer

end Condition

/-- Answers a condition by its status; under the name of a bracket the last argument closes it. -/
def test (closed : Bool) : Tool := fun arguments => do
  if closed ∧ arguments.getLast? ≠ some [']'] then
    report "missing ']'".toList
    return 2
  let words := if closed then arguments.dropLast else arguments
  match Condition.answer (← get) words (if closed then [[']']] else []) with
  | .ok true => return 0
  | .ok false => return 1
  | .error reason =>
    report reason
    return 2

end CounterCatalog.Shell.Tool
