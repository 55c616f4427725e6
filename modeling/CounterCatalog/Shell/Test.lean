import CounterCatalog.Shell.Arithmetic

/-!
# Tests

A test is a condition in words: on texts, on numbers and on files, joined by `!`, `-a`, `-o` and parentheses.
Whether a word is an operator depends on its neighbours, so that `[ -n ]` and `[ = = = ]` have a meaning; the
rules below follow the words from left to right, and what they leave over is a fault.
-/

set_option autoImplicit false

namespace CounterCatalog.Shell.Test

/-- The kinds of operators. -/
inductive Kind where
  /-- It asks something about the word behind it. -/
  | unary
  /-- It compares the words around it. -/
  | binary
  /-- It turns a condition round. -/
  | negation
  /-- It joins conditions. -/
  | joint
  /-- It begins or ends a condition. -/
  | parenthesis
deriving DecidableEq

/-- The kind of an operator, if a word is one. -/
def kind? (word : Chars) : Option Kind :=
  match word with
  | ['-', c] =>
    if c = 'a' ∨ c = 'o' then some .joint
    else if "rwxefdcbpukgstznhOGLS".toList.contains c then some .unary
    else none
  | ['!'] => some .negation
  | ['('] | [')'] => some .parenthesis
  | word =>
    let comparisons :=
      ["=", "!=", "<", ">", "-eq", "-ne", "-ge", "-gt", "-le", "-lt", "-nt", "-ot", "-ef"]
    if comparisons.contains (String.ofList word) then some .binary else none

/-- What a word is, seen with the words behind it. -/
inductive Token where
  /-- There is no word. -/
  | ending
  /-- A word that stands for itself. -/
  | operand
  /-- An operator of a kind. -/
  | operator (word : Chars) (kind : Kind)
deriving DecidableEq

/-- What the first of some words is. -/
def Token.first (words : List Chars) : Token :=
  match words with
  | [] => .ending
  | word :: rest =>
    match kind? word, rest with
    | none, _ => .operand
    | some .unary, [] => .operand
    | some .unary, next :: _ :: _ =>
      if kind? next = some .binary then .operand else .operator word .unary
    | some .parenthesis, [] => if word = ['('] then .operand else .operator word .parenthesis
    | some kind, _ => .operator word kind

/-- A number, or the complaint that a word is none. -/
def number (word : Chars) : Except Chars Int :=
  let trimmed := word.dropWhile Char.isWhitespace
  let digits := if trimmed.head? = some '-' ∨ trimmed.head? = some '+' then trimmed.drop 1 else trimmed
  let run := digits.takeWhile Char.isDigit
  let size : Int := Chars.toNat run
  let value := if trimmed.head? = some '-' then -size else size
  if run.isEmpty ∨ !((digits.drop run.length).all Char.isWhitespace) ∨ value < Number.least ∨
      Number.greatest < value then
    .error ("Illegal number: ".toList ++ word)
  else .ok value

/-- What stands at a path. -/
def nodeAt (machine : Machine) (follow : Bool) (path : Chars) : Option (Handle × Node) :=
  let found :=
    if follow then machine.tree.locate machine.directory path.bytes
    else machine.tree.view machine.directory path.bytes
  match found.toOption with
  | some (handle, .stream number) =>
    match machine.opening? number with
    | none => none
    | some (_, opening) =>
      match opening.source with
      | .file target | .directory target =>
        (machine.tree.get? target).map fun node => (target, node)
      | .device device => some (handle, .device device)
      | .channel _ | .bytes _ => some (handle, .stream number)
  | found => found

/-- The answer to a question about a file. -/
def fileAnswer (machine : Machine) (letter : Char) (path : Chars) : Bool :=
  let follow := letter ≠ 'h' && letter ≠ 'L'
  match nodeAt machine follow path with
  | none => false
  | some (_, node) =>
    match letter, node with
    | 'f', .file _ _ | 'f', .program _ => true
    | 'd', .directory _ _ _ => true
    | 'h', .link _ | 'L', .link _ => true
    | 'c', .device _ => true
    | 'p', .stream _ => true
    | 's', .file content _ => !content.isEmpty
    | 's', .directory _ _ _ | 's', .program _ => true
    | 'x', .file _ mode => Node.runs mode
    | 'x', .directory _ _ _ | 'x', .program _ => true
    | 'u', .file _ mode | 'u', .directory _ _ mode => mode &&& 0o4000 ≠ 0
    | 'g', .file _ mode | 'g', .directory _ _ mode => mode &&& 0o2000 ≠ 0
    | 'k', .file _ mode | 'k', .directory _ _ mode => mode &&& 0o1000 ≠ 0
    | letter, _ => ['e', 'r', 'w', 'O', 'G'].contains letter

/-- The answer to a question about one word. -/
def unaryAnswer (machine : Machine) (operator operand : Chars) : Except Chars Bool :=
  match operator with
  | ['-', 'z'] => .ok operand.isEmpty
  | ['-', 'n'] => .ok !operand.isEmpty
  | ['-', 't'] => (number operand).map fun _ => false
  | ['-', letter] => .ok (fileAnswer machine letter operand)
  | _ => .ok false

/-- The answer to a comparison; of two files the one that was made later counts as the newer one. -/
def binaryAnswer (machine : Machine) (operator a b : Chars) : Except Chars Bool := do
  let compare := fun holds : Int → Int → Bool => return holds (← number a) (← number b)
  let files := fun holds : Handle → Handle → Bool =>
    match nodeAt machine true a, nodeAt machine true b with
    | some (first, _), some (second, _) => return holds first second
    | _, _ => return false
  match String.ofList operator with
  | "=" => return a = b
  | "!=" => return a ≠ b
  | "<" => return a.lex b fun x y => decide (x < y)
  | ">" => return b.lex a fun x y => decide (x < y)
  | "-eq" => compare fun x y => x = y
  | "-ne" => compare fun x y => x ≠ y
  | "-lt" => compare fun x y => x < y
  | "-le" => compare fun x y => x ≤ y
  | "-gt" => compare fun x y => y < x
  | "-ge" => compare fun x y => y ≤ x
  | "-ef" => files fun first second => first = second
  | "-nt" => files fun first second => second < first
  | "-ot" => files fun first second => first < second
  | _ => return false

/-- The answer to a condition, with the words from the last one on that belongs to it. -/
abbrev Answer := Except Chars (Bool × List Chars)

mutual

/-- Conditions joined by `-o`; the token is what the first word is taken for. -/
def disjunction (machine : Machine) : Nat → Token → List Chars → Answer
  | 0, _, words => .ok (false, words)
  | fuel + 1, token, words => do
    let (first, words) ← conjunction machine fuel token words
    match Token.first words.tail with
    | .operator ['-', 'o'] _ =>
      let words := words.drop 2
      let (others, words) ← disjunction machine fuel (.first words) words
      return (first || others, words)
    | _ => return (first, words)

/-- Conditions joined by `-a`. -/
def conjunction (machine : Machine) : Nat → Token → List Chars → Answer
  | 0, _, words => .ok (false, words)
  | fuel + 1, token, words => do
    let (first, words) ← negation machine fuel token words
    match Token.first words.tail with
    | .operator ['-', 'a'] _ =>
      let words := words.drop 2
      let (others, words) ← conjunction machine fuel (.first words) words
      return (first && others, words)
    | _ => return (first, words)

/-- A condition that may be turned round. -/
def negation (machine : Machine) : Nat → Token → List Chars → Answer
  | 0, _, words => .ok (false, words)
  | fuel + 1, token, words => do
    match token with
    | .operator _ .negation =>
      let next := Token.first words.tail
      let words := if next = .ending then words else words.tail
      let (answer, words) ← negation machine fuel next words
      return (!answer, words)
    | token => primary machine fuel token words

/-- A single condition, or one between parentheses. -/
def primary (machine : Machine) : Nat → Token → List Chars → Answer
  | 0, _, words => .ok (false, words)
  | fuel + 1, token, words =>
    match token, words with
    | .ending, words => .ok (false, words)
    | .operator ['('] _, _ :: words =>
      let next := Token.first words
      if next = .operator [')'] .parenthesis then .ok (false, words)
      else do
        let (answer, words) ← disjunction machine fuel next words
        unless Token.first words.tail = .operator [')'] .parenthesis do
          throw "closing paren expected".toList
        return (answer, words.tail)
    | .operator operator .unary, [_] => .error (operator ++ ": argument expected".toList)
    | .operator operator .unary, _ :: operand :: rest => do
      return (← unaryAnswer machine operator operand, operand :: rest)
    | _, word :: rest =>
      match Token.first rest, rest with
      | .operator operator .binary, [_] => .error (operator ++ ": argument expected".toList)
      | .operator operator .binary, _ :: operand :: rest => do
        return (← binaryAnswer machine operator word operand, operand :: rest)
      | _, _ => .ok (!word.isEmpty, word :: rest)
    | _, [] => .ok (false, [])

end

/-- The answer to a condition in the words of which the first is taken for a token. -/
def whole (machine : Machine) (token : Token) (words : List Chars) : Except Chars Bool := do
  let (answer, left) ← disjunction machine (8 * words.length + 8) token words
  match left with
  | word :: _ :: _ =>
    throw (if word.isEmpty then "unexpected operator".toList else word ++ ": unexpected operator".toList)
  | _ => return answer

/-- The answer to a test in words, or what is wrong with it. -/
def answer (machine : Machine) (words : List Chars) : Except Chars Bool :=
  let free := fun words => whole machine (.first words) words
  match words with
  | [] => .ok false
  | [a, b, c] =>
    if kind? b = some .binary then whole machine .operand words
    else if a = ['('] ∧ c = [')'] then free [b]
    else if a = ['!'] then (free [b, c]).map not
    else free words
  | [a, b, c, d] =>
    if a = ['('] ∧ d = [')'] then free [b, c]
    else if a = ['!'] then
      if kind? c = some .binary then (whole machine .operand [b, c, d]).map not
      else if b = ['('] ∧ d = [')'] then (free [c]).map not
      else if b = ['!'] then (free [c, d]).map not
      else (free [b, c, d]).map not
    else free words
  | words => free words

end CounterCatalog.Shell.Test
