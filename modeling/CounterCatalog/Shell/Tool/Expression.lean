import CounterCatalog.Shell.Regex.Parser
import CounterCatalog.Shell.Tool.Common

/-!
# Expressions among arguments

`expr` works out an expression that is given in words: choices, comparisons, sums, products, matches and a few
operations on texts, each binding more tightly than the one before. What need not be known is read, but not
worked out. Its status tells whether the value is something.
-/

set_option autoImplicit false

namespace CounterCatalog.Shell.Tool

namespace Expression

/-- A reading of words that stops at a complaint: the words that have been read, last one first, and those
that are left. -/
abbrev Reading (α : Type) := StateT (List Chars × List Chars) (Except Chars) α

/-- The expression is wrong. -/
def wrong {α : Type} (words : String) : Reading α :=
  throw ("syntax error: ".toList ++ words.toList)

/-- The expression is wrong about a word. -/
def wrongAt {α : Type} (words : String) (word : Chars) : Reading α :=
  throw ("syntax error: ".toList ++ words.toList ++ quoted word)

/-- Takes a word. -/
def take : Reading Chars := do
  match ← get with
  | (read, word :: rest) =>
    set (word :: read, rest)
    return word
  | (read, []) => wrongAt "missing argument after " (read.headD [])

/-- Takes the next word if it is one of some. -/
def takeAny (words : List String) : Reading (Option String) := do
  let (read, rest) ← get
  match rest with
  | word :: more =>
    match words.find? fun other => other.toList = word with
    | some found =>
      set (word :: read, more)
      return some found
    | none => return none
  | [] => return none

/-- The number that a text is. -/
def number? (text : Chars) : Option Int :=
  match text with
  | '-' :: digits => if Chars.isNumber digits then some (-(Chars.toNat digits : Int)) else none
  | digits => if Chars.isNumber digits then some (Chars.toNat digits) else none

/-- The text of a number. -/
def ofNumber (number : Int) : Chars :=
  (toString number).toList

/-- A value is nothing: an empty text, or zero. -/
def isNothing (text : Chars) : Bool :=
  text.isEmpty || (number? text).any fun number => number = 0

/-- The text of a truth value. -/
def ofBool (value : Bool) : Chars :=
  if value then ['1'] else ['0']

/-- The number that a value has to be. -/
def numberOf (text : Chars) : Reading Int :=
  match number? text with
  | some number => return number
  | none => throw "non-integer argument".toList

/-- The number of groups that a regular expression has. -/
def hasGroup : Regex → Bool
  | .group _ _ => true
  | .seq first second | .either first second => hasGroup first || hasGroup second
  | .star body | .lazyStar body | .atomic body => hasGroup body
  | _ => false

/-- What matches at the beginning of a text: what the first group has matched, or the number of characters. -/
def matched (text pattern : Chars) : Reading Chars :=
  match Regex.parse .basic pattern with
  | .error flaw => throw flaw.message.toList
  | .ok regex =>
    let view := regex.view text false false
    match regex.matchAt view 0 with
    | some found =>
      if hasGroup regex then return found.groupText view 1 else return Chars.ofNat found.stop.place
    | none => return if hasGroup regex then [] else ['0']

/-- Compares two values: as numbers if both are. -/
def compared (operator : String) (a b : Chars) : Bool :=
  let order :=
    match number? a, number? b with
    | some m, some n => compare m n
    | _, _ => if a = b then .eq else if Chars.isBefore a b then .lt else .gt
  match operator with
  | "<" => order == .lt
  | "<=" => order != .gt
  | ">" => order == .gt
  | ">=" => order != .lt
  | "!=" => order != .eq
  | _ => order == .eq

/-- What an operator makes of two values. -/
def applied (operator : String) (a b : Chars) : Reading Chars := do
  match operator with
  | ":" => matched a b
  | "+" | "-" | "*" | "/" | "%" =>
    let m ← numberOf a
    let n ← numberOf b
    if operator = "+" then return ofNumber (m + n)
    if operator = "-" then return ofNumber (m - n)
    if operator = "*" then return ofNumber (m * n)
    if n = 0 then throw "division by zero".toList
    return ofNumber (if operator = "/" then m.tdiv n else m.tmod n)
  | operator => return ofBool (compared operator a b)

/-- The operators, those that bind least tightly first. -/
def operators : List (List String) :=
  [["|"], ["&"], ["<", "<=", "=", "==", "!=", ">", ">="], ["+", "-"], ["*", "/", "%"], [":"]]

/-- The words between a place and another one of a text, counted from one. -/
def part (text start size : Chars) : Chars :=
  match number? start, number? size with
  | some start, some size => if start ≤ 0 ∨ size ≤ 0 then [] else (text.drop (start.toNat - 1)).take size.toNat
  | _, _ => []

/-- The place of the first character of a text that is among others, counted from one. -/
def placeIn (text set : Chars) : Nat :=
  match text.findIdx? set.contains with
  | some place => place + 1
  | none => 0

/-- The value of an expression whose operators bind as tightly as those given, given at least as many steps as
the words that are left allow for. -/
def value (live : Bool) : Nat → List (List String) → Reading Chars
  | 0, _ => throw []
  | steps + 1, [] => do
    match ← takeAny ["+", "length", "match", "index", "substr", "(", ")"] with
    | some "+" => take
    | some "length" => return Chars.ofNat (← value live steps []).length
    | some "match" =>
      let text ← value live steps []
      let pattern ← value live steps []
      if live then matched text pattern else return []
    | some "index" =>
      let text ← value live steps []
      let set ← value live steps []
      return Chars.ofNat (placeIn text set)
    | some "substr" =>
      let text ← value live steps []
      let start ← value live steps []
      let size ← value live steps []
      return part text start size
    | some "(" =>
      let found ← value live steps operators
      match ← get with
      | (read, []) => wrongAt "expecting ')' after " (read.headD [])
      | (read, word :: rest) =>
        if word ≠ [')'] then wrongAt "expecting ')' instead of " word
        set (word :: read, rest)
        return found
    | some ")" => wrong "unexpected ')'"
    | _ => take
  | steps + 1, level :: tighter => do
    let first ← value live steps tighter
    more steps level tighter first
where
  /-- The value of an expression that goes on behind a value. -/
  more (steps : Nat) (level : List String) (tighter : List (List String)) (first : Chars) : Reading Chars :=
    match steps with
    | 0 => return first
    | steps + 1 => do
      match ← takeAny level with
      | none => return first
      | some "|" =>
        let second ← value (live && isNothing first) steps tighter
        let chosen := if !isNothing first then first else if isNothing second then ['0'] else second
        more steps level tighter chosen
      | some "&" =>
        let second ← value (live && !isNothing first) steps tighter
        more steps level tighter (if isNothing first ∨ isNothing second then ['0'] else first)
      | some operator =>
        let second ← value live steps tighter
        more steps level tighter (← if live then applied operator first second else pure first)

/-- The value of the expression that some words are. -/
def evaluate (words : List Chars) : Except Chars Chars := do
  let (found, _, rest) ← (value true ((words.length + 2) * (operators.length + 1)) operators).run ([], words)
  match rest with
  | [] => return found
  | word :: _ => throw ("syntax error: unexpected argument ".toList ++ quoted word)

end Expression

/-- Works out an expression. -/
def expr : Tool := fun arguments => do
  match if arguments.head? = some ['-', '-'] then arguments.tail else arguments with
  | [] => misusedWith 2 "missing operand".toList
  | words =>
    match Expression.evaluate words with
    | .error message =>
      report message
      return 2
    | .ok found => answer (if Expression.isNothing found then 1 else 0) (found ++ ['\n'])

end CounterCatalog.Shell.Tool
