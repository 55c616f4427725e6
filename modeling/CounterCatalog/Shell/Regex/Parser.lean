import CounterCatalog.Shell.Pattern
import CounterCatalog.Shell.Regex.Basic

/-!
# Reading regular expressions

Basic expressions write groups, counts and choices with backslashes, and extended ones without them. In a basic
expression a star means nothing special where nothing stands before it, and the signs for the beginning and the
end of a line do so only at the ends of an expression, a group or a choice.
-/

set_option autoImplicit false

namespace CounterCatalog.Shell.Regex

/-- How regular expressions are written. -/
structure Dialect where
  /-- Groups, counts and choices have no backslashes. -/
  extended : Bool
  /-- A backslash and a letter may stand for a character that cannot be seen. -/
  escapes : Bool
  /-- A sign for repetition must have something to repeat, and a group that is closed must have begun. -/
  strict : Bool
  /-- The signs for repetition have no backslashes, though groups and choices have. -/
  bareRepeats : Bool

namespace Dialect

/-- Basic expressions. -/
def basic : Dialect := ⟨false, false, false, false⟩

/-- Basic expressions in which the signs for repetition have no backslashes. -/
def repeating : Dialect := { basic with bareRepeats := true }

end Dialect

/-- What stands next in an expression. -/
inductive Token where
  /-- Something that matches by itself. -/
  | atom (regex : Regex)
  /-- A star. -/
  | star
  /-- Once or more often. -/
  | plus
  /-- Once or not at all. -/
  | optional
  /-- A number of times: at least, and at most if there is a limit. -/
  | times (low : Nat) (high? : Option Nat)
  /-- A group begins. -/
  | openGroup
  /-- A group ends. -/
  | closeGroup
  /-- A choice. -/
  | bar
  /-- The sign for the beginning of a line. -/
  | caret
  /-- The sign for the end of a line. -/
  | dollar

/-- The greatest number of times that can be asked for. -/
def timesLimit : Nat := 32767

/-- What is wrong with an expression. -/
inductive Flaw where
  /-- A set is not closed. -/
  | openSet
  /-- Nothing follows where a set begins. -/
  | emptySet
  /-- A name in a set stands for no character. -/
  | collation
  /-- A class of characters has no such name. -/
  | className
  /-- A range ends before it begins. -/
  | rangeEnd
  /-- A group is not closed. -/
  | openGroup
  /-- A group is closed that has not begun. -/
  | closedGroup
  /-- A count is not closed. -/
  | openCount
  /-- A count is no count. -/
  | count
  /-- There is nothing to be repeated. -/
  | nothingBefore
  /-- A backslash is the last character. -/
  | lastBackslash
  /-- A group is named that has not ended. -/
  | backReference
  /-- The expression is too large. -/
  | tooBig

/-- The words for what is wrong. -/
def Flaw.message : Flaw → String
  | openSet => "Unmatched [, [^, [:, [., or [="
  | emptySet => "Invalid regular expression"
  | collation => "Invalid collation character"
  | className => "Invalid character class name"
  | rangeEnd => "Invalid range end"
  | openGroup => "Unmatched ( or \\("
  | closedGroup => "Unmatched ) or \\)"
  | openCount => "Unmatched \\\x7b"
  | count => "Invalid content of \\\x7b\\\x7d"
  | nothingBefore => "Invalid preceding regular expression"
  | lastBackslash => "Trailing backslash"
  | backReference => "Invalid back reference"
  | tooBig => "Regular expression too big"

/-- The characters that a backslash and a letter stand for. -/
def unseen? (letter : Char) : Option Char :=
  match letter with
  | 'a' => some '\x07'
  | 'f' => some '\x0c'
  | 'n' => some '\n'
  | 'r' => some '\r'
  | 't' => some '\t'
  | 'v' => some '\x0b'
  | _ => none

/-- The characters of a word. -/
def wordChars : Chars := alphabet.filter isWordChar

/-- The blanks. -/
def spaceChars : Chars := alphabet.filter (isInClass "space".toList)

/-- The characters that are none of some. -/
def others (members : Chars) : Chars :=
  alphabet.filter fun c => !members.contains c

/-- The members of a set behind its opening bracket, and what follows the closing one; given at least as many
steps as there are characters. -/
def members (dialect : Dialect) : Nat → Bool → Chars → Except Flaw (Chars × Chars)
  | 0, _, _ => .error .openSet
  | _, _, [] => .error .openSet
  | steps + 1, first, text =>
    match text with
    | ']' :: rest => if first then item steps ']' rest else .ok ([], rest)
    | '[' :: ':' :: rest =>
      let name := rest.takeWhile fun c => c ≠ ':'
      match rest.drop name.length with
      | ':' :: ']' :: after =>
        let found := alphabet.filter (isInClass name)
        if found.isEmpty then .error .className
        else
          match after with
          | '-' :: c :: _ => if c = ']' then add steps found after else .error .rangeEnd
          | after => add steps found after
      | _ => .error .openSet
    | '[' :: '=' :: c :: '=' :: ']' :: rest | '[' :: '.' :: c :: '.' :: ']' :: rest => item steps c rest
    | '[' :: '.' :: _ | '[' :: '=' :: _ => .error .collation
    | '\\' :: c :: rest =>
      match if dialect.escapes then unseen? c else none with
      | some shown => item steps shown rest
      | none => item steps '\\' (c :: rest)
    | c :: rest => item steps c rest
    | [] => .error .openSet
where
  /-- A member, or a range that begins with it, and the members that follow. -/
  item (steps : Nat) (low : Char) (rest : Chars) : Except Flaw (Chars × Chars) :=
    match rest with
    | '-' :: ']' :: _ => add steps [low] rest
    | '-' :: '[' :: '.' :: high :: '.' :: ']' :: after => range steps low high after
    | '-' :: '[' :: ':' :: _ => .error .rangeEnd
    | '-' :: high :: after => range steps low high after
    | rest => add steps [low] rest
  /-- The characters of a range, and the members that follow. -/
  range (steps : Nat) (low high : Char) (rest : Chars) : Except Flaw (Chars × Chars) :=
    if high < low then .error .rangeEnd
    else add steps (alphabet.filter fun c => low ≤ c && c ≤ high) rest
  /-- Members, and those that follow. -/
  add (steps : Nat) (found rest : Chars) : Except Flaw (Chars × Chars) :=
    (members dialect steps false rest).map fun (more, left) => (found ++ more, left)

/-- A set behind its opening bracket, and what follows it. -/
def setToken (dialect : Dialect) (text : Chars) : Except Flaw (Regex × Chars) :=
  let negated := text.head? = some '^'
  let text := if negated then text.drop 1 else text
  if text.isEmpty then .error .emptySet
  else (members dialect (text.length + 1) true text).map fun (found, rest) =>
    (.oneOf (if negated then others found else found), rest)

/-- A count behind its opening brace, and what follows it. -/
def timesToken (extended : Bool) (text : Chars) : Except Flaw (Token × Chars) :=
  let low := text.takeWhile Char.isDigit
  let rest := text.drop low.length
  let (high?, rest) :=
    match rest with
    | ',' :: more =>
      let high := more.takeWhile Char.isDigit
      (if high.isEmpty then none else some (Chars.toNat high), more.drop high.length)
    | rest => (if low.isEmpty then none else some (Chars.toNat low), rest)
  let single := (text.drop low.length).head? ≠ some ','
  let close : Chars := if extended then ['\x7d'] else ['\\', '\x7d']
  if rest.isEmpty then .error .openCount
  else if !close.isPrefixOf rest ∨ (single ∧ low.isEmpty) then .error .count
  else if (high?.any fun high => high < Chars.toNat low) then .error .count
  else if timesLimit < max (Chars.toNat low) (high?.getD 0) then .error .tooBig
  else .ok (.times (Chars.toNat low) high?, rest.drop close.length)

/-- What stands behind an opening brace is a count, even if it is none that can be asked for. -/
def isComplete (text : Chars) : Bool :=
  let low := text.takeWhile Char.isDigit
  match text.drop low.length with
  | '\x7d' :: _ => !low.isEmpty
  | ',' :: more => (more.dropWhile Char.isDigit).head? = some '\x7d'
  | _ => false

/-- The expression that a backslash and a character stand for in every dialect, if they are special. -/
def special? (c : Char) : Option Regex :=
  match c with
  | 'w' => some (.oneOf wordChars)
  | 'W' => some (.oneOf (others wordChars))
  | 's' => some (.oneOf spaceChars)
  | 'S' => some (.oneOf (others spaceChars))
  | 'b' => some .wordEdge
  | 'B' => some .wordInside
  | '<' => some .wordStart
  | '>' => some .wordEnd
  | '\x60' => some .textStart
  | '\x27' => some .textEnd
  | c => if '1' ≤ c ∧ c ≤ '9' then some (.again (c.toNat - '0'.toNat)) else none

/-- The sign that a character is, with a backslash in basic expressions and without one in extended ones. -/
def sign? (c : Char) : Option Token :=
  match c with
  | '(' => some .openGroup
  | ')' => some .closeGroup
  | '|' => some .bar
  | '+' => some .plus
  | '?' => some .optional
  | _ => none

/-- The next token of an expression, and what follows it. -/
def token (dialect : Dialect) (text : Chars) : Except Flaw (Token × Chars) :=
  let plain := fun (c : Char) (rest : Chars) => .ok (.atom (.oneOf [c]), rest)
  match text with
  | [] => .error .nothingBefore
  | '.' :: rest => .ok (.atom .any, rest)
  | '*' :: rest => .ok (.star, rest)
  | '^' :: rest => .ok (.caret, rest)
  | '$' :: rest => .ok (.dollar, rest)
  | '[' :: rest => (setToken dialect rest).map fun (regex, rest) => (.atom regex, rest)
  | ['\\'] => .error .lastBackslash
  | '\\' :: c :: rest =>
    match special? c, if dialect.extended then none else sign? c with
    | some regex, _ => .ok (.atom regex, rest)
    | none, some token => .ok (token, rest)
    | none, none =>
      if !dialect.extended ∧ c = '\x7b' then timesToken false rest
      else plain (((if dialect.escapes then unseen? c else none)).getD c) rest
  | c :: rest =>
    if !dialect.extended then
      match if dialect.bareRepeats then sign? c else none with
      | some .plus => .ok (.plus, rest)
      | some .optional => .ok (.optional, rest)
      | _ => plain c rest
    else
      match sign? c with
      | some token => .ok (token, rest)
      | none =>
        if c = '\x7b' then
          match timesToken true rest with
          | .ok found => .ok found
          | .error flaw => if dialect.strict ∨ isComplete rest then .error flaw else plain c rest
        else plain c rest

/-- An expression a number of times. -/
def times (regex : Regex) (low : Nat) (high? : Option Nat) : Regex :=
  let rest :=
    match high? with
    | none => .star regex
    | some high =>
      (List.range (high - low)).foldl (fun after _ => .either (.seq regex after) .empty) .empty
  (List.range low).foldl (fun after _ => .seq regex after) rest

/-- How far the reading of an expression has come. -/
structure Reader where
  /-- What is still to be read. -/
  rest : Chars
  /-- The number of groups that have begun. -/
  groups : Nat
  /-- The groups that have ended. -/
  closed : List Nat
  /-- The signs for repetition that had nothing to repeat, the last one first. -/
  idle : List Chars

/-- Reads a part of an expression, or finds it faulty. -/
abbrev Read (α : Type) := StateT Reader (Except Flaw) α

/-- What follows ends an expression, a group or a choice. -/
def isEnd (dialect : Dialect) (text : Chars) : Bool :=
  match text with
  | [] => true
  | '\\' :: c :: _ => !dialect.extended && (c = ')' || c = '|')
  | c :: _ => dialect.extended && (c = ')' || c = '|')

mutual

/-- A choice inside a number of groups. -/
def choice (dialect : Dialect) : Nat → Nat → Read Regex
  | 0, _ => throw Flaw.tooBig
  | fuel + 1, depth => do
    let first ← branch dialect fuel depth none false
    match token dialect (← get).rest with
    | .ok (.bar, rest) =>
      modify fun reader => { reader with rest := rest }
      return .either first (← choice dialect fuel depth)
    | _ => return first

/-- Parts one after the other; the last part that has been read is given, and more may belong to it; and whether
it has been repeated already. -/
def branch (dialect : Dialect) : Nat → Nat → Option Regex → Bool → Read Regex
  | 0, _, _, _ => throw Flaw.tooBig
  | fuel + 1, depth, last?, isRepeated => do
    let reader ← get
    if reader.rest.isEmpty then return last?.getD .empty
    let (found, rest) ← liftM (m := Except Flaw) (token dialect reader.rest)
    let join (regex : Regex) (rest : Chars) : Read Regex := do
      modify fun reader => { reader with rest := rest }
      let after ← branch dialect fuel depth (some regex) false
      return match last? with
        | some last => .seq last after
        | none => after
    let widen (change : Regex → Regex) (sign shown : Chars) : Read Regex := do
      let isCount := sign.isEmpty
      match last? with
      | some last =>
        if dialect.strict ∧ dialect.extended = false ∧ isRepeated ∧ (isCount ∨ sign = ['*']) then
          throw Flaw.nothingBefore
        modify fun reader => { reader with rest := rest }
        branch dialect fuel depth (some (change last)) true
      | none =>
        if dialect.strict ∧ (dialect.extended ∨ isCount) then throw Flaw.nothingBefore
        if dialect.extended then
          modify fun reader => { reader with rest := rest, idle := shown :: reader.idle }
          branch dialect fuel depth none false
        else
          let written := reader.rest.take (reader.rest.length - rest.length)
          let text := if isCount then written.filter fun c => c ≠ '\\' else sign
          join (text.foldr (fun c after => Regex.seq (.oneOf [c]) after) .empty) rest
    match found with
    | .atom (.again number) =>
      if reader.closed.contains number then join (.again number) rest else throw Flaw.backReference
    | .atom regex => join regex rest
    | .star => widen .star ['*'] ['*']
    | .plus => widen (fun regex => .seq regex (.star regex)) ['+'] ['+']
    | .optional => widen (fun regex => .either regex .empty) ['?'] ['?']
    | .times low high? => widen (fun regex => times regex low high?) [] "\x7b...\x7d".toList
    | .bar => return last?.getD .empty
    | .closeGroup =>
      if depth ≠ 0 then return last?.getD .empty
      if dialect.extended ∧ dialect.strict = false then join (.oneOf [')']) rest else throw Flaw.closedGroup
    | .openGroup =>
      let number := reader.groups + 1
      set { reader with rest := rest, groups := number }
      let body ← choice dialect fuel (depth + 1)
      match token dialect (← get).rest with
      | .ok (.closeGroup, rest) =>
        modify fun reader => { reader with closed := number :: reader.closed }
        join (.group number body) rest
      | _ => throw Flaw.openGroup
    | .caret =>
      if dialect.extended ∨ last?.isNone then
        modify fun reader => { reader with rest := rest }
        let after ← branch dialect fuel depth none false
        return match last? with
          | some last => .seq last (.seq .lineStart after)
          | none => .seq .lineStart after
      else join (.oneOf ['^']) rest
    | .dollar =>
      if dialect.extended ∨ isEnd dialect rest then join .lineEnd rest else join (.oneOf ['$']) rest

end

/-- The expression that a text is, with the signs in it that had nothing to repeat, in order. -/
def parseNoting (dialect : Dialect) (text : Chars) : Except Flaw (Regex × List Chars) :=
  match (choice dialect (4 * text.length + 8) 0).run ⟨text, 0, [], []⟩ with
  | .ok (regex, reader) => if reader.rest.isEmpty then .ok (regex, reader.idle.reverse) else .error .closedGroup
  | .error flaw => .error flaw

/-- The expression that a text is. -/
def parse (dialect : Dialect) (text : Chars) : Except Flaw Regex :=
  (parseNoting dialect text).map Prod.fst

end CounterCatalog.Shell.Regex
