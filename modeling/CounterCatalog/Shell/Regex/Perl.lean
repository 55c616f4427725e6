import CounterCatalog.Shell.Arithmetic
import CounterCatalog.Shell.Regex.Parser

/-!
# Reading expressions as Perl writes them

Besides what extended expressions have, there are repetitions that take as little as possible or give nothing back,
groups that are not kept, names for groups, and conditions on what comes before and behind.
-/

set_option autoImplicit false

namespace CounterCatalog.Shell.Regex.Perl

/-- What is wrong with an expression. -/
abbrev Flaw := String

/-- How far the reading of an expression has come. -/
structure Reader where
  /-- What is still to be read. -/
  rest : Chars
  /-- The number of groups that have begun. -/
  groups : Nat
  /-- The names of groups, with their numbers. -/
  names : List (Chars × Nat)
  /-- The groups that are referred to. -/
  referred : List Nat
  /-- Small letters are like capital ones. -/
  folded : Bool
  /-- Blanks mean nothing. -/
  spaced : Bool

/-- Reads a part of an expression, or finds it faulty. -/
abbrev Read (α : Type) := StateT Reader (Except Flaw) α

/-- The digits. -/
def digitChars : Chars := alphabet.filter Char.isDigit

/-- The blanks inside a line. -/
def gapChars : Chars := [' ', '\t']

/-- The characters that end lines. -/
def breakChars : Chars := ['\n', '\x0b', '\x0c', '\r']

/-- The characters that a letter behind a backslash stands for. -/
def classChars? (letter : Char) : Option Chars :=
  match letter with
  | 'd' => some digitChars
  | 'D' => some (others digitChars)
  | 'w' => some wordChars
  | 'W' => some (others wordChars)
  | 's' => some spaceChars
  | 'S' => some (others spaceChars)
  | 'h' => some gapChars
  | 'H' => some (others gapChars)
  | 'v' => some breakChars
  | 'V' => some (others breakChars)
  | 'N' => some (others ['\n'])
  | _ => none

/-- The character that an escape stands for behind its backslash, and what follows. -/
def character? (text : Chars) : Option (Char × Chars) :=
  match text with
  | 'x' :: '\x7b' :: rest =>
    let digits := rest.takeWhile fun c => decide (Arithmetic.digitValue c < 16)
    match rest.drop digits.length with
    | '\x7d' :: after => some (Char.ofNat (Arithmetic.valueIn 16 digits % 256), after)
    | _ => none
  | 'x' :: rest =>
    let digits := (rest.take 2).takeWhile fun c => decide (Arithmetic.digitValue c < 16)
    some (Char.ofNat (Arithmetic.valueIn 16 digits % 256), rest.drop digits.length)
  | '0' :: rest =>
    let digits := (rest.take 2).takeWhile fun c => decide (Arithmetic.digitValue c < 8)
    some (Char.ofNat (Arithmetic.valueIn 8 digits), rest.drop digits.length)
  | 'c' :: c :: rest => some (Char.ofNat (c.toUpper.toNat ^^^ 64), rest)
  | 'e' :: rest => some ('\x1b', rest)
  | c :: rest =>
    if c = 'v' then none
    else
      match unseen? c with
      | some shown => some (shown, rest)
      | none => if c.isAlphanum then none else some (c, rest)
  | [] => none

/-- Characters with the other cases of the letters among them, if these are the same. -/
def folding (folded : Bool) (members : Chars) : Chars :=
  if folded then alphabet.filter fun c => members.any fun d => d.toLower = c.toLower else members

/-- One of some characters. -/
def oneOf (members : Chars) : Read Regex := do
  return .oneOf (folding (← get).folded members)

/-- Takes a text if it stands next. -/
def accept (text : String) : Read Bool := do
  let reader ← get
  if text.toList.isPrefixOf reader.rest then
    set { reader with rest := reader.rest.drop text.length }
    return true
  return false

/-- Takes what stands up to a character, and the character. -/
def upTo (closing : Char) : Read Chars := do
  let reader ← get
  let found := reader.rest.takeWhile fun c => c ≠ closing
  if found.length = reader.rest.length then throw "syntax error in subpattern name (missing terminator?)"
  set { reader with rest := reader.rest.drop (found.length + 1) }
  return found

/-! ## Sets -/

/-- The members of a set up to its closing bracket, given at least as many steps as characters are left. -/
def members : Nat → Bool → Read Chars
  | 0, _ => throw "missing terminating ] for character class"
  | steps + 1, first => do
    let reader ← get
    let go (found rest : Chars) : Read Chars := do
      set { reader with rest := rest }
      return found ++ (← members steps false)
    let item (low : Char) (rest : Chars) : Read Chars := do
      match rest with
      | '-' :: ']' :: _ => go [low] rest
      | '-' :: high :: after =>
        let (high, after) :=
          if high = '\\' then (character? after).getD (high, after) else (high, after)
        if high < low then throw "range out of order in character class"
        go (alphabet.filter fun c => low ≤ c && c ≤ high) after
      | rest => go [low] rest
    match reader.rest with
    | [] => throw "missing terminating ] for character class"
    | ']' :: rest =>
      if first then item ']' rest
      else
        set { reader with rest := rest }
        return []
    | '[' :: ':' :: rest =>
      let negated := rest.head? = some '^'
      let text := if negated then rest.tail else rest
      let name := text.takeWhile fun c => c ≠ ':' && c ≠ ']'
      match text.drop name.length with
      | ':' :: ']' :: after =>
        let found := alphabet.filter (isInClass name)
        if found.isEmpty then throw "unknown POSIX class name"
        go (if negated then others found else found) after
      | _ => item '[' (':' :: rest)
    | ['\\'] => throw "\\ at end of pattern"
    | '\\' :: 'b' :: rest => item '\x08' rest
    | '\\' :: c :: rest =>
      match classChars? c, character? (c :: rest) with
      | some found, _ => go found rest
      | none, some (shown, after) => item shown after
      | none, none =>
        if c.isDigit then item (Char.ofNat (Arithmetic.digitValue c)) rest
        else throw "unrecognized character follows \\"
    | c :: rest => item c rest

/-- A set behind its opening bracket. -/
def set? : Read Regex := do
  let negated ← accept "^"
  let found ← members ((← get).rest.length + 1) true
  let found := folding (← get).folded found
  return .oneOf (if negated then others found else found)

/-! ## Repetitions -/

/-- How a repetition chooses. -/
inductive Manner where
  /-- As often as possible. -/
  | greedy
  /-- As seldom as possible. -/
  | lazy
  /-- As often as possible, and nothing is given back. -/
  | possessive

/-- An expression a number of times. -/
def times (manner : Manner) (low : Nat) (high? : Option Nat) (regex : Regex) : Regex :=
  let isLazy := manner matches .lazy
  let further :=
    match high? with
    | none => if isLazy then .lazyStar regex else .star regex
    | some high =>
      (List.range (high - low)).foldl (fun after _ =>
        if isLazy then .either .empty (.seq regex after) else .either (.seq regex after) .empty) .empty
  let all := (List.range low).foldl (fun after _ => .seq regex after) further
  if manner matches .possessive then .atomic all else all

/-- The least and the greatest number of a repetition that stands next, if one does. -/
def count? : Read (Option (Nat × Option Nat)) := do
  let reader ← get
  match reader.rest with
  | '*' :: rest =>
    set { reader with rest := rest }
    return some (0, none)
  | '+' :: rest =>
    set { reader with rest := rest }
    return some (1, none)
  | '?' :: rest =>
    set { reader with rest := rest }
    return some (0, some 1)
  | '\x7b' :: rest =>
    let low := rest.takeWhile Char.isDigit
    let rest := rest.drop low.length
    if low.isEmpty then return none
    let (high?, rest) :=
      match rest with
      | ',' :: rest =>
        let high := rest.takeWhile Char.isDigit
        (if high.isEmpty then none else some (Chars.toNat high), rest.drop high.length)
      | rest => (some (Chars.toNat low), rest)
    if rest.head? ≠ some '\x7d' then return none
    if 65535 < max (Chars.toNat low) (high?.getD 0) then throw "number too big in \x7b\x7d quantifier"
    if high?.any fun high => high < Chars.toNat low then throw "numbers out of order in \x7b\x7d quantifier"
    set { reader with rest := rest.tail }
    return some (Chars.toNat low, high?)
  | _ => return none

/-- An expression with the repetition that follows it, if one does. -/
def repeated (regex : Regex) : Read Regex := do
  match ← count? with
  | none => return regex
  | some (low, high?) =>
    let manner ← do
      if ← accept "?" then pure Manner.lazy
      else if ← accept "+" then pure Manner.possessive
      else pure Manner.greedy
    return times manner low high? regex

/-! ## Expressions -/

/-- A reference to a group by its number or name; a number below zero counts back. -/
def reference (text : Chars) : Read Regex := do
  let reader ← get
  let number ←
    match text with
    | '-' :: digits => pure (reader.groups + 1 - Chars.toNat digits)
    | text =>
      if Chars.isNumber text then pure (Chars.toNat text)
      else
        match reader.names.find? fun item => item.1 = text with
        | some (_, number) => pure number
        | none => throw "reference to non-existent subpattern"
  set { reader with referred := number :: reader.referred }
  return .again number

/-- An escape behind its backslash. -/
def escape : Read Regex := do
  let reader ← get
  let go (rest : Chars) (regex : Regex) : Read Regex := do
    set { reader with rest := rest }
    return regex
  match reader.rest with
  | [] => throw "\\ at end of pattern"
  | c :: rest =>
    match c with
    | 'b' => go rest .wordEdge
    | 'B' => go rest .wordInside
    | 'A' | 'G' => go rest .textStart
    | 'Z' | 'z' => go rest .textEnd
    | 'K' => go rest .restart
    | 'R' => go rest (.oneOf breakChars)
    | 'g' | 'k' =>
      set { reader with rest := rest.tail }
      match rest with
      | '\x7b' :: _ => reference (← upTo '\x7d')
      | '<' :: _ => reference (← upTo '>')
      | '\x27' :: _ => reference (← upTo '\x27')
      | rest =>
        let digits := rest.takeWhile Char.isDigit
        set { reader with rest := rest.drop digits.length }
        reference digits
    | c =>
      if c.isDigit ∧ c ≠ '0' then
        let digits := (c :: rest).takeWhile Char.isDigit
        set { reader with rest := (c :: rest).drop digits.length }
        return ← reference digits
      match classChars? c, character? (c :: rest) with
      | some found, _ => go rest (.oneOf found)
      | none, some (shown, after) =>
        set { reader with rest := after }
        oneOf [shown]
      | none, none =>
        throw (if (c :: rest).take 2 = ['x', '\x7b'] then
          "non-hex character in \\x\x7b\x7d (closing brace missing?)" else "unrecognized character follows \\")

/-- The letters that change how an expression is read, up to what ends them. -/
def settings : Read Unit := do
  let reader ← get
  let letters := reader.rest.takeWhile fun c => "imnsxJU-^".toList.contains c
  let on := letters.takeWhile fun c => c ≠ '-'
  let off := letters.drop on.length
  set { reader with
    rest := reader.rest.drop letters.length
    folded := (reader.folded || on.contains 'i') && !off.contains 'i'
    spaced := (reader.spaced || on.contains 'x') && !off.contains 'x' }

mutual

/-- A choice. -/
def choice : Nat → Read Regex
  | 0 => throw "regular expression is too large"
  | fuel + 1 => do
    let first ← branch fuel
    if ← accept "|" then return .either first (← choice fuel)
    return first

/-- Parts one after the other. -/
def branch : Nat → Read Regex
  | 0 => throw "regular expression is too large"
  | fuel + 1 => do
    let reader ← get
    match reader.rest with
    | [] | '|' :: _ | ')' :: _ => return .empty
    | c :: rest =>
      if reader.spaced ∧ spaceChars.contains c then
        set { reader with rest := rest }
        return ← branch fuel
      if reader.spaced ∧ c = '#' then
        set { reader with rest := rest.dropWhile fun d => d ≠ '\n' }
        return ← branch fuel
      if ← accept "\\Q" then
        let text := (← get).rest
        let size := (List.range (text.length + 1)).find? fun n => (text.drop n).take 2 = ['\\', 'E']
        let quoted := text.take (size.getD text.length)
        modify fun reader => { reader with rest := text.drop (quoted.length + 2) }
        let rest ← branch fuel
        let folded := (← get).folded
        return quoted.foldr (fun c after => .seq (.oneOf (folding folded [c])) after) rest
      if ← accept "\\E" then return ← branch fuel
      let part ← atom fuel
      let part ← repeated part
      return .seq part (← branch fuel)

/-- A part without its repetition. -/
def atom : Nat → Read Regex
  | 0 => throw "regular expression is too large"
  | fuel + 1 => do
    let reader ← get
    match reader.rest with
    | [] => return .empty
    | c :: rest =>
      set { reader with rest := rest }
      match c with
      | '.' => return .oneOf (others ['\n'])
      | '^' => return .lineStart
      | '$' => return .lineEnd
      | '[' => set?
      | '(' => group fuel
      | '\\' => escape
      | '*' | '+' | '?' => throw "quantifier does not follow a repeatable item"
      | c => oneOf [c]

/-- A group behind its opening parenthesis. -/
def group : Nat → Read Regex
  | 0 => throw "regular expression is too large"
  | fuel + 1 => do
    let before ← get
    let inner : Read Regex := do
      let body ← choice fuel
      unless ← accept ")" do throw "missing closing parenthesis"
      modify fun reader => { reader with folded := before.folded, spaced := before.spaced }
      return body
    let kept (name? : Option Chars) : Read Regex := do
      let reader ← get
      let number := reader.groups + 1
      set { reader with
        groups := number
        names := (name?.toList.map fun name => (name, number)) ++ reader.names }
      return .group number (← inner)
    if !(← accept "?") then return ← kept none
    if ← accept ":" then return ← inner
    if ← accept "=" then return .followed false (← inner)
    if ← accept "!" then return .followed true (← inner)
    if ← accept "<=" then return ← behind false (← inner)
    if ← accept "<!" then return ← behind true (← inner)
    if ← accept ">" then return .atomic (← inner)
    if ← accept "|" then return ← inner
    if ← accept "#" then
      let _ ← upTo ')'
      return .empty
    if ← accept "P=" then return ← reference (← upTo ')')
    if ← accept "P<" then return ← kept (some (← upTo '>'))
    if ← accept "<" then return ← kept (some (← upTo '>'))
    if ← accept "\x27" then return ← kept (some (← upTo '\x27'))
    settings
    if ← accept ":" then return ← inner
    if (← get).rest.isEmpty then throw "missing closing parenthesis"
    unless ← accept ")" do throw "unrecognized character after (? or (?-"
    return .empty
where
  /-- A condition on what comes before, which has to have a certain length. -/
  behind (negated : Bool) (body : Regex) : Read Regex := do
    if (widths body).isEmpty then throw "lookbehind assertion is not fixed length"
    return .preceded negated body

end

/-- The expression that a text is. -/
def parse (text : Chars) : Except Flaw Regex := do
  let (regex, reader) ← (choice (6 * text.length + 8)).run ⟨text, 0, [], [], false, false⟩
  unless reader.rest.isEmpty do throw "unmatched closing parenthesis"
  if reader.referred.any fun number => reader.groups < number then throw "reference to non-existent subpattern"
  return regex

end CounterCatalog.Shell.Regex.Perl
