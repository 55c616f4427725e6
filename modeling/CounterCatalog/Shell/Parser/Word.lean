import CounterCatalog.Shell.Parser.Cursor

/-!
# Parsing words

A word is made of characters, quotes and dollar signs. What a character means depends on where it stands:
in a command, between double quotes, between the braces of a parameter, in an arithmetic expression or in a
text inside the script. Statements inside a word are read by the parser of statements, which the parsers
here are given.
-/

set_option autoImplicit false

namespace CounterCatalog.Shell.Parser

/-- Where a part of a word stands. -/
inductive Place where
  /-- In a command. -/
  | bare
  /-- In the word that says how a text inside the script ends. -/
  | delimiter
  /-- Between double quotes. -/
  | quoted
  /-- Between braces. -/
  | braced
  /-- Between braces that stand between double quotes. -/
  | bracedQuoted
  /-- Between double quotes inside such braces. -/
  | innerQuoted
  /-- In an arithmetic expression, inside a number of parentheses. -/
  | expression (depth : Nat)
  /-- In a text inside the script. -/
  | document
deriving DecidableEq

namespace Place

/-- What stands in the place is quoted. -/
def isQuoted : Place → Bool
  | bare | delimiter | braced => false
  | _ => true

/-- Quotes have their usual meaning in the place. -/
def knowsQuotes : Place → Bool
  | bare | delimiter | braced => true
  | _ => false

/-- A character ends what stands in the place. -/
def isEnd (c : Char) : Place → Bool
  | bare | delimiter => [' ', '\t', '\n', ';', '&', '|', '<', '>', '(', ')'].contains c
  | quoted | innerQuoted => c = '\x22'
  | braced | bracedQuoted => c = '\x7d'
  | expression _ | document => false

/-- A character stands for itself in the place, whatever comes before or after it. -/
def isOrdinary (c : Char) (place : Place) : Bool :=
  !place.isEnd c && c ∉ ['\\', '$', '\x60', '\x22', '\x27', '(', ')']

/-- A backslash takes the meaning off a character in the place, and is taken away itself. -/
def escapes (c : Char) (place : Place) : Bool :=
  !place.isQuoted || c = '\\' || c = '\x60' || c = '$' || (c = '\x22' && place ≠ document) ||
    (c = '\x7d' && (place = bracedQuoted || place = innerQuoted))

/-- The place between the braces of a parameter that stands in the place. -/
def inBraces (place : Place) : Place :=
  if place.isQuoted then bracedQuoted else braced

/-- Why a script may not end in the place. -/
def unfinished : Place → Option String
  | bare | delimiter | document => none
  | braced => some "Missing '\x7d'"
  | expression _ => some "Missing '))'"
  | quoted | bracedQuoted | innerQuoted => some "Unterminated quoted string"

end Place

/-- The parser of the statements inside a word, which may end with the text or have to end with a closing
parenthesis. -/
abbrev Statements := (closed : Bool) → Parse Statement

/-- The single characters that name a parameter. -/
def isSpecialName (c : Char) : Bool :=
  c.isDigit || ['@', '*', '#', '?', '$', '!', '-'].contains c

/-- A character can stand in the name of a parameter whose length is asked for. -/
def isLengthName (c : Char) : Bool :=
  Chars.isNameChar c

/-- The script between backquotes, and the number of characters that it takes up with the closing quote, if
there is one. -/
def backquoted (inQuotes : Bool) : Chars → Option (Chars × Nat)
  | [] => none
  | [c] => if c = '\x60' then some ([], 1) else none
  | c :: d :: rest =>
    if c = '\x60' then some ([], 1)
    else if c = '\\' ∧ d = '\n' then
      (backquoted inQuotes rest).map fun (text, count) => (text, count + 2)
    else if c = '\\' ∧ (['$', '\x60', '\\'].contains d ∨ (inQuotes = true ∧ d = '\x22')) then
      (backquoted inQuotes rest).map fun (text, count) => (d :: text, count + 2)
    else (backquoted inQuotes (d :: rest)).map fun (text, count) => (c :: text, count + 1)

/-- Single quotes, after the one that opens them. -/
def singleQuoted : Parse Part := do
  let text := (← ahead).takeWhile fun c => c ≠ '\x27'
  skip text.length
  if (← peek).isNone then fault "Unterminated quoted string"
  skip 1
  noteQuote
  return .literal text true

/-- A statement between backquotes, after the one that opens them. -/
def oldOutput (statements : Statements) (place : Place) : Parse Part := do
  match backquoted (place.isQuoted && place ≠ .bracedQuoted) (← ahead) with
  | none =>
    skip (← ahead).length
    fault "EOF in backquote substitution"
  | some (text, count) =>
    skip count
    let body ← inside text 1 (statements false)
    return .output body place.isQuoted

/-- The sign that says what is made of a parameter, after its name; nothing if it says nothing. -/
def sign : Parse (Option (List Part → Use)) := do
  match ← peekJoined with
  | some '%' =>
    skip 1
    return some (.trim false (← accept '%'))
  | some '#' =>
    skip 1
    return some (.trim true (← accept '#'))
  | _ =>
    let orEmpty ← accept ':'
    let sign ← peekJoined
    skip 1
    match sign with
    | some '-' => return some (.fallback orEmpty)
    | some '=' => return some (.assign orEmpty)
    | some '?' => return some (.demand orEmpty)
    | some '+' => return some (.alternative orEmpty)
    | some '\x7d' => return some fun _ => .value
    | _ => return none

/-- The name of a parameter between braces, and whether its length is asked for; nothing if no name stands
there. -/
def parameterName (fuel : Nat) : Parse (Option (Chars × Bool)) := do
  match ← peekJoined with
  | none => return none
  | some c =>
    if Chars.isNameStart c then return some (← takeAll Chars.isNameChar fuel, false)
    else if c.isDigit then return some (← takeAll Char.isDigit fuel, false)
    else if c = '\x7d' then return none
    else
      skip 1
      if c ≠ '#' then return if isSpecialName c then some ([c], false) else none
      match ← peekJoined with
      | none => return some (['#'], false)
      | some d =>
        if isLengthName d then
          let name ← if d.isDigit then takeAll Char.isDigit fuel else takeAll Chars.isNameChar fuel
          return some (name, true)
        let rest := (joined ((← ahead).drop 1)).1
        if d ≠ '\x7d' ∧ rest.head? = some '\x7d' ∧ isSpecialName d then
          skip 1
          return some ([d], true)
        return some (['#'], false)

/-- Double quotes around nothing but all arguments, which then may be no words at all. -/
def isAllArguments : List Part → Bool
  | [.parameter ['@'] .value true] => true
  | _ => false

mutual

/-- The parts of a word up to its end. -/
def parts (statements : Statements) : Nat → Place → Parse Word
  | 0, _ => stuck
  | fuel + 1, place => do
    match ← peek with
    | none =>
      match place.unfinished with
      | some reason => fault reason
      | none => return []
    | some c =>
      if place.isEnd c then return []
      else if place.isOrdinary c then
        let text := (← ahead).takeWhile place.isOrdinary
        skip text.length
        return .cons (.literal text place.isQuoted) (← parts statements fuel place)
      else if c = '\\' then
        skip 1
        escaped statements fuel place
      else if c = '\x27' ∧ place.knowsQuotes then
        skip 1
        let part ← singleQuoted
        return part :: (← parts statements fuel place)
      else if c = '\x22' ∧ (place.knowsQuotes ∨ place = .bracedQuoted) then
        skip 1
        noteQuote
        let inner ← parts statements fuel (if place.knowsQuotes then .quoted else .innerQuoted)
        skip 1
        let inner := if isAllArguments inner then inner else .literal [] true :: inner
        return inner ++ (← parts statements fuel place)
      else if c = '$' ∧ place ≠ .delimiter then
        skip 1
        let part ← dollar statements fuel place
        return .cons part (← parts statements fuel place)
      else if c = '\x60' ∧ place ≠ .delimiter then
        skip 1
        let part ← oldOutput statements place
        return part :: (← parts statements fuel place)
      else
        if c = '\x60' then noteQuote
        skip 1
        match place with
        | .expression depth => parenthesis statements fuel depth c
        | place => return .cons (.literal [c] place.isQuoted) (← parts statements fuel place)

/-- What follows a backslash. -/
def escaped (statements : Statements) : Nat → Place → Parse Word
  | 0, _ => stuck
  | fuel + 1, place => do
    match ← peek with
    | none => return [.literal ['\\'] true]
    | some '\n' =>
      skip 1
      parts statements fuel place
    | some c =>
      noteQuote
      if place.escapes c then
        skip 1
        return .cons (.literal [c] true) (← parts statements fuel place)
      skip 1
      return .cons (.literal ['\\', c] true) (← parts statements fuel place)

/-- What follows a character of an arithmetic expression that may be a parenthesis. -/
def parenthesis (statements : Statements) : Nat → Nat → Char → Parse Word
  | 0, _, _ => stuck
  | fuel + 1, depth, c => do
    let deeper := fun depth : Nat => do
      return .cons (.literal [c] true) (← parts statements fuel (.expression depth))
    match c, depth with
    | '(', depth => deeper (depth + 1)
    | ')', depth + 1 => deeper depth
    | ')', 0 => if ← accept ')' then return [] else deeper 0
    | _, depth => deeper depth

/-- What a dollar sign introduces. -/
def dollar (statements : Statements) : Nat → Place → Parse Part
  | 0, _ => stuck
  | fuel + 1, place => do
    match ← peekJoined with
    | some '(' =>
      skip 1
      if ← accept '(' then
        return .number (← parts statements fuel (.expression 0)) place.isQuoted
      let before ← get
      set { before with again := false, announced := [] }
      let body ← statements true
      modify fun cursor =>
        { cursor with again := false, announced := before.announced, quoted := before.quoted }
      return .output body place.isQuoted
    | some '\x7b' =>
      skip 1
      let part ← parameter statements fuel place
      return part
    | some c =>
      if Chars.isNameStart c then
        return .parameter (← takeAll Chars.isNameChar fuel) .value place.isQuoted
      else if isSpecialName c then
        skip 1
        return .parameter [c] .value place.isQuoted
      else return .literal ['$'] place.isQuoted
    | none => return .literal ['$'] place.isQuoted

/-- A parameter between braces and what is made of it. -/
def parameter (statements : Statements) : Nat → Place → Parse Part
  | 0, _ => stuck
  | fuel + 1, place => do
    let meaningless := do
      let _ ← parts statements fuel place.inBraces
      skip 1
      return .parameter [] .meaningless place.isQuoted
    match ← parameterName fuel with
    | none => meaningless
    | some (name, true) =>
      if ← accept '\x7d' then return .parameter name .length place.isQuoted
      meaningless
    | some (name, false) =>
      if ← accept '\x7d' then return .parameter name .value place.isQuoted
      match ← sign with
      | none => meaningless
      | some use =>
        let isPattern := use [] matches .trim _ _ _
        let word ← parts statements fuel (if isPattern then .braced else place.inBraces)
        skip 1
        return .parameter name (use word) place.isQuoted

end

end CounterCatalog.Shell.Parser
