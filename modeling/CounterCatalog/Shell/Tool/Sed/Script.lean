import CounterCatalog.Shell.Arithmetic
import CounterCatalog.Shell.Regex.Parser

/-!
# Scripts for editing streams

A script is a list of instructions: addresses that choose lines, and what is done to them. `Script.parse` reads
one; what is wrong with a script is reported with the number of characters read so far.
-/

set_option autoImplicit false

namespace CounterCatalog.Shell.Sed

/-- A regular expression as it stands in a script; without one the expression used last counts. -/
structure Pattern where
  /-- The expression. -/
  regex? : Option Regex
  /-- Small letters are like capital ones. -/
  folded : Bool
  /-- Lines begin and end inside the text too. -/
  byLine : Bool

/-- What chooses a line. -/
inductive Address where
  /-- A number. -/
  | line (number : Nat)
  /-- The last line. -/
  | last
  /-- A number, and every so many lines from there on. -/
  | step (first size : Nat)
  /-- A match. -/
  | found (pattern : Pattern)

/-- What ends a range of lines. -/
inductive Ending where
  /-- What chooses a line. -/
  | address (address : Address)
  /-- A number of lines after the first. -/
  | after (count : Nat)
  /-- A line with a number that can be divided by another. -/
  | multiple (size : Nat)

/-- The lines that an instruction is for. -/
structure Guard where
  /-- The first line, if not every line is meant. -/
  first? : Option Address
  /-- The last line, if a range is meant. -/
  last? : Option Ending
  /-- The range may end on the first line of all. -/
  fromStart : Bool
  /-- All other lines are meant. -/
  negated : Bool

/-- How letters are changed from a place on. -/
inductive CaseShift where
  /-- All become capital letters. -/
  | upper
  /-- All become small letters. -/
  | lower
  /-- The next one becomes a capital letter. -/
  | nextUpper
  /-- The next one becomes a small letter. -/
  | nextLower
  /-- None are changed any more. -/
  | stop
deriving DecidableEq

/-- A piece of what a match is replaced by. -/
inductive Piece where
  /-- A character. -/
  | char (c : Char)
  /-- What a group has matched, or for zero the whole match. -/
  | group (number : Nat)
  /-- A change of letters. -/
  | shift (shift : CaseShift)

/-- A replacement of matches. -/
structure Substitution where
  /-- What is replaced. -/
  pattern : Pattern
  /-- What it is replaced by. -/
  pieces : List Piece
  /-- The first match that counts. -/
  number : Nat
  /-- The matches behind that one count too. -/
  all : Bool
  /-- The number of times that a changed line is written. -/
  prints : Bool
  /-- The file that changed lines are written to. -/
  file? : Option Chars

/-- What is done to a line. -/
inductive Action where
  /-- Instructions follow, up to the end of the block. -/
  | openBlock
  /-- A block ends. -/
  | closeBlock
  /-- A place to go on from. -/
  | label (name : Chars)
  /-- A text is written behind the line. -/
  | append (text : Chars)
  /-- A text is written in front of the line. -/
  | insert (text : Chars)
  /-- A text is written in place of the line. -/
  | change (text : Chars)
  /-- Goes on from a place. -/
  | jump (name : Chars)
  /-- Goes on from a place if something has been replaced. -/
  | jumpIfReplaced (name : Chars)
  /-- Goes on from a place if nothing has been replaced. -/
  | jumpIfNot (name : Chars)
  /-- Ends with a status, with or without writing the line. -/
  | quit (status : Nat) (silent : Bool)
  /-- Writes the line so that all of it can be seen. -/
  | list (width? : Option Nat)
  /-- A file is written behind the line. -/
  | readFile (path : Chars)
  /-- The next line of a file is written behind the line. -/
  | readLine (path : Chars)
  /-- The line, or the first line of it, is written to a file. -/
  | writeFile (path : Chars) (firstOnly : Bool)
  /-- Matches are replaced. -/
  | substitute (substitution : Substitution)
  /-- Characters are replaced. -/
  | exchange (pairs : List (Char × Char))
  /-- Something that has a letter only. -/
  | plain (letter : Char)

/-- An instruction. -/
structure Instruction where
  /-- The lines that it is for. -/
  guard : Guard
  /-- What is done. -/
  action : Action

/-- How far the reading of a script has come. -/
structure Reader where
  /-- What is still to be read. -/
  rest : Chars
  /-- The number of characters that have been read. -/
  size : Nat

/-- What is wrong with a script, and how many characters have been read. -/
structure Mistake where
  /-- The number of characters. -/
  size : Nat
  /-- The words. -/
  words : Chars

/-- Reads a part of a script, or finds it faulty. -/
abbrev Parse (α : Type) := StateT Reader (Except Mistake) α

namespace Script

/-- The script is faulty here. -/
def faulty {α : Type} (words : String) : Parse α := do
  throw ⟨(← get).size, words.toList⟩

/-- The next character, which is left. -/
def peek : Parse (Option Char) := do
  return (← get).rest.head?

/-- The next character, which is taken. -/
def take : Parse (Option Char) := do
  let reader ← get
  match reader.rest with
  | [] => return none
  | c :: rest =>
    set (⟨rest, reader.size + 1⟩ : Reader)
    return some c

/-- Takes characters as long as they have a property. -/
def takeWhile (p : Char → Bool) : Parse Chars := do
  let reader ← get
  let found := reader.rest.takeWhile p
  set (⟨reader.rest.drop found.length, reader.size + found.length⟩ : Reader)
  return found

/-- A blank inside a line. -/
def isGap (c : Char) : Bool :=
  c = ' ' || c = '\t'

/-- A number. -/
def number : Parse Nat := do
  return Chars.toNat (← takeWhile Char.isDigit)

/-- Nothing but the end of a command may follow. -/
def finish : Parse Unit := do
  let _ ← takeWhile isGap
  match ← peek with
  | none | some '\x7d' | some '#' => return ()
  | some c =>
    let _ ← take
    unless c = '\n' ∨ c = ';' do faulty "extra characters after command"

/-- The characters of a set in a regular expression up to the bracket that closes it, and what follows; nothing
if it is not closed. -/
def setEnd? (text : Chars) : Option (Chars × Chars) :=
  let negated := if text.head? = some '^' then ['^'] else []
  let text := text.drop negated.length
  let first := if text.head? = some ']' then [']'] else []
  let text := text.drop first.length
  let body := text.takeWhile fun c => c ≠ ']' && c ≠ '\n'
  match text.drop body.length with
  | ']' :: rest =>
    let opened := body.reverse.takeWhile fun c => c = ':' || c = '.' || c = '='
    let inClass := !opened.isEmpty && body.contains '['
    if inClass then
      match rest.takeWhile fun c => c ≠ ']' && c ≠ '\n' with
      | more =>
        match rest.drop more.length with
        | ']' :: after => some (negated ++ first ++ body ++ [']'] ++ more ++ [']'], after)
        | _ => none
    else some (negated ++ first ++ body ++ [']'], rest)
  | _ => none

/-- A text up to a sign that closes it, given at least as many steps as characters are left; nothing if the
sign does not come. In an expression a line end may be written as a letter behind a backslash, and the sign
closes nothing inside a set. -/
def delimited (sign : Char) (isRegex : Bool) : Nat → Parse (Option Chars)
  | 0 => return none
  | steps + 1 => do
    match ← take with
    | none => return none
    | some c =>
      if c = sign then return some []
      let more (front : Chars) : Parse (Option Chars) := do
        return (← delimited sign isRegex steps).map (front ++ ·)
      if c = '\n' then
        modify fun reader => ⟨'\n' :: reader.rest, reader.size - 1⟩
        return none
      if c = '[' ∧ isRegex then
        match setEnd? (← get).rest with
        | some (body, rest) =>
          modify fun reader => ⟨rest, reader.size + body.length⟩
          return ← more ('[' :: body)
        | none =>
          let _ ← takeWhile fun c => c ≠ '\n'
          return none
      if c ≠ '\\' then return ← more [c]
      match ← take with
      | none => return none
      | some d =>
        if d = 'n' ∧ isRegex then more ['\n']
        else if d = '\n' then more (if isRegex then ['\n'] else ['\\', '\n'])
        else if d = sign ∧ (isRegex ∨ d ≠ '&') then more [d]
        else more ['\\', d]

/-- A text up to a sign that closes it. -/
def delimitedBy (sign : Char) (isRegex : Bool) : Parse (Option Chars) := do
  delimited sign isRegex ((← get).rest.length + 1)

/-- The character that a letter behind a backslash and the number behind that stand for, and what follows; the
number has so many digits at most of a base. -/
def numbered? (text : Chars) : Option (Char × Chars) :=
  match text with
  | [] => none
  | letter :: rest =>
    let base? :=
      match letter with
      | 'd' => some (10, 3)
      | 'o' => some (8, 3)
      | 'x' => some (16, 2)
      | _ => none
    base?.bind fun (base, count) =>
      let digits := (rest.take count).takeWhile fun c => decide (Arithmetic.digitValue c < base)
      if digits.isEmpty then none
      else some (Char.ofNat (Arithmetic.valueIn base digits % 256), rest.drop digits.length)

/-- The character that is typed with another one while the control key is held. -/
def control (c : Char) : Char :=
  Char.ofNat (c.toUpper.toNat ^^^ 64)

/-- A text in which numbers behind backslashes have become characters, which mean what they mean elsewhere; given
at least as many steps as it has characters. -/
def withNumbersIn : Nat → Chars → Chars
  | 0, text => text
  | _, [] => []
  | steps + 1, '\\' :: rest =>
    match numbered? rest, rest with
    | some (c, after), _ => c :: withNumbersIn steps after
    | none, 'c' :: c :: after => control c :: withNumbersIn steps after
    | none, c :: after => '\\' :: c :: withNumbersIn steps after
    | none, [] => ['\\']
  | steps + 1, c :: rest => c :: withNumbersIn steps rest

/-- A text in which numbers behind backslashes have become characters. -/
def withNumbers (text : Chars) : Chars :=
  withNumbersIn text.length text

/-- The expression that a text is. -/
def pattern (extended : Bool) (text flags : Chars) : Parse Pattern := do
  let folded := flags.contains 'I' || flags.contains 'i'
  let byLine := flags.contains 'M' || flags.contains 'm'
  if text.isEmpty then return ⟨none, folded, byLine⟩
  match Regex.parse { extended := extended, escapes := true, strict := true, bareRepeats := false }
    (withNumbers text) with
  | .ok regex => return ⟨some regex, folded, byLine⟩
  | .error flaw => faulty flaw.message

/-- What chooses a line, if that stands here. -/
def address? (extended : Bool) : Parse (Option Address) := do
  match ← peek with
  | some '$' =>
    let _ ← take
    return some .last
  | some '/' =>
    let _ ← take
    return some (← found '/')
  | some '\\' =>
    let _ ← take
    match ← take with
    | some sign => return some (← found sign)
    | none => faulty "unexpected \x60,'"
  | some c =>
    unless c.isDigit do return none
    let first ← number
    let _ ← takeWhile isGap
    if (← peek) = some '~' then
      let _ ← take
      let _ ← takeWhile isGap
      return some (.step first (← number))
    return some (.line first)
  | none => return none
where
  /-- An expression up to a sign, and the letters behind it. -/
  found (sign : Char) : Parse Address := do
    match ← delimitedBy sign true with
    | none => faulty "unterminated address regex"
    | some text =>
      let flags ← takeWhile fun c => c = 'I' || c = 'M'
      return .found (← pattern extended text flags)

/-- What ends a range of lines, if that stands here. -/
def ending? (extended : Bool) : Parse (Option Ending) := do
  match ← peek with
  | some '+' =>
    let _ ← take
    return some (.after (← number))
  | some '~' =>
    let _ ← take
    return some (.multiple (← number))
  | _ => return (← address? extended).map .address

/-- The lines that an instruction is for. -/
def guard (extended : Bool) : Parse Guard := do
  if (← peek) = some '+' ∨ (← peek) = some '~' then
    let _ ← take
    let _ ← number
    faulty "invalid usage of +N or ~N as first address"
  let first? ← address? extended
  let _ ← takeWhile isGap
  let comma := first?.isSome && (← peek) = some ','
  let last? ←
    if comma then do
      let _ ← take
      let _ ← takeWhile isGap
      match ← ending? extended with
      | some ending => pure (some ending)
      | none =>
        let _ ← take
        faulty "unexpected \x60,'"
    else pure none
  let _ ← takeWhile isGap
  let isZero := first? matches some (.line 0)
  let zeroFits := last? matches some (.address (.found _))
  if isZero ∧ zeroFits = false then
    let _ ← take
    faulty "invalid usage of line address 0"
  let negated := (← peek) = some '!'
  if negated then
    let _ ← take
    let _ ← takeWhile isGap
    if (← peek) = some '!' then
      let _ ← take
      faulty "multiple \x60!'s"
  return ⟨first?, last?, isZero, negated⟩

/-- The text of a command that writes one, up to a line end without a backslash, given at least as many steps
as characters are left. -/
def textBody : Nat → Parse Chars
  | 0 => return []
  | steps + 1 => do
    match ← take with
    | none => return ['\n']
    | some '\n' => return ['\n']
    | some '\\' =>
      let reader ← get
      if let some (c, rest) := numbered? reader.rest then
        set (⟨rest, reader.size + (reader.rest.length - rest.length)⟩ : Reader)
        return c :: (← textBody steps)
      match ← take with
      | none => return ['\n']
      | some c =>
        let shown := if c = '\n' then c else (Regex.unseen? c).getD c
        return shown :: (← textBody steps)
    | some c => return c :: (← textBody steps)

/-- The text of a command that writes one. -/
def text : Parse Chars := do
  let _ ← takeWhile isGap
  let body : Parse Chars := do textBody ((← get).rest.length + 1)
  match ← peek with
  | none => faulty "expected \\ after \x60a', \x60c' or \x60i'"
  | some '\\' =>
    let _ ← take
    let gap ← takeWhile isGap
    match ← peek with
    | none => return []
    | some '\n' =>
      let _ ← take
      body
    | some _ => return gap ++ (← body)
  | some _ => body

/-- A name, up to a blank, a semicolon or the end of a block. -/
def name : Parse Chars := do
  let _ ← takeWhile isGap
  let found ← takeWhile fun c => !isGap c && c ≠ '\n' && c ≠ ';' && c ≠ '\x7d'
  return found

/-- The rest of the line as the path of a file. -/
def path : Parse Chars := do
  let _ ← takeWhile isGap
  let found ← takeWhile fun c => c ≠ '\n'
  if found.isEmpty then faulty "missing filename in r/R/w/W commands"
  let _ ← take
  return found

/-- The pieces of what a match is replaced by, given at least as many steps as there are characters. -/
def piecesIn : Nat → Chars → List Piece
  | 0, _ => []
  | _, [] => []
  | steps + 1, '\\' :: c :: rest =>
    match numbered? (c :: rest), c, rest with
    | some (shown, after), _, _ => .char shown :: piecesIn steps after
    | none, 'c', d :: after => .char (control d) :: piecesIn steps after
    | none, c, rest =>
      let piece :=
        if c.isDigit then Piece.group (c.toNat - '0'.toNat)
        else
          match c with
          | 'U' => .shift .upper
          | 'L' => .shift .lower
          | 'u' => .shift .nextUpper
          | 'l' => .shift .nextLower
          | 'E' => .shift .stop
          | c => .char ((Regex.unseen? c).getD c)
      piece :: piecesIn steps rest
  | steps + 1, '&' :: rest => .group 0 :: piecesIn steps rest
  | steps + 1, c :: rest => .char c :: piecesIn steps rest

/-- The pieces of what a match is replaced by. -/
def pieces (text : Chars) : List Piece :=
  piecesIn text.length text

/-- What has been read of the letters behind a replacement. -/
structure Flags where
  /-- The letters, but for those of a file. -/
  letters : Chars
  /-- The first match that counts. -/
  number? : Option Nat
  /-- The file that changed lines are written to. -/
  file? : Option Chars

/-- The letters behind a replacement, given at least as many steps as characters are left. -/
def flags : Nat → Flags → Parse Flags
  | 0, found => return found
  | steps + 1, found => do
    match ← peek with
    | none | some '\x7d' | some '#' => return found
    | some c =>
      if c.isDigit then
        let number ← number
        if found.number?.isSome then faulty "multiple number options to \x60s' command"
        if number = 0 then faulty "number option to \x60s' command may not be zero"
        return ← flags steps { found with number? := some number }
      let _ ← take
      match c with
      | '\n' | ';' => return found
      | ' ' | '\t' | '\r' => flags steps found
      | 'w' => return { found with file? := some (← path) }
      | c =>
        unless "gpiImMe".toList.contains c do faulty "unknown option to \x60s'"
        if found.letters.contains c ∧ (c = 'g' ∨ c = 'p') then
          faulty ("multiple \x60" ++ String.singleton c ++ "' options to \x60s' command")
        flags steps { found with letters := c :: found.letters }

/-- The greatest number of a group that a replacement mentions. -/
def mentioned (pieces : List Piece) : Nat :=
  (pieces.map fun piece => match piece with | .group number => number | _ => 0).foldl max 0

/-- The number of groups of an expression. -/
def groupCount : Regex → Nat
  | .group _ body => groupCount body + 1
  | .seq first second | .either first second => groupCount first + groupCount second
  | .star body | .lazyStar body | .atomic body => groupCount body
  | _ => 0

/-- A replacement behind its letter. -/
def substitution (extended : Bool) : Parse Action := do
  let unended {α : Type} : Parse α := faulty "unterminated \x60s' command"
  match ← take with
  | none => unended
  | some sign =>
    let some expression ← delimitedBy sign true | unended
    let some replacement ← delimitedBy sign false | unended
    let found ← flags ((← get).rest.length + 1) ⟨[], none, none⟩
    let pattern ← pattern extended expression found.letters
    let pieces := pieces replacement
    if let some regex := pattern.regex? then
      if groupCount regex < mentioned pieces then
        faulty ("invalid reference \\" ++ toString (mentioned pieces) ++ " on \x60s' command's RHS")
    return .substitute
      { pattern := pattern
        pieces := pieces
        number := found.number?.getD 1
        all := found.letters.contains 'g'
        prints := found.letters.contains 'p'
        file? := found.file? }

/-- The characters of one side of an exchange, in which numbers have become characters. -/
def exchanged : Chars → Chars
  | '\\' :: '\\' :: rest => '\\' :: exchanged rest
  | '\\' :: c :: rest => (Regex.unseen? c).getD c :: exchanged rest
  | c :: rest => c :: exchanged rest
  | [] => []

/-- An exchange of characters behind its letter. -/
def exchange : Parse Action := do
  let unended {α : Type} : Parse α := faulty "unterminated \x60y' command"
  match ← take with
  | none => unended
  | some sign =>
    let some from_ ← delimitedBy sign false | unended
    let some to_ ← delimitedBy sign false | unended
    let from_ := exchanged (withNumbers from_)
    let to_ := exchanged (withNumbers to_)
    if from_.length ≠ to_.length then faulty "strings for \x60y' command are different lengths"
    finish
    return .exchange (from_.zip to_)

/-- What is done by an instruction, given the lines that it is for and how many blocks are open. -/
def action (extended : Bool) (guard : Guard) (depth : Nat) : Parse Action := do
  let code : Parse Nat := do
    let _ ← takeWhile isGap
    let found ← number
    finish
    return found
  match ← take with
  | none => faulty "missing command"
  | some c =>
    match c with
    | '#' =>
      if guard.first?.isSome then faulty "comments don't accept any addresses"
      let _ ← takeWhile fun c => c ≠ '\n'
      return .plain '#'
    | ':' =>
      if guard.first?.isSome then faulty ": doesn't want any addresses"
      let name ← name
      if name.isEmpty then faulty "\x22:\x22 lacks a label"
      return .label name
    | '\x7b' => return .openBlock
    | '\x7d' =>
      if depth = 0 then faulty "unexpected \x60\x7d'"
      if guard.first?.isSome then faulty "\x7d doesn't want any addresses"
      finish
      return .closeBlock
    | 'a' => return .append (← text)
    | 'i' => return .insert (← text)
    | 'c' => return .change (← text)
    | 'b' => return .jump (← ended name)
    | 't' => return .jumpIfReplaced (← ended name)
    | 'T' => return .jumpIfNot (← ended name)
    | 'q' | 'Q' =>
      if guard.last?.isSome then faulty "command only uses one address"
      return .quit (← code) (c = 'Q')
    | 'l' =>
      let _ ← takeWhile isGap
      let given := (← peek).any Char.isDigit
      let width ← code
      return .list (if given then some width else none)
    | 'r' => return .readFile (← path)
    | 'R' => return .readLine (← path)
    | 'w' => return .writeFile (← path) false
    | 'W' => return .writeFile (← path) true
    | 'v' =>
      let _ ← ended name
      return .plain 'v'
    | 's' => substitution extended
    | 'y' => exchange
    | c =>
      unless "=dDFgGhHnNpPxz".toList.contains c do
        faulty ("unknown command: \x60" ++ String.singleton c ++ "'")
      finish
      return .plain c
where
  /-- A name that ends a command. -/
  ended (read : Parse Chars) : Parse Chars := do
    let found ← read
    finish
    return found

/-- The instructions of a script, given how many blocks are open, and at least as many steps as characters are
left. -/
def instructions (extended : Bool) : Nat → Nat → Parse (List Instruction)
  | 0, _ => return []
  | steps + 1, depth => do
    let _ ← takeWhile fun c => c = ';' || c = '\n' || isGap c
    if (← peek).isNone then
      if depth ≠ 0 then throw ⟨0, "unmatched \x60\x7b'".toList⟩
      return []
    let guard ← guard extended
    let action ← action extended guard depth
    let depth :=
      match action with
      | .openBlock => depth + 1
      | .closeBlock => depth - 1
      | _ => depth
    return ⟨guard, action⟩ :: (← instructions extended steps depth)

/-- The instructions of a text. -/
def parse (extended : Bool) (text : Chars) : Except Mistake (List Instruction) :=
  ((instructions extended (text.length + 1) 0).run ⟨text, 0⟩).map Prod.fst

/-- The names that instructions jump to. -/
def targets (script : List Instruction) : List Chars :=
  script.filterMap fun instruction =>
    match instruction.action with
    | .jump name | .jumpIfReplaced name | .jumpIfNot name => if name.isEmpty then none else some name
    | _ => none

/-- The number of the instruction with a label. -/
def labelled? (script : List Instruction) (name : Chars) : Option Nat :=
  script.findIdx? fun instruction =>
    match instruction.action with
    | .label other => other = name
    | _ => false

end Script

end CounterCatalog.Shell.Sed
