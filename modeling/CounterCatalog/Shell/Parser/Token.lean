import CounterCatalog.Shell.Parser.Word

/-!
# Reading tokens

A token is a sign or a word. Whether a word is a keyword or stands for another text depends on where it is
expected, so each reading of a token says what it looks for. At the end of a line the texts are read that
redirections on that line have announced.
-/

set_option autoImplicit false

namespace CounterCatalog.Shell.Parser

/-- What the reading of a token looks for. -/
structure Outlook where
  /-- Ends of lines are passed over. -/
  lines : Bool
  /-- Keywords count as such. -/
  keywords : Bool
  /-- Words may stand for other texts. -/
  aliases : Bool

namespace Outlook

/-- Only what stands there. -/
def plain : Outlook := ⟨false, false, false⟩

/-- The beginning of a command on the same line. -/
def command : Outlook := ⟨false, true, true⟩

/-- The beginning of a command on this line or a later one. -/
def anyLine : Outlook := ⟨true, true, true⟩

/-- A keyword on this line or a later one. -/
def keyword : Outlook := ⟨true, true, false⟩

/-- The name of a command. -/
def name : Outlook := ⟨false, false, true⟩

end Outlook

/-- A character ends the blanks and comments before a token. -/
def skipGap : Nat → Parse Unit
  | 0 => stuck
  | fuel + 1 => do
    match ← peekJoined with
    | some ' ' | some '\t' =>
      skip 1
      skipGap fuel
    | some '#' =>
      let comment := (← ahead).takeWhile fun c => c ≠ '\n'
      skip comment.length
      skipGap fuel
    | _ => pure ()

/-- The sign of a redirection, after its first character. -/
def operator (c : Char) : Parse (Nat × Operator) := do
  if c = '>' then
    if ← accept '>' then return (1, .file .append)
    if ← accept '|' then return (1, .file .clobber)
    if ← accept '&' then return (1, .same)
    return (1, .file .write)
  if ← accept '<' then return (0, .document (← accept '-'))
  if ← accept '&' then return (0, .same)
  if ← accept '>' then return (0, .file .both)
  return (0, .file .read)

/-- The stream whose number a word is, if it can stand in front of the sign of a redirection. -/
def streamOf? (word : Word) (quoted : Bool) : Option (Option Nat) :=
  if quoted then none
  else
    match Word.plain? word with
    | some [] => some none
    | some [c] => if c.isDigit then some (some (c.toNat - '0'.toNat)) else none
    | _ => none

/-- The word or redirection that begins here. -/
def wordToken (statements : Statements) (fuel : Nat) (place : Place) : Parse Token := do
  modify fun cursor => { cursor with quoted := false }
  let word ← parts statements fuel place
  let quoted := (← get).quoted
  match streamOf? word quoted, ← peekJoined with
  | some stream?, some c =>
    if c = '<' ∨ c = '>' then
      skip 1
      let (standard, operator) ← operator c
      return .redirection (stream?.getD standard) operator
  | _, _ => pure ()
  modify fun cursor => { cursor with lastWord := word }
  return .word word quoted

/-- The next token as it stands there. -/
def rawToken (statements : Statements) (fuel : Nat) (place : Place) : Parse Token := do
  skipGap fuel
  match ← peek with
  | none => return .ending
  | some '\n' =>
    skip 1
    return .newline
  | some '&' =>
    skip 1
    return if ← accept '&' then .both else .ampersand
  | some '|' =>
    skip 1
    return if ← accept '|' then .either else .bar
  | some ';' =>
    skip 1
    return if ← accept ';' then .endOfArm else .semicolon
  | some '(' =>
    skip 1
    return .openParen
  | some ')' =>
    skip 1
    return .closeParen
  | some _ => wordToken statements fuel place

/-- The lines of a text inside the script, up to the line that ends it, and the number of characters that
all of them take up. A continued line cannot be followed by the line that ends the text. -/
def documentLines (announced : Announced) : Nat → Bool → Chars → Chars × Nat
  | 0, _, _ => ([], 0)
  | fuel + 1, fresh, text =>
    if text.isEmpty then ([], 0)
    else
      let line := text.takeWhile fun c => c ≠ '\n'
      let shown := if announced.stripped && fresh then line.dropWhile fun c => c = '\t' else line
      let size := line.length + 1
      if fresh && decide (shown = announced.delimiter) then ([], min size text.length)
      else
        let slashes := (line.reverse.takeWhile fun c => c = '\\').length
        let ends := !announced.expands || slashes % 2 = 0
        let (more, count) := documentLines announced fuel ends (text.drop size)
        (shown ++ (if size ≤ text.length then ['\n'] else []) ++ more, size + count)

/-- Reads the texts that have been announced. -/
def readDocuments (statements : Statements) (fuel : Nat) : Parse Unit := do
  let announced := (← get).announced
  modify fun cursor => { cursor with announced := [] }
  for item in announced do
    let rest ← ahead
    let (text, count) := documentLines item (rest.length + 1) true rest
    let line := (← get).line
    let word ←
      if item.expands then inside text line (parts statements fuel .document)
      else pure [.literal text true]
    skip count
    modify fun cursor =>
      { cursor with documents := cursor.documents.setIfInBounds item.number word }

/-- The keyword that a word is, if it is one. -/
def keywordOf? (word : Word) : Option Keyword :=
  match Word.plain? word with
  | some text => Keyword.all.find? fun keyword => keyword.text.toList = text
  | none => none

/-- The text that a word stands for, if it is an alias that is not being read already. -/
def Cursor.alias? (cursor : Cursor) (word : Word) : Option (Chars × Chars) :=
  match Word.plain? word with
  | some text =>
    let left := cursor.rest.length
    if cursor.replaced.any fun item => item.name = text && decide (item.left ≤ left) then none
    else cursor.aliases.find? fun item => item.1 = text
  | none => none

/-- Puts the text that an alias stands for in front of what is still to be read. -/
def replace (name text : Chars) : Parse Unit :=
  modify fun cursor =>
    let left := cursor.rest.length
    let goesOn := text.getLast? = some ' ' || text.getLast? = some '\t'
    { cursor with
      rest := text ++ cursor.rest
      replaced := ⟨name, left, goesOn⟩ :: cursor.replaced.filter fun item => item.left ≤ left }

/-- The word that has just been read follows an alias whose text ends with a blank; given is the number of
characters that were left before it was read. -/
def Cursor.goesOn (cursor : Cursor) (before : Nat) : Bool :=
  cursor.replaced.any fun item =>
    item.goesOn && decide (item.left ≤ before) && decide (cursor.rest.length < item.left)

/-- The next token, with a place for words to stand in. -/
def tokenAt (statements : Statements) (place : Place) : Nat → Outlook → Parse Token
  | 0, _ => stuck
  | fuel + 1, outlook => do
    let cursor ← get
    let before := cursor.rest.length
    let token ←
      if cursor.again then
        set { cursor with again := false }
        pure cursor.token
      else rawToken statements fuel place
    match token with
    | .newline =>
      if outlook.lines then
        readDocuments statements fuel
        tokenAt statements place fuel outlook
      else keep token
    | .word word false =>
      match if outlook.keywords then keywordOf? word else none with
      | some keyword => keep (.keyword keyword)
      | none =>
        let cursor ← get
        match if outlook.aliases || cursor.goesOn before then cursor.alias? word else none with
        | some (name, text) =>
          replace name text
          tokenAt statements place fuel outlook
        | none => keep token
    | token => keep token
where
  /-- Remembers a token. -/
  keep (token : Token) : Parse Token := do
    modify fun cursor => { cursor with token := token }
    return token

/-- The next token. -/
def nextToken (statements : Statements) (fuel : Nat) (outlook : Outlook) : Parse Token :=
  tokenAt statements .bare fuel outlook

/-- Gives the token back, so that it is read again. -/
def giveBack : Parse Unit :=
  modify fun cursor => { cursor with again := true }

/-- The token that was read last does not belong here. -/
def unexpected {α : Type} : Parse α := do
  fault ((← get).token.name ++ " unexpected")

/-- The token that was read last stands where another is expected. -/
def expecting {α : Type} (expected : Token) : Parse α := do
  fault ((← get).token.name ++ " unexpected (expecting " ++ expected.name ++ ")")

end CounterCatalog.Shell.Parser
