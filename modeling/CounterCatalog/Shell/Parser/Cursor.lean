import CounterCatalog.Shell.Syntax

/-!
# Where a parser of shell scripts stands

A parser reads characters and puts the tokens of a script together. It counts lines, can take one token
back, and remembers the texts inside the script that redirections have announced: they begin after the end
of the line.
-/

set_option autoImplicit false

namespace CounterCatalog.Shell.Parser

/-- The words that mean something where a command is expected. -/
inductive Keyword where
  | negation
  | caseWord
  | doWord
  | doneWord
  | elifWord
  | elseWord
  | esacWord
  | fiWord
  | forWord
  | ifWord
  | inWord
  | thenWord
  | untilWord
  | whileWord
  | openBrace
  | closeBrace
deriving DecidableEq

/-- What a keyword looks like. -/
def Keyword.text : Keyword → String
  | negation => "!"
  | caseWord => "case"
  | doWord => "do"
  | doneWord => "done"
  | elifWord => "elif"
  | elseWord => "else"
  | esacWord => "esac"
  | fiWord => "fi"
  | forWord => "for"
  | ifWord => "if"
  | inWord => "in"
  | thenWord => "then"
  | untilWord => "until"
  | whileWord => "while"
  | openBrace => "\x7b"
  | closeBrace => "\x7d"

/-- All keywords. -/
def Keyword.all : List Keyword :=
  [negation, caseWord, doWord, doneWord, elifWord, elseWord, esacWord, fiWord, forWord, ifWord, inWord,
   thenWord, untilWord, whileWord, openBrace, closeBrace]

/-- The keywords that end a list of statements. -/
def Keyword.closes : Keyword → Bool
  | doWord | doneWord | elifWord | elseWord | esacWord | fiWord | thenWord | closeBrace => true
  | _ => false

/-- What a redirection sign announces. -/
inductive Operator where
  /-- A file. -/
  | file (direction : Direction)
  /-- Another stream. -/
  | same
  /-- A text inside the script; tabs may be taken off its lines. -/
  | document (stripped : Bool)
deriving DecidableEq

/-- A token of a script. -/
inductive Token where
  | ending
  | newline
  | semicolon
  | ampersand
  | both
  | either
  | bar
  | openParen
  | closeParen
  | endOfArm
  | keyword (word : Keyword)
  | redirection (stream : Nat) (operator : Operator)
  /-- A word; some of it may be quoted. -/
  | word (word : Word) (quoted : Bool)

/-- What complaints call a token. -/
def Token.name : Token → String
  | ending => "end of file"
  | newline => "newline"
  | semicolon => "\";\""
  | ampersand => "\"&\""
  | both => "\"&&\""
  | either => "\"||\""
  | bar => "\"|\""
  | openParen => "\"(\""
  | closeParen => "\")\""
  | endOfArm => "\";;\""
  | keyword found => "\"" ++ found.text ++ "\""
  | redirection _ _ => "redirection"
  | word _ _ => "word"

/-- A token ends a list of statements. -/
def Token.closes : Token → Bool
  | ending | closeParen | endOfArm => true
  | keyword found => found.closes
  | _ => false

/-- A text inside the script that has been announced. -/
structure Announced where
  /-- Its number. -/
  number : Nat
  /-- The line that ends it. -/
  delimiter : Chars
  /-- Tabs at the front of its lines are left out. -/
  stripped : Bool
  /-- Parameters and statements in it are replaced. -/
  expands : Bool

/-- An alias that has been replaced by its text. -/
structure Replaced where
  /-- The alias. -/
  name : Chars
  /-- The number of characters that are left behind its text. -/
  left : Nat
  /-- Its text ends with a blank, so that the word behind it may be an alias too. -/
  goesOn : Bool

/-- Where a parser stands. -/
structure Cursor where
  /-- What is still to be read. -/
  rest : Chars
  /-- The number of the line. -/
  line : Nat
  /-- The token that was read last. -/
  token : Token
  /-- The token that was read last is to be read again. -/
  again : Bool
  /-- The word that was read last. -/
  lastWord : Word
  /-- Something in the word that is being read is quoted. -/
  quoted : Bool
  /-- The texts that have been announced and not yet been read. -/
  announced : List Announced
  /-- The texts inside the script, by number. -/
  documents : Array Word
  /-- The words that stand for other texts where a command is expected. -/
  aliases : List (Chars × Chars)
  /-- The aliases that have been replaced, the last one first. -/
  replaced : List Replaced

/-- Why a script cannot be read. -/
structure Misuse where
  /-- The line on which that was noticed. -/
  line : Nat
  /-- The reason. -/
  reason : String

/-- Reads a part of a script, or finds it faulty. -/
abbrev Parse (α : Type) := StateT Cursor (Except Misuse) α

/-- The parser at the beginning of a script. -/
def Cursor.start (script : Chars) (documents : Array Word) (aliases : List (Chars × Chars)) : Cursor where
  rest := script
  line := 1
  token := .newline
  again := false
  lastWord := []
  quoted := false
  announced := []
  documents := documents
  aliases := aliases
  replaced := []

/-- The script is faulty here. -/
def fault {α : Type} (reason : String) : Parse α := do
  throw ⟨(← get).line, reason⟩

/-- Something takes more steps than it can. -/
def stuck {α : Type} : Parse α :=
  fault "unexpected"

/-- The next character. -/
def peek : Parse (Option Char) := do
  return (← get).rest.head?

/-- What is still to be read. -/
def ahead : Parse Chars := do
  return (← get).rest

/-- Moves past a number of characters. -/
def skip (count : Nat) : Parse Unit :=
  modify fun cursor =>
    let passed := cursor.rest.take count
    { cursor with rest := cursor.rest.drop count, line := cursor.line + passed.count '\n' }

/-- A text without the continued lines at its front, and their number. -/
def joined : Chars → Chars × Nat
  | '\\' :: '\n' :: rest =>
    let (text, count) := joined rest
    (text, count + 1)
  | text => (text, 0)

/-- Moves past the ends of continued lines. -/
def joinLines : Parse Unit :=
  modify fun cursor =>
    let (rest, count) := joined cursor.rest
    { cursor with rest := rest, line := cursor.line + count }

/-- The next character, continued lines being joined. -/
def peekJoined : Parse (Option Char) := do
  joinLines
  peek

/-- Moves past a character, if it stands here; continued lines are joined. -/
def accept (c : Char) : Parse Bool := do
  if (← peekJoined) = some c then
    skip 1
    return true
  return false

/-- Moves past the characters of a class and gives them; continued lines are joined. -/
def takeAll (p : Char → Bool) : Nat → Parse Chars
  | 0 => stuck
  | fuel + 1 => do
    match ← peekJoined with
    | some c =>
      if p c then
        skip 1
        return c :: (← takeAll p fuel)
      return []
    | none => return []

/-- Remembers that something in the word is quoted. -/
def noteQuote : Parse Unit :=
  modify fun cursor => { cursor with quoted := true }

/-- Reads with the characters that are left replaced by others on a line; what has been read of the script
itself stays. -/
def inside {α : Type} (text : Chars) (line : Nat) (parse : Parse α) : Parse α := do
  let before ← get
  set { before with rest := text, line := line, again := false, announced := [], replaced := [] }
  let value ← parse
  modify fun cursor => { before with documents := cursor.documents }
  return value

end CounterCatalog.Shell.Parser
