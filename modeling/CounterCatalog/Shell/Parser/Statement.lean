import CounterCatalog.Shell.Parser.Token

/-!
# Parsing statements

A script is read one complete line at a time, `Parser.line`, so that what comes before a fault is carried
out first. Every rule is given fuel and spends one unit of it on each rule it calls; `Parser.fuelFor` is more
than a text can use up, because no rule calls itself without having read a character but for a fixed number
of steps.
-/

set_option autoImplicit false

namespace CounterCatalog.Shell.Parser

/-- The names that no function can have: the commands that the shell treats in a way of their own. -/
def specialNames : List String :=
  [".", ":", "break", "continue", "eval", "exec", "exit", "export", "local", "readonly", "return", "set",
   "shift", "times", "trap", "unset"]

/-- Where a list of statements stands. -/
inductive Scope where
  /-- On a line of the script, whose end ends it. -/
  | line
  /-- In a compound statement, with at least one statement in it. -/
  | body
  /-- In a compound statement, perhaps without any statement. -/
  | optional
deriving DecidableEq

/-- One statement after another, if there is another. -/
def after (first? : Option Statement) (second : Statement) : Statement :=
  match first? with
  | none => second
  | some first => .seq first second

/-- A statement that is not waited for. -/
def inBackground : Statement → Statement
  | .subshell line body redirections => .background line (.subshell line body redirections) []
  | .redirected line body redirections => .background line body redirections
  | statement => .background 0 statement []

/-- The characters of a word without its quotes. -/
def unquoted : Word → Chars
  | [] => []
  | .literal text _ :: rest => text ++ unquoted rest
  | _ :: rest => unquoted rest

/-- The stream that a word gives, if it is written out: a digit for the stream, a dash for none. -/
def writtenStream? (word : Word) : Option (Option Nat) :=
  match unquoted word, word.all fun part => part matches .literal _ _ with
  | ['-'], true => some none
  | [c], true => if c.isDigit then some (some (c.toNat - '0'.toNat)) else none
  | _, _ => none

/-- Adds a statement list's redirections to it. -/
def redirect (line : Nat) (body : Statement) (redirections : List Redirection) : Statement :=
  match redirections, body with
  | [], body => body
  | redirections, .subshell line inner [] => .subshell line inner redirections
  | redirections, body => .redirected line body redirections

mutual

/-- The statements inside a word. -/
def enclosed : Nat → Bool → Parse Statement
  | 0, _ => stuck
  | fuel + 1, closed => do
    let body ← list fuel .optional
    if closed then
      let token ← nextToken (enclosed fuel) fuel .plain
      unless token matches .closeParen do expecting .closeParen
    return body.getD .skip

/-- The next token. -/
def token : Nat → Outlook → Parse Token
  | 0, _ => stuck
  | fuel + 1, outlook => nextToken (enclosed fuel) fuel outlook

/-- Statements up to a token that ends their list. -/
def list : Nat → Scope → Parse (Option Statement)
  | 0, _ => stuck
  | fuel + 1, scope => listAfter fuel scope (scope = .optional) none

/-- What follows in a list of statements; it may end before the next one. -/
def listAfter : Nat → Scope → Bool → Option Statement → Parse (Option Statement)
  | 0, _, _, _ => stuck
  | fuel + 1, scope, mayEnd, first? => do
    match ← token fuel (if scope = .line then .command else .anyLine) with
    | .newline =>
      readDocuments (enclosed fuel) fuel
      return first?
    | .ending =>
      readDocuments (enclosed fuel) fuel
      giveBack
      return first?
    | next =>
      giveBack
      if mayEnd && scope ≠ .line && next.closes then return first?
      let statement ← chain fuel
      let sign ← token fuel .plain
      let whole := fun statement => some (after first? statement)
      match sign with
      | .ampersand => listAfter fuel scope true (whole (inBackground statement))
      | .semicolon => listAfter fuel scope true (whole statement)
      | .newline | .ending =>
        giveBack
        listAfter fuel scope true (whole statement)
      | _ =>
        if scope = .line then unexpected
        giveBack
        return whole statement

/-- Statements joined by `&&` and `||`. -/
def chain : Nat → Parse Statement
  | 0 => stuck
  | fuel + 1 => do chainAfter fuel (← pipeline fuel .plain)

/-- What follows a statement in a chain. -/
def chainAfter : Nat → Statement → Parse Statement
  | 0, _ => stuck
  | fuel + 1, first => do
    match ← token fuel .plain with
    | .both => chainAfter fuel (.both first (← pipeline fuel .anyLine))
    | .either => chainAfter fuel (.either first (← pipeline fuel .anyLine))
    | _ =>
      giveBack
      return first

/-- Commands joined by `|`, perhaps with their success turned round. -/
def pipeline : Nat → Outlook → Parse Statement
  | 0, _ => stuck
  | fuel + 1, outlook => do
    let first ← token fuel outlook
    let negated := first matches .keyword .negation
    unless negated do giveBack
    let command ← command fuel (if negated then .command else .plain)
    let commands ← pipelineAfter fuel
    let statement := if commands.isEmpty then command else .pipeline (command :: commands)
    return if negated then .negated statement else statement

/-- The commands that follow in a pipeline. -/
def pipelineAfter : Nat → Parse (List Statement)
  | 0 => stuck
  | fuel + 1 => do
    match ← token fuel .plain with
    | .bar =>
      let command ← command fuel .anyLine
      return command :: (← pipelineAfter fuel)
    | _ =>
      giveBack
      return []

/-- A list of statements that has at least one, and the token that has to follow it. -/
def bodyUpTo : Nat → Token → Parse Statement
  | 0, _ => stuck
  | fuel + 1, expected => do
    let body ← list fuel .body
    let next ← token fuel .plain
    unless next.name = expected.name do expecting expected
    return body.getD .skip

/-- A compound or simple command. -/
def command : Nat → Outlook → Parse Statement
  | 0, _ => stuck
  | fuel + 1, outlook => do
    let line := (← get).line
    match ← token fuel outlook with
    | .keyword .ifWord => withRedirections fuel line (← choice fuel)
    | .keyword .whileWord => withRedirections fuel line (← loop fuel true)
    | .keyword .untilWord => withRedirections fuel line (← loop fuel false)
    | .keyword .forWord => withRedirections fuel line (← each fuel line)
    | .keyword .caseWord => withRedirections fuel line (← select fuel line)
    | .keyword .openBrace => withRedirections fuel line (← bodyUpTo fuel (.keyword .closeBrace))
    | .openParen => withRedirections fuel line (.subshell line (← bodyUpTo fuel .closeParen) [])
    | .word _ _ | .redirection _ _ =>
      let line := (← get).line
      giveBack
      simple fuel line .name [] [] []
    | _ => unexpected

/-- The condition and the branches of a choice, after the word that opens it. -/
def choice : Nat → Parse Statement
  | 0 => stuck
  | fuel + 1 => do
    let condition ← bodyUpTo fuel (.keyword .thenWord)
    let positive ← list fuel .body
    let positive := positive.getD .skip
    match ← token fuel .plain with
    | .keyword .elifWord => return .choice condition positive (← choice fuel)
    | .keyword .elseWord =>
      return .choice condition positive (← bodyUpTo fuel (.keyword .fiWord))
    | .keyword .fiWord => return .choice condition positive .skip
    | _ => expecting (.keyword .fiWord)

/-- The condition and the body of a loop, after the word that opens it. -/
def loop : Nat → Bool → Parse Statement
  | 0, _ => stuck
  | fuel + 1, expected => do
    let condition ← bodyUpTo fuel (.keyword .doWord)
    return .loop expected condition (← bodyUpTo fuel (.keyword .doneWord))

/-- The variable, words and body of a loop over words, after the word that opens it. -/
def each : Nat → Nat → Parse Statement
  | 0, _ => stuck
  | fuel + 1, line => do
    let name? :=
      match ← token fuel .plain with
      | .word word false => (Word.plain? word).filter Chars.isName
      | _ => none
    match name? with
    | none => fault "Bad for loop variable"
    | some name =>
      let words? ←
        match ← token fuel .anyLine with
        | .keyword .inWord =>
          let words ← words fuel
          match (← get).token with
          | .newline | .semicolon => pure (some words)
          | _ => unexpected
        | .semicolon => pure none
        | _ =>
          giveBack
          pure none
      unless (← token fuel .anyLine) matches .keyword .doWord do expecting (.keyword .doWord)
      return .each line name words? (← bodyUpTo fuel (.keyword .doneWord))

/-- Words up to a token that is none. -/
def words : Nat → Parse (List Word)
  | 0 => stuck
  | fuel + 1 => do
    match ← token fuel .plain with
    | .word word _ => return word :: (← words fuel)
    | _ => return []

/-- The word and the arms of a selection, after the word that opens it. -/
def select : Nat → Nat → Parse Statement
  | 0, _ => stuck
  | fuel + 1, line => do
    match ← token fuel .plain with
    | .word word _ =>
      unless (← token fuel .anyLine) matches .keyword .inWord do expecting (.keyword .inWord)
      return .select line word (← arms fuel)
    | _ => expecting (.word [] false)

/-- The arms of a selection, with the word that closes it. -/
def arms : Nat → Parse (List (List Word × Statement))
  | 0 => stuck
  | fuel + 1 => do
    match ← token fuel .keyword with
    | .keyword .esacWord => return []
    | first =>
      if first matches .openParen then
        let _ ← token fuel .plain
      let patterns ← alternatives fuel
      let body ← list fuel .optional
      let arm := (patterns, body.getD .skip)
      match ← token fuel .keyword with
      | .keyword .esacWord => return [arm]
      | .endOfArm => return arm :: (← arms fuel)
      | _ => expecting .endOfArm

/-- The patterns of an arm of which the first has been read, with the parenthesis that closes them. -/
def alternatives : Nat → Parse (List Word)
  | 0 => stuck
  | fuel + 1 => do
    let pattern := (← get).lastWord
    match ← token fuel .plain with
    | .bar =>
      let _ ← token fuel .plain
      return pattern :: (← alternatives fuel)
    | .closeParen => return [pattern]
    | _ => expecting .closeParen

/-- The rest of a redirection, after its sign. -/
def redirection : Nat → Nat → Operator → Parse Redirection
  | 0, _, _ => stuck
  | fuel + 1, stream, operator => do
    let place := if operator matches .document _ then Place.delimiter else .bare
    match ← tokenAt (enclosed fuel) place fuel .plain with
    | .word word quoted =>
      match operator with
      | .file direction => return .file stream direction word
      | .same =>
        match writtenStream? word with
        | some source? => return .same stream source?
        | none =>
          if word.all fun part => part matches .literal _ _ then fault "Bad fd number"
          return .named stream word
      | .document stripped =>
        let number := (← get).documents.size
        let announced : Announced := ⟨number, unquoted word, stripped, !quoted⟩
        modify fun cursor =>
          { cursor with
            announced := cursor.announced ++ [announced]
            documents := cursor.documents.push [] }
        return .document stream number
    | _ => unexpected

/-- A compound command with the redirections that follow it. -/
def withRedirections : Nat → Nat → Statement → Parse Statement
  | 0, _, _ => stuck
  | fuel + 1, line, body => do
    return redirect line body (← redirections fuel .command)

/-- Redirections up to something else. -/
def redirections : Nat → Outlook → Parse (List Redirection)
  | 0, _ => stuck
  | fuel + 1, outlook => do
    match ← token fuel outlook with
    | .redirection stream operator =>
      let first ← redirection fuel stream operator
      return first :: (← redirections fuel .plain)
    | _ =>
      giveBack
      return []

/-- The rest of a simple command, given what has been read of it, last things first; assignments stand
before the words. A single word before parentheses makes the command a definition. -/
def simple : Nat → Nat → Outlook → List Word → List Word → List Redirection → Parse Statement
  | 0, _, _, _, _, _ => stuck
  | fuel + 1, line, outlook, assignments, words, redirections => do
    match ← token fuel outlook with
    | .word word _ =>
      if outlook.aliases ∧ (Word.assignedName? word).isSome then
        simple fuel line outlook (word :: assignments) words redirections
      else simple fuel line .plain assignments (word :: words) redirections
    | .redirection stream operator =>
      let redirection ← redirection fuel stream operator
      simple fuel line outlook assignments words (redirection :: redirections)
    | next =>
      match next, assignments, words, redirections with
      | .openParen, [], [word], [] => define fuel word
      | _, _, _, _ =>
        giveBack
        return .simple line assignments.reverse words.reverse redirections.reverse

/-- The body of a function, after the parenthesis that follows its name. -/
def define : Nat → Word → Parse Statement
  | 0, _ => stuck
  | fuel + 1, word => do
    unless (← token fuel .plain) matches .closeParen do expecting .closeParen
    match (Word.plain? word).filter fun name =>
        Chars.isName name && !specialNames.contains (String.ofList name) with
    | none => fault "Bad function name"
    | some name =>
      let line := (← get).line
      return .define line name (← command fuel .anyLine)

end

/-- Fuel for parsing a text. -/
def fuelFor (text : Chars) (aliases : List (Chars × Chars)) : Nat :=
  16 * (text.length + Number.total (aliases.map fun item => item.2.length)) + 256

/-- The statements up to the end of a line, if there are any, and where they end. -/
def line (cursor : Cursor) : Except Misuse (Option Statement × Cursor) :=
  let fuel := fuelFor cursor.rest cursor.aliases
  (list fuel .line).run { cursor with again := false }

/-- All has been read. -/
def Cursor.isAtEnd (cursor : Cursor) : Bool :=
  cursor.rest.isEmpty && cursor.announced.isEmpty

end CounterCatalog.Shell.Parser
