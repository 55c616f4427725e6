import CounterCatalog.Shell.Number
import CounterCatalog.Text.Utf8

/-!
# The syntax of shell scripts

A script is a tree of statements, and the words in it are lists of parts. The shell works on bytes: its
texts hold one character for each byte, whatever the bytes encode.
-/

set_option autoImplicit false

namespace CounterCatalog.Shell

/-- A text of the shell, one character for each byte. -/
abbrev Chars := List Char

namespace Chars

/-- The text with given bytes. -/
def ofBytes (bytes : List UInt8) : Chars :=
  bytes.map fun byte => Char.ofNat byte.toNat

/-- The bytes of a text. -/
def bytes (text : Chars) : List UInt8 :=
  text.map fun c => UInt8.ofNat c.toNat

/-- The text with the bytes of a string. -/
def ofString (string : String) : Chars :=
  ofBytes (Text.Utf8.encode string)

/-- The characters that separate words where nothing else is said. -/
def blanks : Chars := [' ', '\t', '\n']

/-- The characters that a name begins with. -/
def isNameStart (c : Char) : Bool :=
  ('a' ≤ c && c ≤ 'z') || ('A' ≤ c && c ≤ 'Z') || c = '_'

/-- The characters of a name. -/
def isNameChar (c : Char) : Bool :=
  isNameStart c || c.isDigit

/-- A text can name a variable or a function. -/
def isName : Chars → Bool
  | [] => false
  | c :: rest => isNameStart c && rest.all isNameChar

/-- The name in front of the first equals sign of a text, and what follows the sign. -/
def assignment? (text : Chars) : Option (Chars × Chars) :=
  let name := text.takeWhile isNameChar
  match text.drop name.length with
  | '=' :: value => if isName name then some (name, value) else none
  | _ => none

/-- A number in digits. -/
def ofNat (n : Nat) : Chars :=
  Nat.toDigits 10 n

/-- A whole number in digits, with its sign if it is negative. -/
def ofInt (n : Int) : Chars :=
  if n < 0 then '-' :: ofNat n.natAbs else ofNat n.natAbs

/-- A text consists of digits. -/
def isNumber (text : Chars) : Bool :=
  !text.isEmpty && text.all Char.isDigit

/-- The value of a number written in digits. -/
def toNat (digits : Chars) : Nat :=
  digits.foldl (fun value c => value * 10 + (c.toNat - '0'.toNat)) 0

/-- A text comes no later than another, byte by byte. -/
def isBefore (a b : Chars) : Bool :=
  !(b.lex a fun x y => decide (x < y))

end Chars

/-- How a redirection opens a file. -/
inductive Direction where
  /-- To take input from it. -/
  | read
  /-- To send output to it, after emptying it unless files are protected. -/
  | write
  /-- To send output to it, after emptying it in any case. -/
  | clobber
  /-- To send output to its end. -/
  | append
  /-- To take input from it and send output to it. -/
  | both
deriving DecidableEq

mutual

/-- A part of a word. -/
inductive Part where
  /-- Characters that stand for themselves; empty quotes are a quoted part without characters. -/
  | literal (text : List Char) (quoted : Bool)
  /-- The value of a parameter. -/
  | parameter (name : List Char) (use : Use) (quoted : Bool)
  /-- What a statement writes. -/
  | output (body : Statement) (quoted : Bool)
  /-- The value of an arithmetic expression. -/
  | number (expression : List Part) (quoted : Bool)

/-- What is made of a parameter's value. -/
inductive Use where
  /-- It is taken as it is. -/
  | value
  /-- It is counted. -/
  | length
  /-- Another word stands in for it when it is unset, or also when it is empty. -/
  | fallback (orEmpty : Bool) (word : List Part)
  /-- As before, and the parameter gets the other value. -/
  | assign (orEmpty : Bool) (word : List Part)
  /-- The script ends when it is unset, or also when it is empty. -/
  | demand (orEmpty : Bool) (word : List Part)
  /-- Another word stands in for it when it is set, and perhaps not empty. -/
  | alternative (orEmpty : Bool) (word : List Part)
  /-- What a pattern matches is cut off at the front or the back. -/
  | trim (front longest : Bool) (pattern : List Part)
  /-- Nothing: what stands there has no meaning. -/
  | meaningless

/-- A redirection of a stream. -/
inductive Redirection where
  /-- To a file. -/
  | file (stream : Nat) (direction : Direction) (target : List Part)
  /-- To where another stream leads, or nowhere at all. -/
  | same (stream : Nat) (source? : Option Nat)
  /-- To where the stream leads whose number a word gives. -/
  | named (stream : Nat) (source : List Part)
  /-- From a text inside the script, by its number. -/
  | document (stream : Nat) (number : Nat)

/-- A statement of a script. The lines are those of the script that the statement begins in. -/
inductive Statement where
  /-- Nothing. -/
  | skip
  /-- Assignments and a command with its words. -/
  | simple (line : Nat) (assignments : List (List Part)) (words : List (List Part))
      (redirections : List Redirection)
  /-- One statement after the other. -/
  | seq (first second : Statement)
  /-- The second statement only if the first succeeds. -/
  | both (first second : Statement)
  /-- The second statement only if the first fails. -/
  | either (first second : Statement)
  /-- A statement with its success turned round. -/
  | negated (body : Statement)
  /-- Statements of which each reads what the one before writes. -/
  | pipeline (commands : List Statement)
  /-- A statement in a shell of its own. -/
  | subshell (line : Nat) (body : Statement) (redirections : List Redirection)
  /-- A statement in a shell of its own that is not waited for. -/
  | background (line : Nat) (body : Statement) (redirections : List Redirection)
  /-- A choice by the success of a condition. -/
  | choice (condition positive negative : Statement)
  /-- A body repeated while a condition succeeds, or until it does. -/
  | loop (expected : Bool) (condition body : Statement)
  /-- A body for each of some words, or for each argument. -/
  | each (line : Nat) (name : List Char) (words? : Option (List (List Part))) (body : Statement)
  /-- The body of the first arm with a pattern that matches a word. -/
  | select (line : Nat) (word : List Part) (arms : List (List (List Part) × Statement))
  /-- A statement with redirected streams. -/
  | redirected (line : Nat) (body : Statement) (redirections : List Redirection)
  /-- A body that gets a name. -/
  | define (line : Nat) (name : List Char) (body : Statement)

end

/-- A word of a script. -/
abbrev Word := List Part

namespace Word

/-- The characters of a word, if none of them is quoted and nothing has to be put in. -/
def plain? : Word → Option Chars
  | [] => some []
  | .literal text false :: rest => (plain? rest).map fun more => text ++ more
  | _ => none

/-- The characters that a word begins with before anything that is quoted or has to be put in. -/
def front : Word → Chars
  | .literal text false :: rest => text ++ front rest
  | _ => []

/-- The name that a word assigns to, if it is an assignment as it is written. -/
def assignedName? (word : Word) : Option Chars :=
  (Chars.assignment? (front word)).map Prod.fst

/-- The word after a number of its characters, none of them quoted. -/
def drop : Nat → Word → Word
  | 0, word => word
  | count + 1, .literal (_ :: text) false :: rest => drop count (.literal text false :: rest)
  | count + 1, .literal [] false :: rest => drop (count + 1) rest
  | _, word => word

/-- A part in front of a word, joined to its first part where both are written alike. -/
def cons (part : Part) (word : Word) : Word :=
  match part, word with
  | .literal (c :: text) quoted, .literal (d :: more) also :: rest =>
    if quoted = also then .literal (c :: text ++ d :: more) quoted :: rest else part :: word
  | _, _ => part :: word

end Word

end CounterCatalog.Shell
