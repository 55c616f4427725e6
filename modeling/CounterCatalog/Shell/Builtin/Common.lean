import CounterCatalog.Shell.Process

/-!
# What the shell's own commands have in common

A command of the shell is given its arguments and ends with a status. It reads options from the front of the
arguments, and complains under its own name, which the shell has noted before.
-/

set_option autoImplicit false

namespace CounterCatalog.Shell

/-- A command of the shell itself: its arguments to its status. -/
abbrev Builtin := List Chars → Step Nat

namespace Builtin

open Step

/-- Writes a text, and complains if that is not possible. -/
def say (text : Chars) : Step Nat := do
  match ← print text with
  | .ok _ => return 0
  | .error _ =>
    warn ((((← get).speaker?).getD []) ++ ": I/O error".toList)
    return 1

/-- A line. -/
def line (text : Chars) : Chars :=
  text ++ ['\n']

/-- The value of an argument that has to be a number between bounds. -/
def boundedNumber (low high : Int) (argument : Chars) : Step Int := do
  let refuse : Step Int := fail ("Illegal number: ".toList ++ argument)
  let trimmed := argument.dropWhile Char.isWhitespace
  let digits := if trimmed.head? = some '-' ∨ trimmed.head? = some '+' then trimmed.drop 1 else trimmed
  let run := digits.takeWhile Char.isDigit
  if run.isEmpty ∨ !((digits.drop run.length).all Char.isWhitespace) then return ← refuse
  let size : Int := Chars.toNat run
  let value := if trimmed.head? = some '-' then -size else size
  if value < low ∨ high < value then refuse else return value

/-- The value of an argument that has to be a number. -/
def number (argument : Chars) : Step Nat := do
  return (← boundedNumber 0 Number.greatestCount argument).toNat

/-- The options at the front of arguments, each with its own argument if it has one, and the arguments behind
them. The known letters are given, those with an argument followed by a colon. -/
def options (known : String) : List Chars → Step (List (Char × Chars) × List Chars)
  | [] => return ([], [])
  | ('-' :: c :: letters) :: rest =>
    if c = '-' ∧ letters.isEmpty then return ([], rest)
    else letterRun (c :: letters) rest
  | arguments => return ([], arguments)
where
  /-- The letters of one argument, and then the options that follow. -/
  letterRun (letters : Chars) (rest : List Chars) : Step (List (Char × Chars) × List Chars) :=
    match letters with
    | [] => options known rest
    | c :: more => do
      match known.toList.dropWhile fun d => d ≠ c || d = ':' with
      | [] => fail ("Illegal option -".toList ++ [c])
      | _ :: ':' :: _ =>
        if !more.isEmpty then
          let (found, left) ← options known rest
          return ((c, more) :: found, left)
        match rest with
        | value :: rest =>
          let (found, left) ← options known rest
          return ((c, value) :: found, left)
        | [] => fail ("No arg for -".toList ++ [c] ++ " option".toList)
      | _ =>
        let (found, left) ← letterRun more rest
        return ((c, []) :: found, left)

/-- A text between quotes, so that the shell would read it as it is; given at least as many steps as it has
characters. -/
def quoteIn : Nat → Chars → Chars
  | 0, _ => []
  | steps + 1, text =>
    let plain := text.takeWhile fun c => c ≠ '\x27'
    let rest := text.drop plain.length
    let quotes := rest.takeWhile fun c => c = '\x27'
    let after := rest.drop quotes.length
    let first := ['\x27'] ++ plain ++ ['\x27']
    if quotes.isEmpty then first
    else
      first ++ ['\x22'] ++ quotes ++ ['\x22'] ++ (if after.isEmpty then [] else quoteIn steps after)

/-- A text between quotes, so that the shell would read it as it is. -/
def quote (text : Chars) : Chars :=
  quoteIn (text.length + 1) text

end Builtin

end CounterCatalog.Shell
