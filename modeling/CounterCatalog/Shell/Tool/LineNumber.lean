import CounterCatalog.Shell.Regex.Parser
import CounterCatalog.Shell.Tool.Common

/-!
# Numbering lines

`nl` writes lines with numbers in front of them. A text may have pages, each with a head, a body and a foot, which
lines of nothing but delimiters begin; each part says for itself which of its lines have numbers.
-/

set_option autoImplicit false

namespace CounterCatalog.Shell.Tool

open Step

namespace LineNumber

/-- The lines that have numbers. -/
inductive Style where
  /-- All of them. -/
  | all
  /-- Those that are not empty. -/
  | filled
  /-- None. -/
  | none
  /-- Those in which an expression matches. -/
  | found (regex : Regex)

/-- The parts of a page. -/
inductive Part where
  | head | body | foot
deriving DecidableEq

/-- How a number stands in its place. -/
inductive Side where
  /-- At the left. -/
  | left
  /-- At the right. -/
  | right
  /-- At the right, with zeros in front. -/
  | zeros

/-- How lines are numbered. -/
structure Numbering where
  /-- Which lines of a part have numbers. -/
  style : Part → Style
  /-- The number of the first line. -/
  first : Int
  /-- What is added from one line to the next. -/
  increment : Int
  /-- The numbers do not begin anew with each part. -/
  goesOn : Bool
  /-- The number of empty lines that count as one. -/
  blanks : Nat
  /-- What stands behind a number. -/
  separator : Chars
  /-- The width of the numbers. -/
  width : Nat
  /-- Where they stand. -/
  side : Side
  /-- What the lines that begin a part are made of, if there are such lines. -/
  delimiter : Chars

/-- How far the numbering has come. -/
structure State where
  /-- The part. -/
  part : Part
  /-- The next number. -/
  number : Int
  /-- The number of empty lines that have come directly before. -/
  blanks : Nat

namespace Numbering

/-- A number in its place. -/
def placed (numbering : Numbering) (number : Int) : Chars :=
  let digits := Chars.ofNat number.natAbs
  let sign := if number < 0 then ['-'] else []
  let fill := numbering.width - sign.length - digits.length
  match numbering.side with
  | .left => sign ++ digits ++ List.replicate fill ' '
  | .right => List.replicate fill ' ' ++ sign ++ digits
  | .zeros => sign ++ List.replicate fill '0' ++ digits

/-- The part that a line begins, if it does nothing else. -/
def part? (numbering : Numbering) (line : Chars) : Option Part :=
  let times := fun n : Nat => (List.replicate n numbering.delimiter).flatten
  if numbering.delimiter.length < 2 then Option.none
  else if line = times 3 then some .head
  else if line = times 2 then some .body
  else if line = times 1 then some .foot
  else Option.none

/-- A line has a number; of empty lines that count as one, the last has it. -/
def counts (numbering : Numbering) (state : State) (line : Chars) : Bool :=
  match numbering.style state.part with
  | .all => numbering.blanks ≤ 1 || !line.isEmpty || state.blanks + 1 = numbering.blanks
  | .filled => !line.isEmpty
  | .none => false
  | .found regex => (regex.search (regex.view line false false) 0).isSome

/-- A line as it is written, and how the numbering goes on. -/
def line (numbering : Numbering) (state : State) (line : Chars) : Chars × State :=
  match numbering.part? line with
  | some part =>
    (['\n'], { state with part := part, number := if numbering.goesOn then state.number else numbering.first })
  | Option.none =>
    if numbering.counts state line then
      (numbering.placed state.number ++ numbering.separator ++ line ++ ['\n'],
        { state with number := state.number + numbering.increment, blanks := 0 })
    else
      (List.replicate (numbering.width + numbering.separator.length) ' ' ++ line ++ ['\n'],
        { state with blanks := if line.isEmpty then state.blanks + 1 else state.blanks })

/-- Lines as they are written, and how the numbering goes on. -/
def lines (numbering : Numbering) (state : State) (lines : List Chars) : Chars × State :=
  let (written, state) := lines.foldl (fun (written : List Chars × State) line =>
    let (text, state) := numbering.line written.2 line
    (text :: written.1, state)) ([], state)
  (written.reverse.flatten, state)

end Numbering

/-- What is wrong with how lines are to be numbered. -/
inductive Flaw where
  /-- Something that the use of the tool explains. -/
  | use (message : Chars)
  /-- Something else. -/
  | other (message : Chars)

/-- The style that an option gives. -/
def styleOf (options : Options) (letter : Char) (standard : Style) (what : String) : Except Flaw Style :=
  match options.value? letter with
  | Option.none => .ok standard
  | some ['a'] => .ok .all
  | some ['t'] => .ok .filled
  | some ['n'] => .ok .none
  | some text =>
    match text with
    | 'p' :: pattern =>
      match Regex.parse .basic pattern with
      | .ok regex => .ok (.found regex)
      | .error flaw => .error (.other flaw.message.toList)
    | text => .error (.use ("invalid ".toList ++ what.toList ++ " numbering style: ".toList ++ quoted text))

/-- The number between bounds that an option gives. -/
def numberOf (options : Options) (letter : Char) (low high standard : Int) (what : String) : Except Flaw Int :=
  match options.readValue letter (bounded? low high) what with
  | .ok value? => .ok (value?.getD standard)
  | .error message => .error (.other message)

/-- How options say that lines are numbered. -/
def numberingOf (options : Options) : Except Flaw Numbering := do
  let first ← numberOf options 'v' Number.least Number.greatest 1 "invalid starting line number"
  let increment ← numberOf options 'i' Number.least Number.greatest 1 "invalid line number increment"
  let blanks ← numberOf options 'l' 1 Number.greatest 1 "invalid line number of blank lines"
  let width ← numberOf options 'w' 1 Number.greatestCount 6 "invalid line number field width"
  let head ← styleOf options 'h' .none "header"
  let body ← styleOf options 'b' .filled "body"
  let foot ← styleOf options 'f' .none "footer"
  let side ←
    match options.value? 'n' with
    | some ['l', 'n'] => pure Side.left
    | some ['r', 'z'] => pure Side.zeros
    | Option.none | some ['r', 'n'] => pure Side.right
    | some text => throw (.use ("invalid line numbering format: ".toList ++ quoted text))
  let delimiter :=
    match options.value? 'd' with
    | Option.none => ['\\', ':']
    | some [c] => [c, ':']
    | some text => text
  return { style := fun | .head => head | .body => body | .foot => foot
           first := first, increment := increment, goesOn := options.has 'p', blanks := blanks.toNat
           separator := (options.value? 's').getD ['\t'], width := width.toNat, side := side
           delimiter := delimiter }

end LineNumber

open LineNumber in
/-- Writes the lines of files with numbers in front of them. -/
def nl : Tool := fun arguments =>
  withOptions (taking [('b', "body-numbering"), ('f', "footer-numbering"), ('h', "header-numbering"),
    ('i', "line-increment"), ('l', "join-blank-lines"), ('n', "number-format"), ('s', "number-separator"),
    ('v', "starting-line-number"), ('w', "number-width"), ('d', "section-delimiter")] ++
    flags [('p', "no-renumber")]) arguments fun options => do
    match numberingOf options with
    | .error (.use message) => misusedWith 1 message
    | .error (.other message) =>
      report message
      return 1
    | .ok numbering =>
      let files := inputs options.operands
      let mut state : State := ⟨.body, numbering.first, 0⟩
      let mut status := 0
      for file in files do
        match ← recordsPart '\n' file with
        | .error fault => status ← blameFault file fault
        | .ok (content, goesOn) =>
          let (text, next) := numbering.lines state (bareLines content)
          state := next
          status := max status (← answer 0 text)
          if goesOn then starve
      closeInput files "-" status

end CounterCatalog.Shell.Tool
