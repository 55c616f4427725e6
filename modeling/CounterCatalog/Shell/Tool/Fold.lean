import CounterCatalog.Shell.Tool.Common

/-!
# Breaking lines

`fold` breaks lines that are too wide. A tab goes to the next place for one, a backspace goes back, and a
carriage return goes to the beginning of the line, unless bytes are counted.
-/

set_option autoImplicit false

namespace CounterCatalog.Shell.Tool

open Step

/-- How lines are broken. -/
structure Folding where
  /-- The width that lines have at most. -/
  width : Nat
  /-- They are broken behind blanks. -/
  atBlanks : Bool
  /-- Bytes are counted, not columns. -/
  ofBytes : Bool

namespace Folding

/-- The column behind a character. -/
def advance (folding : Folding) (column : Nat) (c : Char) : Nat :=
  if folding.ofBytes then column + 1
  else
    match c with
    | '\x08' => column - 1
    | '\r' => 0
    | '\t' => column + (8 - column % 8)
    | _ => column + 1

/-- How far the breaking has come. -/
structure State where
  /-- The line that has begun, its last character first. -/
  line : Chars
  /-- The column behind it. -/
  column : Nat
  /-- The pieces that have been written, the last one first, each with its last character first. -/
  written : List Chars

/-- Adds a character, given how often the line may be broken in front of it. -/
def add (folding : Folding) (c : Char) : Nat → State → State
  | 0, state => { state with line := c :: state.line }
  | breaks + 1, state =>
    let column := folding.advance state.column c
    if column ≤ folding.width ∨ state.line.isEmpty then { state with line := c :: state.line, column := column }
    else
      let rest := state.line.takeWhile fun d => d ≠ ' ' && d ≠ '\t'
      if folding.atBlanks ∧ rest.length < state.line.length then
        folding.add c breaks
          { line := rest
            column := rest.reverse.foldl folding.advance 0
            written := ('\n' :: state.line.drop rest.length) :: state.written }
      else folding.add c breaks ⟨[], 0, ('\n' :: state.line) :: state.written⟩

/-- Adds a character of a text, which may end the line. -/
def step (folding : Folding) (state : State) (c : Char) : State :=
  if c = '\n' then ⟨[], 0, ('\n' :: state.line) :: state.written⟩ else folding.add c 3 state

/-- A text with its lines broken. -/
def text (folding : Folding) (text : Chars) : Chars :=
  let state := text.foldl folding.step ⟨[], 0, []⟩
  ((state.line :: state.written).reverse.map List.reverse).flatten

end Folding

/-- Writes the lines of files broken into pieces. -/
def fold : Tool := fun arguments =>
  let digits := perhaps ("0123456789".toList.map fun c => (c, ""))
  withOptions (digits ++ taking [('w', "width")] ++ flags [('s', "spaces"), ('b', "bytes")]) arguments
    fun options =>
      let found := options.found.map fun item => if item.1.isDigit then ('w', item.1 :: item.2) else item
      let read := fun text : Chars =>
        match size? false text with
        | .ok 0 => .error .outside
        | result => result
      orReport (({ options with found := found } : Options).readValue 'w' read "invalid number of columns")
        fun width? =>
          let folding : Folding := ⟨width?.getD 80, options.has 's', options.has 'b'⟩
          eachPart partOf options.operands blameFault fun content goesOn =>
            let text := folding.text (Chars.ofBytes content)
            answer 0 (if goesOn then (text.reverse.dropWhile fun c => c ≠ '\n').reverse else text)

end CounterCatalog.Shell.Tool
