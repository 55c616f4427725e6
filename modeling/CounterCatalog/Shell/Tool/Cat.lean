import CounterCatalog.Shell.Tool.Common

/-!
# Writing files one after the other

`cat` may number the lines, show where they end, show characters that cannot be seen, and leave out empty lines
that follow one another. Files are joined byte by byte, so a line may begin in one and end in the next.
-/

set_option autoImplicit false

namespace CounterCatalog.Shell.Tool

open Step

namespace Cat

/-- A character with a code of seven bits where nothing is to be hidden. -/
def shownLow (tabs : Bool) (n : Nat) : Chars :=
  if n = 9 ∧ tabs = false then ['\t']
  else if n < 32 then ['^', Char.ofNat (n + 64)]
  else if n = 127 then ['^', '?']
  else [Char.ofNat n]

/-- A character where nothing is to be hidden. -/
def shown (tabs : Bool) (c : Char) : Chars :=
  let n := c.toNat
  if n < 128 then shownLow tabs n else ['M', '-'] ++ shownLow true (n - 128)

/-- How far the writing has come. -/
structure State where
  /-- The number of the next line. -/
  number : Nat
  /-- How many empty lines have come directly before. -/
  blanks : Nat
  /-- A line has begun. -/
  inside : Bool

/-- A piece of a text, which ends with a line end or with the file, as it is written. -/
def piece (options : Options) (state : State) (line : Chars) : Chars × State :=
  let ends := line.getLast? = some '\n'
  let text := if ends then line.dropLast else line
  let isBlank := text.isEmpty && !state.inside
  let blanks := if isBlank then state.blanks + 1 else 0
  let after : State := { state with blanks := blanks, inside := !ends }
  if isBlank ∧ 1 < blanks ∧ options.has 's' then ([], after)
  else
    let counts := !state.inside && (if options.has 'b' then !text.isEmpty else options.has 'n')
    let front := if counts then padded 6 (Chars.ofNat state.number) ++ ['\t'] else []
    let showsEnds := options.hasAny "EAe"
    let hides := !options.hasAny "vAet"
    let tabs := options.hasAny "TAt"
    let text :=
      if hides ∧ showsEnds ∧ ends ∧ text.getLast? = some '\r' then text.dropLast ++ ['^', 'M'] else text
    let body :=
      if !hides then text.flatMap (shown tabs)
      else if tabs then text.flatMap fun c => if c = '\t' then ['^', 'I'] else [c]
      else text
    let ending := if ends then (if showsEnds then ['$', '\n'] else ['\n']) else []
    (front ++ body ++ ending, { after with number := if counts then state.number + 1 else state.number })

/-- A text as it is written. -/
def text (options : Options) (state : State) (content : List UInt8) : List UInt8 × State :=
  let (pieces, state) := (linesOf content).foldl (fun (written : List (List UInt8) × State) line =>
    let (text, state) := piece options written.2 (Chars.ofBytes line)
    (text.bytes :: written.1, state)) ([], state)
  (pieces.reverse.flatten, state)

end Cat

/-- Writes files one after the other. -/
def cat : Tool := fun arguments =>
  withOptions (flags [('A', "show-all"), ('b', "number-nonblank"), ('e', ""),
    ('E', "show-ends"), ('n', "number"), ('s', "squeeze-blank"), ('t', ""), ('T', "show-tabs"),
    ('u', ""), ('v', "show-nonprinting")]) arguments fun options => do
    let plain := !options.hasAny "AbeEnstTv"
    let files := inputs options.operands
    let mut state : Cat.State := ⟨1, 0, false⟩
    let mut status := 0
    for file in files do
      if ← feedsItself file then
        status ← blame file "input file is output file"
      else
        match ← partOf file with
        | .error fault => status ← blameFault file fault
        | .ok (content, goesOn) =>
          let (output, next) := if plain then (content, state) else Cat.text options state content
          state := next
          if (← finish 0 output) ≠ 0 then return 1
          if goesOn then starve
    closeInput files "closing standard input" status

end CounterCatalog.Shell.Tool
