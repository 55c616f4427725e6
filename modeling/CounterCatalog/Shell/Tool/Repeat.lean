import CounterCatalog.Shell.Tool.Common

/-!
# Repeated lines

`uniq` writes one line for each run of lines that count as the same, or only those runs that are repeated, or that
are not; it may count them, and may write whole runs with empty lines between them.
-/

set_option autoImplicit false

namespace CounterCatalog.Shell.Tool

open Step

namespace Repeat

/-- Where empty lines stand among runs. -/
inductive Gaps where
  /-- Nowhere. -/
  | none
  /-- In front of each run. -/
  | before
  /-- Behind each run. -/
  | after
  /-- Between runs. -/
  | between
  /-- In front of each run and behind the last. -/
  | both
deriving DecidableEq

/-- How lines are compared and written. -/
structure Filtering where
  /-- The number of fields at the front that do not count. -/
  fields : Nat
  /-- The number of characters behind them that do not count. -/
  characters : Nat
  /-- The number of characters that count, if it is limited. -/
  width? : Option Nat
  /-- Small letters are like capital ones. -/
  folded : Bool
  /-- Runs of a single line are written. -/
  single : Bool
  /-- One line of a longer run is written. -/
  repeated : Bool
  /-- The other lines of it are written too. -/
  others : Bool
  /-- The length of a run stands in front of its line. -/
  counts : Bool
  /-- Where empty lines stand among all runs. -/
  groups : Gaps
  /-- Where empty lines stand among longer runs. -/
  gaps : Gaps

/-- A blank between fields. -/
def isGap (c : Char) : Bool :=
  c = ' ' || c = '\t' || c = '\n'

/-- A line without a number of fields at its front. -/
def skipFields : Nat → Chars → Chars
  | 0, line => line
  | count + 1, line => skipFields count ((line.dropWhile isGap).dropWhile fun c => !isGap c)

namespace Filtering

/-- The part of a line that counts. -/
def part (filtering : Filtering) (line : Chars) : Chars :=
  let text := (skipFields filtering.fields line).drop filtering.characters
  let text := filtering.width?.elim text text.take
  if filtering.folded then text.map Char.toUpper else text

/-- Runs of lines that count as the same. -/
def runs (filtering : Filtering) (lines : List Chars) : List (List Chars) :=
  (lines.map fun line => (filtering.part line, line)).splitBy (fun a b => a.1 = b.1) |>.map (List.map Prod.snd)

/-- What is written of a run, given how many longer runs have come before. -/
def shown (filtering : Filtering) (before : Nat) (run : List Chars) : List Chars :=
  let count := run.length
  let line := fun text : Chars =>
    if filtering.counts then padded 7 (Chars.ofNat count) ++ [' '] ++ text else text
  if count = 1 then if filtering.single then run.map line else []
  else if filtering.others then
    let gap :=
      match filtering.gaps with
      | .before => true
      | .between => before ≠ 0
      | _ => false
    (if gap then [[]] else []) ++ run.dropLast ++ if filtering.repeated then run.drop (count - 1) else []
  else if filtering.repeated then (run.take 1).map line
  else []

/-- The lines that are written. -/
def lines (filtering : Filtering) (lines : List Chars) : List Chars :=
  let runs := filtering.runs lines
  match filtering.groups with
  | .none =>
    (runs.foldl (fun (state : List (List Chars) × Nat) run =>
      (filtering.shown state.2 run :: state.1, if run.length = 1 then state.2 else state.2 + 1))
      ([], 0)).1.reverse.flatten
  | .before => runs.flatMap ([] :: ·)
  | .after => runs.flatMap (· ++ [[]])
  | .between => [[]].intercalate runs
  | .both => if runs.isEmpty then [] else runs.flatMap ([] :: ·) ++ [[]]

end Filtering

/-- A number of things that an option says, of which too many are as good as all. -/
def countOf (options : Options) (letter : Char) (what : String) : Except Chars (Option Nat) :=
  match options.value? letter with
  | Option.none => .ok Option.none
  | some text =>
    match size? false text with
    | .ok size => .ok (some size)
    | .error .invalid => .error (text ++ ": ".toList ++ what.toList)
    | .error _ => .ok (some greatestSize)

/-- The number of fields to skip that digits among the options say, if the last thing said about that was one. -/
def oldFields? (options : Options) : Option Nat :=
  let last := options.found.reverse.takeWhile fun item => item.1 ≠ 'f'
  let digits := ((last.filter fun item => item.1.isDigit).map Prod.fst).reverse
  if digits.isEmpty then Option.none else some (min greatestSize (Chars.toNat digits))

/-- The words for where empty lines stand among all runs. -/
def groupWords : List (String × Gaps) :=
  [("prepend", .before), ("append", .after), ("separate", .between), ("both", .both)]

/-- The words for where empty lines stand among longer runs. -/
def repeatWords : List (String × Gaps) :=
  [("none", .none), ("prepend", .before), ("separate", .between)]

/-- How options say that lines are compared and written, or what is wrong with that. -/
def filteringOf (options : Options) (groups gaps : Gaps) : Except Chars Filtering := do
  let fields? ← countOf options 'f' "invalid number of fields to skip"
  let characters? ← countOf options 's' "invalid number of bytes to skip"
  let width? ← countOf options 'w' "invalid number of bytes to compare"
  return { fields := ((oldFields? options).orElse fun _ => fields?).getD 0, characters := characters?.getD 0
           width? := width?, folded := options.has 'i', single := !options.hasAny "dD"
           repeated := !options.has 'u', others := options.has 'D', counts := options.has 'c'
           groups := groups, gaps := gaps }

end Repeat

open Repeat in
/-- Writes lines without those that repeat the line before. -/
def uniq : Tool := fun arguments =>
  withOptions (flags (("0123456789".toList.map fun c => (c, "")) ++ [('c', "count"), ('d', "repeated"),
      ('D', ""), ('u', "unique"), ('i', "ignore-case"), ('z', "zero-terminated")]) ++
    perhaps [('ḋ', "all-repeated"), ('ġ', "group")] ++
    taking [('f', "skip-fields"), ('s', "skip-chars"), ('w', "check-chars")]) arguments fun options => do
    let mut gaps := Gaps.none
    let mut groups := Gaps.none
    for (letter, word) in options.found do
      if letter = 'ḋ' ∧ !word.isEmpty then
        let some found ← choice "--all-repeated" repeatWords word | return 1
        gaps := found
      if letter = 'ġ' then
        groups := .between
        unless word.isEmpty do
          let some found ← choice "--group" groupWords word | return 1
          groups := found
    let found := options.found.map fun item => if item.1 = 'ḋ' then ('D', []) else item
    let options : Options := { options with found := found }
    if let some extra := options.operands[2]? then
      return ← misusedWith 1 ("extra operand ".toList ++ quoted extra)
    if options.has 'ġ' ∧ options.hasAny "cdDu" then
      return ← misused "--group is mutually exclusive with -c/-d/-D/-u"
    if options.has 'c' ∧ options.has 'D' then
      return ← misused "printing all duplicated lines and repeat counts is meaningless"
    orReport (filteringOf options groups gaps) fun filtering => do
      let file := (options.operands.head?).getD ['-']
      match ← recordsPart (recordEnd options) file with
      | .error .isADirectory =>
        report ("error reading ".toList ++ quoted file ++ ": Is a directory".toList)
        return 1
      | .error fault =>
        report (fileName file ++ ": ".toList ++ fault.reason.toList)
        return 1
      | .ok (content, goesOn) =>
        let ending := recordEnd options
        let lines := records ending (Chars.ofBytes content)
        let text := ended ending (filtering.lines (if goesOn then (filtering.runs lines).dropLast.flatten else lines))
        match options.operands[1]? with
        | none => do
          let status ← answer 0 text
          if goesOn then starve
          return status
        | some path =>
          let opened ← if path = ['-'] then pure (.ok ()) else redirectOutput path
          match opened with
          | .ok _ => answer 0 text
          | .error fault =>
            report (fileName path ++ ": ".toList ++ fault.reason.toList)
            return 1

end CounterCatalog.Shell.Tool
