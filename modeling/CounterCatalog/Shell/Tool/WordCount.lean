import CounterCatalog.Shell.Tool.Common

/-!
# Counting lines, words and bytes

The counts of a file stand in columns, which are as wide as the sizes of all files together need, and wider
where a size is not known before the file is read.
-/

set_option autoImplicit false

namespace CounterCatalog.Shell.Tool

open Step

namespace WordCount

/-- What has been counted of a content. -/
structure Counts where
  /-- The lines. -/
  lines : Nat
  /-- The words that are complete. -/
  words : Nat
  /-- The bytes. -/
  bytes : Nat
  /-- The columns of the longest line so far. -/
  longest : Nat
  /-- A word has begun. -/
  inWord : Bool
  /-- The columns of the line that has begun. -/
  column : Nat

/-- Nothing has been counted. -/
def Counts.none : Counts := ⟨0, 0, 0, 0, false, 0⟩

namespace Counts

/-- A word ends here, if one has begun. -/
def endWord (counts : Counts) : Counts :=
  { counts with words := if counts.inWord then counts.words + 1 else counts.words, inWord := false }

/-- A line ends here. -/
def endLine (counts : Counts) : Counts :=
  { counts with longest := max counts.longest counts.column, column := 0 }

/-- Counts a byte. -/
def step (counts : Counts) (byte : UInt8) : Counts :=
  let counts := { counts with bytes := counts.bytes + 1 }
  match byte.toNat with
  | 10 => { counts with lines := counts.lines + 1 }.endLine.endWord
  | 12 | 13 => counts.endLine.endWord
  | 9 => { counts with column := counts.column + (8 - counts.column % 8) }.endWord
  | 32 => { counts with column := counts.column + 1 }.endWord
  | 11 => counts.endWord
  | n => if 32 ≤ n ∧ n ≤ 126 then { counts with column := counts.column + 1, inWord := true } else counts

/-- The counts of a content. -/
def ofContent (content : List UInt8) : Counts :=
  (content.foldl step none).endLine.endWord

/-- The counts that are asked for, in their order. -/
def chosen (options : Options) (counts : Counts) : List Nat :=
  let all := !options.hasAny "lwmcL"
  (if all || options.has 'l' then [counts.lines] else []) ++
    (if all || options.has 'w' then [counts.words] else []) ++
    (if options.has 'm' then [counts.bytes] else []) ++
    (if all || options.has 'c' then [counts.bytes] else []) ++
    (if options.has 'L' then [counts.longest] else [])

/-- The counts of several files together. -/
def add (a b : Counts) : Counts :=
  ⟨a.lines + b.lines, a.words + b.words, a.bytes + b.bytes, max a.longest b.longest, false, 0⟩

end Counts

/-- What is known of the size of a file before it is read. -/
inductive KnownSize where
  /-- The size of a regular file. -/
  | known (size : Nat)
  /-- It is no regular file. -/
  | unknown
  /-- It cannot be found. -/
  | missing

/-- What is known of the size of a file before it is read. -/
def knownSize (machine : Machine) (file : Chars) : KnownSize :=
  if file = ['-'] then
    match machine.opening? 0 with
    | some (_, ⟨.file handle, _, _, _, _⟩) => .known (machine.fileSize handle)
    | some (_, ⟨.bytes content, _, _, _, _⟩) => .known content.length
    | some _ => .unknown
    | none => .missing
  else
    match machine.tree.locate machine.directory file.bytes with
    | .ok (_, .file content _) => .known content.length
    | .ok _ => .unknown
    | .error _ => .missing

/-- The width of the columns in which counts of files stand. -/
def columnWidth (sizes : List KnownSize) (columns : Nat) : Nat :=
  if sizes.length = 1 ∧ columns = 1 then 1
  else
    let known := sizes.filterMap fun size => match size with | .known n => some n | _ => none
    let least := if sizes.any fun size => size matches .unknown then 7 else 1
    max least (Chars.ofNat (Number.total known)).length

/-- A line of counts. -/
def line (width : Nat) (numbers : List Nat) (name? : Option Chars) : Chars :=
  [' '].intercalate (numbers.map fun n => padded width (Chars.ofNat n)) ++
    (match name? with | some name => ' ' :: name | none => []) ++ ['\n']

end WordCount

open WordCount in
/-- Counts the lines, words and bytes of files. -/
def wc : Tool := fun arguments =>
  withOptions (flags [('c', "bytes"), ('m', "chars"), ('l', "lines"), ('w', "words"),
    ('L', "max-line-length")]) arguments fun options => do
    let files := inputs options.operands
    let columns := (Counts.none.chosen options).length
    let machine ← get
    let width := columnWidth (files.map (knownSize machine)) columns
    let nameOf := fun file : Chars => if options.operands.isEmpty then none else some file
    let mut sum := Counts.none
    let mut status := 0
    for file in files do
      match ← contentOf file with
      | .ok content =>
        let counts := Counts.ofContent content
        sum := sum.add counts
        status := max status (← answer 0 (line width (counts.chosen options) (nameOf file)))
      | .error fault =>
        let name := if options.operands.isEmpty then "'standard input'".toList else fileName file
        report (name ++ ": ".toList ++ fault.reason.toList)
        if fault = .isADirectory ∨ fault = .badHandle then
          let _ ← answer 0 (line width (Counts.none.chosen options) (nameOf file))
        status := 1
    if 1 < files.length then
      status := max status (← answer 0 (line width (sum.chosen options) (some "total".toList)))
    closeInput files "-" status

end CounterCatalog.Shell.Tool
