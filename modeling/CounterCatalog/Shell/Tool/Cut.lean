import CounterCatalog.Shell.Tool.Common

/-!
# Parts of lines

`cut` writes bytes or fields of each line, chosen by a list of ranges.
-/

set_option autoImplicit false

namespace CounterCatalog.Shell.Tool

open Step

/-- A range of positions, counted from one, which may have no end. -/
structure Span where
  /-- The first position. -/
  low : Nat
  /-- The last position. -/
  high? : Option Nat

namespace Span

/-- What is wrong with a list of ranges. -/
inductive Flaw where
  /-- A range has two signs. -/
  | range
  /-- A position is zero or missing. -/
  | zero
  /-- A range has neither a beginning nor an end. -/
  | openRange
  /-- A range ends before it begins. -/
  | decreasing
  /-- A position is too large. -/
  | large (digits : Chars)
  /-- Something is no number. -/
  | noNumber (rest : Chars)

/-- The words for what is wrong, where fields or bytes are meant. -/
def Flaw.message (ofFields : Bool) : Flaw → Chars
  | range => (if ofFields then "invalid field range" else "invalid byte or character range").toList
  | zero =>
    (if ofFields then "fields are numbered from 1" else "byte/character positions are numbered from 1").toList
  | openRange => "invalid range with no endpoint: -".toList
  | decreasing => "invalid decreasing range".toList
  | large digits =>
    (if ofFields then "field number " else "byte/character offset ").toList ++ quoted digits ++
      " is too large".toList
  | noNumber rest =>
    (if ofFields then "invalid field value " else "invalid byte/character position ").toList ++ quoted rest

/-- A character that separates ranges. -/
def separates (c : Char) : Bool :=
  c = ',' || c = ' ' || c = '\t'

/-- The range that a part of a list is, given what follows in the list as well. -/
def ofPart (part after : Chars) : Except Flaw Span := do
  let low := part.takeWhile Char.isDigit
  let checked (digits : Chars) : Except Flaw Nat :=
    if Chars.toNat digits < greatestSize then .ok (Chars.toNat digits) else .error (.large digits)
  let first ← checked low
  match part.drop low.length with
  | [] => if first = 0 then throw .zero else return ⟨first, some first⟩
  | '-' :: rest =>
    if !low.isEmpty ∧ first = 0 then throw .zero
    let high := rest.takeWhile Char.isDigit
    let last ← checked high
    match rest.drop high.length with
    | [] =>
      if low.isEmpty ∧ high.isEmpty then throw .openRange
      let start := if low.isEmpty then 1 else first
      if high.isEmpty then return ⟨start, none⟩
      if last < start then throw .decreasing
      return ⟨start, some last⟩
    | '-' :: _ => throw .range
    | other => throw (.noNumber (other ++ after))
  | other => throw (.noNumber (other ++ after))

/-- The ranges of a list, given at least as many steps as it has characters. -/
def listOf : Nat → Chars → Except Flaw (List Span)
  | 0, _ => .ok []
  | steps + 1, text => do
    let part := text.takeWhile fun c => !separates c
    let rest := text.drop part.length
    let span ← ofPart part rest
    match rest with
    | [] => return [span]
    | _ :: rest => return span :: (← listOf steps rest)

/-- Ranges in order, with those joined that share a position. -/
def merged (spans : List Span) : List Span :=
  let sorted := spans.mergeSort fun a b => decide (a.low ≤ b.low)
  (sorted.foldl (fun (done : List Span) span =>
    match done with
    | [] => [span]
    | last :: rest =>
      match last.high?, span.high? with
      | none, _ => done
      | some high, other => if span.low ≤ high then ⟨last.low, other.map (max high)⟩ :: rest else span :: done)
    []).reverse

/-- The positions that are in none of some ranges, which stand in order. -/
def others (next : Nat) : List Span → List Span
  | [] => [⟨next, none⟩]
  | span :: rest =>
    (if next < span.low then [⟨next, some (span.low - 1)⟩] else []) ++
      match span.high? with
      | some high => others (high + 1) rest
      | none => []

/-- The elements at the positions of a range. -/
def of {α : Type} (span : Span) (items : List α) : List α :=
  let rest := items.drop (span.low - 1)
  match span.high? with
  | some high => rest.take (high + 1 - span.low)
  | none => rest

end Span

/-- How lines are cut. -/
structure Cutting where
  /-- The ranges, in order. -/
  spans : List Span
  /-- Fields are chosen, not bytes. -/
  ofFields : Bool
  /-- What separates fields. -/
  delimiter : Char
  /-- What separates what is written, if that has been said. -/
  joint? : Option Chars
  /-- Lines without a separator are left out. -/
  onlyDelimited : Bool
  /-- What ends a line. -/
  ending : Char

/-- What is written of a line. -/
def Cutting.line (cutting : Cutting) (line : Chars) : Chars :=
  if cutting.ofFields then
    if !line.contains cutting.delimiter then
      if cutting.onlyDelimited then [] else line ++ [cutting.ending]
    else
      let fields := Text.splitOn cutting.delimiter line
      (cutting.joint?.getD [cutting.delimiter]).intercalate
        (cutting.spans.flatMap fun span => span.of fields) ++ [cutting.ending]
  else
    let parts := (cutting.spans.map fun span => span.of line).filter fun part => !part.isEmpty
    (cutting.joint?.getD []).intercalate parts ++ [cutting.ending]

/-- What is written of a content. Where fields are separated by what ends lines, all of it is one line. -/
def Cutting.content (cutting : Cutting) (content : Chars) : Chars :=
  if cutting.ofFields ∧ cutting.delimiter = cutting.ending then
    let whole := if content.getLast? = some cutting.ending then content.dropLast else content
    if content.isEmpty then [] else cutting.line whole
  else (records cutting.ending content).flatMap cutting.line

/-- Writes parts of the lines of files. -/
def cut : Tool := fun arguments =>
  withOptions (taking [('b', "bytes"), ('c', "characters"), ('d', "delimiter"), ('f', "fields"),
    ('ō', "output-delimiter")] ++ flags [('s', "only-delimited"), ('n', ""), ('ċ', "complement"),
    ('z', "zero-terminated")]) arguments fun options => do
    let lists := options.found.filter fun item => "bcf".toList.contains item.1
    let ofFields := lists.any fun item => item.1 = 'f'
    let delimiter := (options.value? 'd').getD ['\t']
    if (options.values 'd').any fun text => 1 < text.length then
      return ← misused "the delimiter must be a single character"
    if 1 < lists.length then return ← misused "only one list may be specified"
    match lists with
    | [] => misused "you must specify a list of bytes, characters, or fields"
    | (_, list) :: _ =>
      if options.has 'd' ∧ ofFields = false then
        return ← misused "an input delimiter may be specified only when operating on fields"
      if options.has 's' ∧ ofFields = false then
        return ← misused
          "suppressing non-delimited lines makes sense\n\tonly when operating on fields"
      match Span.listOf (list.length + 1) list with
      | .error flaw => misusedWith 1 (flaw.message ofFields)
      | .ok spans =>
        let spans := Span.merged spans
        let cutting : Cutting :=
          { spans := if options.has 'ċ' then Span.others 1 spans else spans
            ofFields := ofFields
            delimiter := (delimiter.head?).getD (Char.ofNat 0)
            joint? := options.value? 'ō'
            onlyDelimited := options.has 's'
            ending := recordEnd options }
        eachRecords cutting.ending options.operands blameFault fun content =>
          answer 0 (cutting.content (Chars.ofBytes content))

end CounterCatalog.Shell.Tool
