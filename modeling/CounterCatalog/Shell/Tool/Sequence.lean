import CounterCatalog.Shell.Format
import CounterCatalog.Shell.Tool.Common

/-!
# Counting

`seq` writes numbers from a first to a last one in equal steps. Whole numbers are counted exactly; other numbers are
computed as a machine does, each from the first one, and are shown with as many digits behind the point as the
first number and the step are written with.
-/

set_option autoImplicit false

namespace CounterCatalog.Shell.Tool

open Step

namespace Sequence

/-- A number as it is given: its value, and the width and the digits behind the point that it is written with. -/
structure Operand where
  /-- The value. -/
  value : Floating
  /-- The width. -/
  width : Nat
  /-- The number of digits behind the point, if it is written so that it can be told. -/
  places? : Option Nat

/-- The number one. -/
def Operand.one : Operand := ⟨.finite false 1 0, 1, some 0⟩

/-- The width and the digits behind the point of a number that is written in base ten. -/
def shapeOf (text : Chars) : Nat × Option Nat :=
  let number := text.takeWhile fun c => c ≠ 'e' && c ≠ 'E'
  let whole := number.takeWhile fun c => c ≠ '.'
  let hasPoint := whole.length < number.length
  let part := number.length - whole.length - 1
  let width : Int :=
    number.length +
      (if !hasPoint then 0
       else if part = 0 then -1
       else if whole.getLast?.any Char.isDigit then 0 else 1)
  if number.length = text.length then (width.toNat, some part)
  else
    let (power, _) := Decimal.exponentOf ('e', 'E') (text.drop number.length)
    if power < 0 then
      let extra : Int := if !hasPoint ∨ part = 0 then 1 else 0
      ((width + extra - power).toNat, some (part + power.natAbs))
    else
      let places := part - power.toNat
      let width := if hasPoint ∧ places = 0 ∧ part ≠ 0 then width - 1 else width
      ((width + (power.toNat - min part power.toNat : Nat)).toNat, some places)

/-- What is wrong with a number. -/
inductive Flaw where
  /-- It is none. -/
  | invalid
  /-- It says that it is none. -/
  | undefined

/-- The number that a text is. -/
def read (text : Chars) : Except Flaw Operand :=
  match Floating.read? .extended text with
  | some ⟨.undefined _, [], _⟩ => .error .undefined
  | some ⟨value, [], _⟩ =>
    let text := text.dropWhile fun c => c.isWhitespace || c = '+'
    let isHexadecimal := text.any fun c => c = 'x' || c = 'X'
    let isFinite := value.parts?.isSome
    if isFinite ∧ isHexadecimal = false then
      let (width, places?) := shapeOf text
      .ok ⟨value, width, places?⟩
    else .ok ⟨value, 0, if text.any fun c => c = '.' || c = 'p' then none else some 0⟩
  | _ => .error .invalid

/-! ## Formats -/

/-- How a number is written: what stands in front of it and behind it, its place, and the letter for its kind. -/
structure Layout where
  /-- What stands in front. -/
  front : Chars
  /-- The place. -/
  field : Format.Field
  /-- The letter. -/
  kind : Char
  /-- What stands behind. -/
  back : Chars

/-- A number as it is written. -/
def Layout.text (layout : Layout) (value : Floating) : Chars :=
  layout.front ++ layout.field.placeFloating .extended layout.kind value ++ layout.back

/-- A text up to a percent sign that is not doubled, and what follows that, if there is one. -/
def untilPercent : Chars → Chars × Option Chars
  | [] => ([], none)
  | '%' :: '%' :: rest =>
    let (front, after?) := untilPercent rest
    ('%' :: front, after?)
  | '%' :: rest => ([], some rest)
  | c :: rest =>
    let (front, after?) := untilPercent rest
    (c :: front, after?)

/-- The layout that a format describes. -/
def layoutOf (format : Chars) : Except Chars Layout :=
  let wrong := fun message : String => Except.error ("format ".toList ++ quoted format ++ message.toList)
  match untilPercent format with
  | (_, none) => wrong " has no % directive"
  | (front, some rest) =>
    let flags := rest.takeWhile "-+#0 '".toList.contains
    let rest := rest.drop flags.length
    let width := rest.takeWhile Char.isDigit
    let rest := rest.drop width.length
    let (places?, rest) :=
      match rest with
      | '.' :: rest =>
        let digits := rest.takeWhile Char.isDigit
        (some (Chars.toNat digits), rest.drop digits.length)
      | rest => (none, rest)
    let rest := if rest.head? = some 'L' then rest.tail else rest
    match rest with
    | [] => wrong " ends in %"
    | kind :: after =>
      if !"efgaEFGA".toList.contains kind then
        .error ("format ".toList ++ quoted format ++ " has unknown %".toList ++ [kind] ++ " directive".toList)
      else
        match untilPercent after with
        | (_, some _) => wrong " has too many % directives"
        | (back, none) =>
          let sign := if flags.contains '+' then ['+'] else if flags.contains ' ' then [' '] else []
          .ok ⟨front, ⟨flags.contains '-', flags.contains '0', sign, flags.contains '#', Chars.toNat width, places?⟩,
            kind, back⟩

/-- The layout where none is given, perhaps with the same width for all numbers. -/
def standardLayout (equal : Bool) (first step last : Operand) : Layout :=
  match first.places?, step.places?, last.places? with
  | some firstPlaces, some stepPlaces, some lastPlaces =>
    let places := max firstPlaces stepPlaces
    let point := if places = 0 then 0 else 1
    let firstWidth := first.width + (places - firstPlaces) + if firstPlaces = 0 then point else 0
    let lastWidth := last.width + places - lastPlaces
    let lastWidth := if lastPlaces ≠ 0 ∧ places = 0 then lastWidth - 1 else lastWidth
    let lastWidth := if lastPlaces = 0 then lastWidth + point else lastWidth
    let width := if equal then max firstWidth lastWidth else 0
    ⟨[], ⟨false, equal, [], false, width, some places⟩, 'f', []⟩
  | _, _, _ => ⟨[], ⟨false, false, [], false, 0, none⟩, 'g', []⟩

/-! ## Writing -/

/-- The number of lines that are written at a time. -/
def chunkSize : Nat := 4096

/-- The whole numbers from one on in steps, given how many. -/
def wholeFrom (step : Nat) : Nat → Nat → List Nat
  | 0, _ => []
  | count + 1, first => first :: wholeFrom step count (first + step)

/-- A part of the whole numbers up to a last one, if there is a last one, behind a number of them that have been
written; and whether more follow. -/
def wholeChunk (first step : Nat) (last? : Option Nat) (done : Nat) : List Chars × Bool :=
  let left? := last?.map fun last => if last < first then 0 else (last - first) / step + 1 - done
  let count := left?.elim chunkSize (min chunkSize)
  ((wholeFrom step count (first + done * step)).map Chars.ofNat, left?.all fun left => chunkSize < left)

/-- Numbers from a first to a last one in steps. -/
structure Course where
  /-- How they are written. -/
  layout : Layout
  /-- The first number. -/
  first : Floating
  /-- What is added from one to the next. -/
  step : Floating
  /-- The last number. -/
  last : Floating

namespace Course

/-- The number behind so many others. -/
def value (course : Course) (number : Nat) : Floating :=
  if number = 0 then course.first
  else Floating.add .extended course.first (course.step.times .extended number)

/-- A number is beyond the last one. -/
def isOutside (course : Course) (value : Floating) : Bool :=
  if course.step.isNegative then value.isBelow course.last else course.last.isBelow value

/-- A number beyond the last one is written nevertheless if it looks the same as the last one, and other than the one
before. -/
def looksInside (course : Course) (number : Nat) (text : Chars) : Bool :=
  let layout := course.layout
  let inner := (text.drop layout.front.length).take (text.length - layout.front.length - layout.back.length)
  match Floating.read? .extended inner with
  | some ⟨shown, [], _⟩ =>
    Floating.compare? shown course.last = some .eq && number ≠ 0 &&
      text ≠ layout.text (course.value (number - 1))
  | _ => false

/-- A part of the numbers from the one with a number on, given how many at most, and whether more follow. -/
def textsFrom (course : Course) : Nat → Nat → List Chars × Bool
  | 0, _ => ([], true)
  | count + 1, number =>
    let value := course.value number
    let text := course.layout.text value
    if course.isOutside value then (if course.looksInside number text then [text] else [], false)
    else
      let (texts, more) := textsFrom course count (number + 1)
      (text :: texts, more)

end Course

/-- Writes texts in parts, each of which is given by the number of texts in front of it, with separators between them
and a line end behind the last one; given how many parts there may be. -/
def writeParts (separator : Chars) (part : Nat → List Chars × Bool) : Nat → Nat → Step Nat
  | 0, _ => throw .exhausted
  | parts + 1, done => do
    let (texts, more) := part done
    if texts.isEmpty ∧ done = 0 then return 0
    let front := if done = 0 ∨ texts.isEmpty then [] else separator
    let status ← answer 0 (front ++ separator.intercalate texts ++ if more then [] else ['\n'])
    if status ≠ 0 ∨ more = false then return status
    writeParts separator part parts (done + texts.length)

/-- The number of parts that may be written. -/
def partLimit : Nat := 4096

/-! ## Arguments -/

/-- A word is a number below zero, and no option. -/
def isNegative (word : Chars) : Bool :=
  match word with
  | '-' :: c :: _ => c = '.' || c.isDigit
  | _ => false

/-- A word is an option of which the argument stands in the next word. -/
def takesNext (word : Chars) : Bool :=
  match word with
  | '-' :: '-' :: name => !name.isEmpty && (name.isPrefixOf "separator".toList || name.isPrefixOf "format".toList)
  | '-' :: letters => letters.dropWhile (fun c => c = 'w') = ['s'] || letters.dropWhile (fun c => c = 'w') = ['f']
  | _ => false

/-- The arguments with two dashes in front of the first number. -/
def guarded : List Chars → List Chars
  | [] => []
  | [word] => if isNegative word then [['-', '-'], word] else [word]
  | word :: next :: rest =>
    if word = ['-', '-'] then word :: next :: rest
    else if isNegative word ∨ word.head? ≠ some '-' ∨ word = ['-'] then ['-', '-'] :: word :: next :: rest
    else if takesNext word then word :: next :: guarded rest
    else word :: guarded (next :: rest)

/-- A text is a whole number without a sign. -/
def isWhole (text : Chars) : Bool :=
  !text.isEmpty && text.all Char.isDigit

/-- The greatest step in which whole numbers are counted exactly. -/
def greatestStep : Nat := 200

/-- The number, which is whole, as it is counted exactly. -/
def wholeOf (value : Floating) : Option Nat :=
  value.parts?.map fun (negative, size, power) => (Floating.decimal negative size power).inUnits 0

/-- The complaint about an operand that is no number. -/
def refuse (text : Chars) (flaw : Flaw) : Step Nat :=
  match flaw with
  | .invalid => misusedWith 1 ("invalid floating point argument: ".toList ++ quoted text)
  | .undefined => misusedWith 1 ("invalid 'not-a-number' argument: ".toList ++ quoted text)

/-- Counts from one number to another in steps. -/
def count (options : Options) (layout? : Option Layout) (first step last : Operand) : Step Nat :=
  let separator := (options.value? 's').getD ['\n']
  let isPlain := layout?.isNone && !options.has 'w' && separator.length = 1
  let isWhole := [first, step, last].all fun operand => operand.places? = some 0
  let wholeStep := (wholeOf step.value).getD 0
  let counts := isPlain && isWhole && !first.value.isNegative && !step.value.isNegative && wholeStep ≠ 0 &&
    wholeStep ≤ greatestStep && first.value.parts?.isSome && !last.value.isNegative
  if counts then
    writeParts separator (wholeChunk ((wholeOf first.value).getD 0) wholeStep (wholeOf last.value)) partLimit 0
  else
    let course : Course :=
      ⟨layout?.getD (standardLayout (options.has 'w') first step last), first.value, step.value, last.value⟩
    writeParts separator (fun done => course.textsFrom chunkSize done) partLimit 0

end Sequence

open Sequence in
/-- Counts. -/
def seq : Tool := fun arguments =>
  match Options.read (taking [('s', "separator"), ('f', "format")] ++ flags [('w', "equal-width")]) true
    (guarded arguments) with
  | .error stop => stop.answer (misusedWith 1)
  | .ok options => do
    let operands := options.operands
    if operands.isEmpty then return ← misused "missing operand"
    if let some extra := operands[3]? then return ← misusedWith 1 ("extra operand ".toList ++ quoted extra)
    orReport ((options.value? 'f').mapM layoutOf) fun layout? => do
      if layout?.isSome && options.has 'w' then
        return ← misused "format string may not be specified when printing equal width strings"
      let separator := (options.value? 's').getD ['\n']
      let stepText := if operands.length = 3 then operands[1]?.getD [] else ['1']
      let step := Chars.toNat stepText
      let counts := layout?.isNone && !options.has 'w' && separator.length = 1 &&
        operands.all isWhole && step ≠ 0 && step ≤ greatestStep
      let first := if operands.length = 1 then 1 else Chars.toNat (operands.headD [])
      let last := Chars.toNat (operands.getLastD [])
      if counts ∧ first ≤ last then
        return ← writeParts separator (wholeChunk first step (some last)) partLimit 0
      let mut numbers := []
      for text in operands do
        match read text with
        | .error flaw => return ← refuse text flaw
        | .ok operand =>
          if numbers.length = 1 ∧ operands.length = 3 ∧ Floating.compare? operand.value (.finite false 0 0) = some .eq then
            return ← misusedWith 1 ("invalid Zero increment value: ".toList ++ quoted text)
          numbers := numbers ++ [operand]
      match numbers with
      | [last] => count options layout? .one .one last
      | [first, last] => count options layout? first .one last
      | first :: step :: last :: _ => count options layout? first step last
      | [] => return 0

end CounterCatalog.Shell.Tool
