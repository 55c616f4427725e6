import CounterCatalog.Shell.Tool.Sorting.Key

/-!
# Sorting lines

`sort` writes the lines of files in order, joins files that are in order already, or tells whether a file is. Lines
that compare the same by all keys are compared byte by byte, unless that is not wanted.
-/

set_option autoImplicit false

namespace CounterCatalog.Shell.Tool

open Step

namespace Sorting

/-- What lines are sorted by. -/
structure Plan where
  /-- The keys. -/
  keys : List Key
  /-- What separates fields. -/
  separator? : Option Char
  /-- Lines that compare the same by all keys are not compared any more. -/
  ends : Bool
  /-- Of lines that compare the same only one is kept. -/
  unique : Bool
  /-- The order is turned round where no key says how to compare. -/
  reversed : Bool

/-- A line with what is compared of it. -/
structure Item where
  /-- The line. -/
  line : Chars
  /-- The values of the keys. -/
  values : List Value

namespace Plan

/-- A line with what is compared of it. -/
def item (plan : Plan) (line : Chars) : Item :=
  ⟨line, plan.keys.map fun key => key.value plan.separator? line⟩

/-- How values compare by keys, of which the first that tells them apart decides. -/
def compareValues : List Key → List Value → List Value → Ordering
  | key :: keys, a :: first, b :: second =>
    match a.compare b with
    | .eq => compareValues keys first second
    | order => if key.order.reversed then order.swap else order
  | _, _, _ => .eq

/-- How two lines compare. -/
def compare (plan : Plan) (a b : Item) : Ordering :=
  let order := compareValues plan.keys a.values b.values
  if order ≠ .eq ∨ (plan.ends ∧ !plan.keys.isEmpty) then order
  else
    let order := Value.compareTexts a.line b.line
    if plan.reversed then order.swap else order

/-- A line comes no later than another. -/
def isBefore (plan : Plan) (a b : Item) : Bool :=
  plan.compare a b != .gt

/-- Lines in order without those that compare the same as the one before, if they are not wanted. -/
def kept (plan : Plan) (items : List Item) : List Item :=
  if plan.unique then
    (items.foldl (fun (kept : List Item) item =>
      match kept with
      | last :: _ => if plan.compare last item = .eq then kept else item :: kept
      | [] => [item]) []).reverse
  else items

/-- Lines of several texts in order, where each text is in order; given at least as many steps as there are lines,
and the lines so far, the last one first. -/
def mergeIn (plan : Plan) : Nat → List Item → List (List Item) → List Item
  | 0, found, _ => found.reverse
  | steps + 1, found, texts =>
    let texts := texts.filter fun text => !text.isEmpty
    let least? := (texts.filterMap List.head?).zipIdx.foldl (fun (best? : Option (Item × Nat)) item =>
      match best? with
      | some best => if plan.compare item.1 best.1 = .lt then some item else some best
      | none => some item) none
    match least? with
    | none => found.reverse
    | some (item, place) => mergeIn plan steps (item :: found) (texts.modify place List.tail)

/-- The lines of texts as they are written: joined if the texts are in order, and sorted otherwise. -/
def sorted (plan : Plan) (merges : Bool) (texts : List (List Chars)) : List Chars :=
  let items := texts.map fun text => text.map plan.item
  let ordered :=
    if merges then plan.mergeIn (Number.total (items.map List.length) + 1) [] items
    else items.flatten.mergeSort plan.isBefore
  (plan.kept ordered).map Item.line

/-- The first line that does not stand in order, with its number, given the number of the first line. -/
def disorder? (plan : Plan) : Nat → List Item → Option (Nat × Chars)
  | number, a :: b :: rest =>
    let order := plan.compare a b
    if order = .gt ∨ (plan.unique ∧ order = .eq) then some (number + 1, b.line)
    else disorder? plan (number + 1) (b :: rest)
  | _, _ => none

end Plan

/-- What separates fields, as options say. -/
def separatorOf (options : Options) : Except Chars (Option Char) := do
  let separators ← (options.values 't').mapM fun text =>
    match text with
    | [] => throw "empty tab".toList
    | [c] => pure c
    | ['\\', '0'] => pure '\x00'
    | text => throw ("multi-character tab ".toList ++ quoted text)
  if 1 < separators.eraseDups.length then throw "incompatible tabs".toList
  return separators.head?

/-- What lines are sorted by, as options say. -/
def planOf (options : Options) : Except Chars Plan := do
  let separator? ← separatorOf options
  let keys ← (options.values 'k').mapM Key.read
  let order := (options.found.map Prod.fst).foldl (Order.add true true) .plain
  let inherit := fun key : Key =>
    if key.order.isStandard ∧ key.order.reversed = false then { key with order := order } else key
  let keys := if keys.isEmpty then (if order.isStandard then [] else [Key.whole order]) else keys.map inherit
  if let some letters := keys.findSome? fun key => key.order.conflict? then
    throw ("options '-".toList ++ letters ++ "' are incompatible".toList)
  return ⟨keys, separator?, options.hasAny "su", options.has 'u', order.reversed⟩

/-- The words for ways to sort, each with its letter. -/
def ways : List (String × Char) :=
  [("general-numeric", 'g'), ("human-numeric", 'h'), ("month", 'M'), ("numeric", 'n'), ("random", 'R'),
    ("version", 'V')]

/-- The words for ways to check, each with its letter. -/
def checks : List (String × Char) :=
  [("quiet", 'C'), ("silent", 'C'), ("diagnose-first", 'c')]

/-- The flags of `sort`. -/
def known : List Flag :=
  taking [('k', "key"), ('t', "field-separator"), ('o', "output"), ('S', "buffer-size"), ('T', "temporary-directory"),
    ('ṡ', "sort"), ('ṗ', "parallel"), ('ḃ', "batch-size"), ('ṙ', "random-source")] ++
  perhaps [('ċ', "check")] ++
  flags [('n', "numeric-sort"), ('g', "general-numeric-sort"), ('h', "human-numeric-sort"), ('M', "month-sort"),
    ('R', "random-sort"), ('V', "version-sort"), ('r', "reverse"), ('u', "unique"), ('f', "ignore-case"),
    ('b', "ignore-leading-blanks"), ('c', ""), ('C', ""), ('s', "stable"), ('m', "merge"),
    ('d', "dictionary-order"), ('i', "ignore-nonprinting"), ('z', "zero-terminated")]

/-- The options with the letters for those that are words. -/
def lettered : List (Char × Chars) → Step (Option (List (Char × Chars)))
  | [] => return some []
  | (letter, word) :: rest => do
    let found? ←
      if letter = 'ṡ' then choice "--sort" ways word
      else if letter = 'ċ' ∧ !word.isEmpty then choice "--check" checks word
      else pure (some (if letter = 'ċ' then 'c' else letter))
    let some found := found? | return none
    return (← lettered rest).map fun others =>
      (found, if letter = 'ṡ' ∨ letter = 'ċ' then [] else word) :: others

/-- Tells whether a file is in order. -/
def check (options : Options) (plan : Plan) (file : Chars) : Step Nat := do
  match ← contentOf file with
  | .error .isADirectory =>
    report ("read failed: ".toList ++ fileName file ++ ": Is a directory".toList)
    return 2
  | .error fault =>
    report ("open failed: ".toList ++ fileName file ++ ": ".toList ++ fault.reason.toList)
    return 2
  | .ok content =>
    let lines := records (recordEnd options) (Chars.ofBytes content)
    match plan.disorder? 1 (lines.map plan.item) with
    | none => return 0
    | some (number, line) =>
      unless options.has 'C' do
        report (file ++ ":".toList ++ Chars.ofNat number ++ ": disorder: ".toList ++ line)
      return 1

/-- Writes the lines of files in order. -/
def run (options : Options) (plan : Plan) : Step Nat := do
  let fail (message : Chars) : Step Nat := do
    report message
    return 2
  let files := inputs options.operands
  let ending := recordEnd options
  for file in files do
    if file ≠ ['-'] then
      if let .error fault := (← get).openToRead file then
        if fault ≠ .isADirectory then
          return ← fail ("cannot read: ".toList ++ fileName file ++ ": ".toList ++ fault.reason.toList)
  let mut texts := []
  for file in files do
    match ← contentOf file with
    | .ok content => texts := records ending (Chars.ofBytes content) :: texts
    | .error .isADirectory => return ← fail ("read failed: ".toList ++ fileName file ++ ": Is a directory".toList)
    | .error fault => return ← fail ("read failed: ".toList ++ fileName file ++ ": ".toList ++ fault.reason.toList)
  let lines := plan.sorted (options.has 'm') texts.reverse
  if let some path := options.value? 'o' then
    if let .error fault ← redirectOutput path then
      return ← fail ("open failed: ".toList ++ fileName path ++ ": ".toList ++ fault.reason.toList)
  match ← answer 0 (ended ending lines) with
  | 0 => return 0
  | _ => return 2

end Sorting

open Sorting in
/-- Writes the lines of files in order, or tells whether they are. -/
def sort : Tool := fun arguments => do
  match Options.read known false arguments with
  | .error stop => stop.answer (misusedWith 2)
  | .ok options =>
    let some found ← lettered options.found | return 2
    let options : Options := { options with found := found }
    if options.has 'c' && options.has 'C' then
      report "options '-cC' are incompatible".toList
      return 2
    if 1 < (options.values 'o').eraseDups.length then
      report "multiple output files specified".toList
      return 2
    match planOf options with
    | .error message =>
      report message
      return 2
    | .ok plan =>
      if options.hasAny "cC" then
        let letter := if options.has 'c' then 'c' else 'C'
        if let some extra := options.operands[1]? then
          report ("extra operand ".toList ++ quoted extra ++ " not allowed with -".toList ++ [letter])
          return 2
        if options.has 'o' then
          report ("options '-".toList ++ [letter] ++ "o' are incompatible".toList)
          return 2
        return ← check options plan ((options.operands.head?).getD ['-'])
      run options plan

end CounterCatalog.Shell.Tool
