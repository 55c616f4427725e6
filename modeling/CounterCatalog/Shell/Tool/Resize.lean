import CounterCatalog.Shell.Tool.Common

/-!
# Giving files a size

`truncate` cuts files off or fills them up with zeros, to a size that is given as it is, or by how it is to
differ from the size that a file has.
-/

set_option autoImplicit false

namespace CounterCatalog.Shell.Tool

open Step

namespace Resize

/-- How a size is meant. -/
inductive Measure where
  /-- As the new size. -/
  | exactly
  /-- As what is added to the size. -/
  | more
  /-- As the greatest size. -/
  | atMost
  /-- As the least size. -/
  | atLeast
  /-- As that of which the size is to be a multiple, which is not above the size before. -/
  | downTo
  /-- As that of which the size is to be a multiple, which is not below the size before. -/
  | upTo
deriving DecidableEq

/-- The new size of a file that has a size. -/
def Measure.apply (measure : Measure) (amount : Int) (size : Nat) : Nat :=
  let size : Int := size
  Int.toNat <|
    match measure with
    | exactly => amount
    | more => size + amount
    | atMost => min size amount
    | atLeast => max size amount
    | downTo => size - size.emod amount
    | upTo => if size.emod amount = 0 then size else size + (amount - size.emod amount)

/-- A text without the blanks in front of it. -/
def trimmed (text : Chars) : Chars :=
  text.dropWhile Char.isWhitespace

/-- The way in which a size is meant by a sign in front of it, and the rest of the text. -/
def split (text : Chars) : Measure × Chars :=
  match trimmed text with
  | '<' :: rest => (.atMost, trimmed rest)
  | '>' :: rest => (.atLeast, trimmed rest)
  | '/' :: rest => (.downTo, trimmed rest)
  | '%' :: rest => (.upTo, trimmed rest)
  | rest => (.exactly, rest)

/-- A size with its sign; letters behind it multiply it. -/
def amount? (text : Chars) : Except SizeFlaw Int :=
  let signed := text.head? = some '-' || text.head? = some '+'
  let digits := if signed then text.tail else text
  let letters := digits.dropWhile Char.isDigit
  let letters :=
    match letters with
    | 'g' :: rest => 'G' :: rest
    | 't' :: rest => 'T' :: rest
    | letters => letters
  if letters = ['b'] ∨ (signed && !(digits.head?).any Char.isDigit) ∨ digits.head? = some '+' then .error .invalid
  else
    match size? true (digits.takeWhile Char.isDigit ++ letters) with
    | .error flaw => .error flaw
    | .ok size =>
      if greatestSize / 2 < size then .error .large
      else .ok (if text.head? = some '-' then -(size : Int) else size)

/-- A content with another size: without its end, or with zeros behind it. -/
def resized (size : Nat) (content : List UInt8) : List UInt8 :=
  content.take size ++ List.replicate (size - content.length) 0

/-- The size of the blocks in which files are stored. -/
def blockSize : Nat := 4096

/-- Gives a file a size, given the size that it is to be measured by, if that is not its own. -/
def resize (measure : Measure) (amount : Int) (present? : Option Nat) (create : Bool) (path : Chars) :
    Step Bool := do
  let machine ← get
  if !create && !machine.tree.pathExists machine.directory path.bytes then return true
  match machine.openToWrite path id with
  | .error fault =>
    report ("cannot open ".toList ++ quoted path ++ " for writing: ".toList ++ fault.reason.toList)
    return false
  | .ok (opening, machine) =>
    set machine
    let size := fun content : List UInt8 => measure.apply amount (present?.getD content.length)
    match opening.source with
    | .file handle =>
      if let some (.file content mode) := machine.tree.get? handle then
        set { machine with tree := machine.tree.set handle (.file (resized (size content) content) mode) }
      return true
    | _ =>
      report ("failed to truncate ".toList ++ quoted path ++ " at ".toList ++ Chars.ofNat (size []) ++
        " bytes: ".toList ++ Fault.invalid.reason.toList)
      return false

end Resize

/-- Gives files a size. -/
def truncate : Tool := fun arguments =>
  withOptions (taking [('r', "reference"), ('s', "size")] ++ flags [('c', "no-create"), ('o', "io-blocks")])
    arguments fun options => do
    let mut measure := Resize.Measure.exactly
    let mut amount : Int := 0
    for text in options.values 's' do
      let (found, rest) := Resize.split text
      if found ≠ .exactly then measure := found
      if rest.head? = some '+' ∨ rest.head? = some '-' then
        if measure ≠ .exactly then return ← misused "multiple relative modifiers specified"
        measure := .more
      match Resize.amount? rest with
      | .error flaw =>
        report ("Invalid number: ".toList ++ quoted rest ++ flaw.ending)
        return 1
      | .ok value => amount := value
      if (measure = .upTo ∨ measure = .downTo) ∧ amount = 0 then
        report "division by zero".toList
        return 1
    let reference? := options.value? 'r'
    if reference?.isNone ∧ !options.has 's' then
      return ← misused "you must specify either '--size' or '--reference'"
    if reference?.isSome ∧ options.has 's' ∧ measure = .exactly then
      return ← misused "you must specify a relative '--size' with '--reference'"
    if options.has 'o' ∧ !options.has 's' then return ← misused "'--io-blocks' was specified but '--size' was not"
    if options.operands.isEmpty then return ← misused "missing file operand"
    if options.has 'o' then amount := amount * Resize.blockSize
    let machine ← get
    match reference? with
    | none => forAll options.operands (Resize.resize measure amount none (!options.has 'c'))
    | some reference =>
      match machine.tree.locate machine.directory reference.bytes with
      | .error fault =>
        report ("cannot stat ".toList ++ quoted reference ++ ": ".toList ++ fault.reason.toList)
        return 1
      | .ok (handle, _) =>
        let size := machine.fileSize handle
        if options.has 's' then
          forAll options.operands (Resize.resize measure amount (some size) (!options.has 'c'))
        else forAll options.operands (Resize.resize .exactly size none (!options.has 'c'))

end CounterCatalog.Shell.Tool
