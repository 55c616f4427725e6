import CounterCatalog.Shell.Floating
import CounterCatalog.Shell.Tool.Common
import CounterCatalog.Shell.Tool.Sorting.Version

/-!
# Keys that lines are sorted by

A key is a part of a line and a way to compare it. `Key.value` gives what is compared, and `Value.compare` compares
two such values; numbers are read once for each line.
-/

set_option autoImplicit false

namespace CounterCatalog.Shell.Tool.Sorting

/-- How keys are compared. -/
structure Order where
  /-- Blanks in front of the beginning do not count. -/
  skipsFront : Bool
  /-- Blanks in front of the end do not count. -/
  skipsBack : Bool
  /-- Only blanks, letters and digits count. -/
  words : Bool
  /-- Only what can be printed counts. -/
  printed : Bool
  /-- Small letters are like capital ones. -/
  folded : Bool
  /-- The keys are whole numbers or numbers with a point. -/
  numeric : Bool
  /-- The keys are numbers as machines write them. -/
  general : Bool
  /-- The keys are numbers with letters for their sizes. -/
  human : Bool
  /-- The keys are the names of months. -/
  month : Bool
  /-- The keys are versions. -/
  version : Bool
  /-- Keys that are the same stand together, in no order that matters. -/
  shuffled : Bool
  /-- The order is turned round. -/
  reversed : Bool
deriving DecidableEq

namespace Order

/-- Keys are compared byte by byte. -/
def plain : Order :=
  ⟨false, false, false, false, false, false, false, false, false, false, false, false⟩

/-- The order with what a letter adds; blanks that do not count are those in front of the beginning, of the end, or
of both. -/
def add (front back : Bool) (order : Order) (letter : Char) : Order :=
  match letter with
  | 'b' => { order with skipsFront := order.skipsFront || front, skipsBack := order.skipsBack || back }
  | 'd' => { order with words := true, printed := false }
  | 'i' => { order with printed := !order.words }
  | 'f' => { order with folded := true }
  | 'n' => { order with numeric := true }
  | 'g' => { order with general := true }
  | 'h' => { order with human := true }
  | 'M' => { order with month := true }
  | 'V' => { order with version := true }
  | 'R' => { order with shuffled := true }
  | 'r' => { order with reversed := true }
  | _ => order

/-- The letters that say how keys are compared. -/
def letters : String := "bdfghiMnRrV"

/-- Nothing is said but perhaps that the order is turned round. -/
def isStandard (order : Order) : Bool :=
  { order with reversed := false } = plain

/-- The letters for an order that cannot be, if it is one. -/
def conflict? (order : Order) : Option Chars :=
  let kinds := [order.numeric, order.general, order.human, order.month,
    order.version || order.shuffled || order.words || order.printed]
  if (kinds.filter id).length ≤ 1 then none
  else
    some ([('d', order.words), ('f', order.folded), ('g', order.general), ('h', order.human), ('i', order.printed),
      ('M', order.month), ('n', order.numeric), ('R', order.shuffled), ('V', order.version)].filterMap fun item =>
        if item.2 then some item.1 else none)

end Order

/-- A part of a line and how it is compared. -/
structure Key where
  /-- The number of fields in front of the beginning, if it is not the beginning of the line. -/
  field? : Option Nat
  /-- The number of characters in front of it in its field. -/
  character : Nat
  /-- The number of fields in front of the end, if it is not the end of the line. -/
  lastField? : Option Nat
  /-- The number of characters that belong to the key in its last field, or zero for all. -/
  lastCharacter : Nat
  /-- How it is compared. -/
  order : Order
deriving DecidableEq

namespace Key

/-- A whole line. -/
def whole (order : Order) : Key := ⟨none, 0, none, 0, order⟩

/-! ## Reading keys -/

/-- The number at the front of a text, and what follows. -/
def numberOf (problem : String) (text : Chars) : Except Chars (Nat × Chars) :=
  let shown := text.dropWhile Char.isWhitespace
  let shown := if shown.head? = some '+' then shown.tail else shown
  let digits := shown.takeWhile Char.isDigit
  if digits.isEmpty then
    .error (problem.toList ++ ": invalid count at start of ".toList ++ quoted text)
  else .ok (min greatestSize (Chars.toNat digits), shown.drop digits.length)

/-- Something is wrong with a key. -/
def bad {α : Type} (text : Chars) (problem : String) : Except Chars α :=
  .error (problem.toList ++ ": invalid field specification ".toList ++ quoted text)

/-- The order with what letters at the front of a text add, and what follows. -/
def orderOf (front back : Bool) (order : Order) (text : Chars) : Order × Chars :=
  let letters := text.takeWhile Order.letters.toList.contains
  (letters.foldl (Order.add front back) order, text.drop letters.length)

/-- The key that a text describes. -/
def read (text : Chars) : Except Chars Key := do
  let (field, rest) ← numberOf "invalid number at field start" text
  if field = 0 then bad text "field number is zero"
  let (character, rest) ←
    match rest with
    | '.' :: rest => do
      let (character, rest) ← numberOf "invalid number after '.'" rest
      if character = 0 then bad text "character offset is zero"
      pure (character - 1, rest)
    | rest => pure (0, rest)
  let field? := if field = 1 ∧ character = 0 then none else some (field - 1)
  let (order, rest) := orderOf true false .plain rest
  match rest with
  | ',' :: rest => do
    let (last, rest) ← numberOf "invalid number after ','" rest
    if last = 0 then bad text "field number is zero"
    let (lastCharacter, rest) ←
      match rest with
      | '.' :: rest => numberOf "invalid number after '.'" rest
      | rest => pure (0, rest)
    let (order, rest) := orderOf false true order rest
    if !rest.isEmpty then bad text "stray character in field spec"
    return ⟨field?, character, some (last - 1), lastCharacter, order⟩
  | [] => return ⟨field?, character, none, 0, order⟩
  | _ => bad text "stray character in field spec"

/-! ## The part of a line -/

/-- A blank between fields. -/
def isGap (c : Char) : Bool :=
  c = ' ' || c = '\t' || c = '\n'

/-- What is left of a text behind a field and the separator that ends it; without a separator, blanks in front of a
field belong to it. -/
def behindField (separator? : Option Char) (text : Chars) : Chars :=
  match separator? with
  | some separator => (text.dropWhile fun c => c ≠ separator).tail
  | none => (text.dropWhile isGap).dropWhile fun c => !isGap c

/-- What is left of a text behind a number of fields. -/
def behind (separator? : Option Char) : Nat → Chars → Chars
  | 0, text => text
  | count + 1, text => if text.isEmpty then [] else behind separator? count (behindField separator? text)

/-- What is left of a text behind a number of fields, with the separator behind the last of them. -/
def behindBare (separator? : Option Char) : Nat → Chars → Chars
  | 0, text => text
  | count + 1, text =>
    match separator? with
    | none => behind none (count + 1) text
    | some separator =>
      if text.isEmpty then []
      else (behind separator? count text).dropWhile fun c => c ≠ separator

/-- What is left of a line where a key begins. -/
def start (key : Key) (separator? : Option Char) (line : Chars) : Chars :=
  let rest := behind separator? (key.field?.getD 0) line
  let rest := if key.order.skipsFront then rest.dropWhile isGap else rest
  rest.drop key.character

/-- What is left of a line where a key ends. -/
def stop (key : Key) (separator? : Option Char) (line : Chars) : Chars :=
  match key.lastField? with
  | none => []
  | some field =>
    if key.lastCharacter = 0 then behindBare separator? (field + 1) line
    else
      let rest := behind separator? field line
      let rest := if key.order.skipsBack then rest.dropWhile isGap else rest
      rest.drop key.lastCharacter

/-- The part of a line that a key compares. -/
def part (key : Key) (separator? : Option Char) (line : Chars) : Chars :=
  let rest := key.start separator? line
  rest.take (rest.length - (key.stop separator? line).length)

end Key

/-! ## Values -/

/-- What is compared of a key. -/
inductive Value where
  /-- A text. -/
  | text (text : Chars)
  /-- A number: its size, with the number of digits behind the point that it is counted in. -/
  | number (size : Int) (places : Nat)
  /-- A number with the rank of the letter behind it. -/
  | scaled (rank : Int) (size : Int) (places : Nat)
  /-- A number of a machine, if it is one, and the text that it was read from. -/
  | machine (value? : Option Floating)
  /-- The number of a month, or zero. -/
  | month (number : Nat)
  /-- A version. -/
  | version (name : Chars)

namespace Value

/-- The digits at the front of a text behind a sign, with a point among them perhaps: whether the sign is a minus,
the digits, those behind the point, and what follows. -/
def digits (text : Chars) : Bool × Chars × Chars × Chars :=
  let negative := text.head? = some '-'
  let text := if negative then text.tail else text
  let whole := text.takeWhile Char.isDigit
  let rest := text.drop whole.length
  if rest.head? = some '.' then
    let part := rest.tail.takeWhile Char.isDigit
    (negative, whole, part, rest.drop (part.length + 1))
  else (negative, whole, [], rest)

/-- The number at the front of a text, behind blanks, and its digits behind the point. -/
def numberOf (text : Chars) : Int × Nat :=
  let (negative, whole, part, _) := digits (text.dropWhile Key.isGap)
  (Floating.signed negative (Chars.toNat (whole ++ part)), part.length)

/-- The rank of the letter behind the number at the front of a text. -/
def unitRank (text : Chars) : Int :=
  let (negative, whole, part, rest) := digits (text.dropWhile Key.isGap)
  if (whole ++ part).all fun c => c = '0' then 0
  else
    let units := "KMGTPEZY".toList
    let letter := match rest with | 'k' :: _ => 'K' | c :: _ => c | [] => ' '
    let rank := ((units.findIdx? fun c => c = letter).map (· + 1)).getD 0
    Floating.signed negative rank

/-- The months. -/
def months : List Chars :=
  ["JAN", "FEB", "MAR", "APR", "MAY", "JUN", "JUL", "AUG", "SEP", "OCT", "NOV", "DEC"].map String.toList

/-- The number of the month that a text begins with. -/
def monthOf (text : Chars) : Nat :=
  let name := ((text.dropWhile Key.isGap).take 3).map Char.toUpper
  ((months.findIdx? fun month => month = name).map (· + 1)).getD 0

/-- What is compared of a part of a line. -/
def of (order : Order) (part : Chars) : Value :=
  let part := if order.words then part.filter fun c => c.isAlphanum || c = ' ' || c = '\t' else part
  let part := if order.printed then part.filter isPrinted else part
  let part := if order.folded then part.map Char.toUpper else part
  if order.numeric then
    let (size, places) := numberOf part
    number size places
  else if order.general then machine ((Floating.read? .extended part).map Floating.Reading.value)
  else if order.human then
    let (size, places) := numberOf part
    scaled (unitRank part) size places
  else if order.month then month (monthOf part)
  else if order.version then version part
  else text part

/-- How two texts compare, byte by byte. -/
def compareTexts : Chars → Chars → Ordering
  | [], [] => .eq
  | [], _ :: _ => .lt
  | _ :: _, [] => .gt
  | a :: first, b :: second =>
    if a = b then compareTexts first second else if a < b then .lt else .gt

/-- How two numbers compare, each counted in units of a power of ten. -/
def compareNumbers (a : Int) (places : Nat) (b : Int) (others : Nat) : Ordering :=
  if places = others then Ord.compare a b
  else Ord.compare (a * Number.tenTo others) (b * Number.tenTo places)

/-- How two numbers of a machine compare: first what is no number at all, then undefined ones, then the others. -/
def compareMachine : Option Floating → Option Floating → Ordering
  | none, none => .eq
  | none, some _ => .lt
  | some _, none => .gt
  | some a, some b =>
    match Floating.compare? a b with
    | some order => order
    | none =>
      let isUndefined := fun value : Floating => value matches .undefined _
      if isUndefined a = isUndefined b then .eq else if isUndefined a then .lt else .gt

/-- How two values compare. -/
def compare (a b : Value) : Ordering :=
  match a, b with
  | text a, text b => compareTexts a b
  | number a places, number b others => compareNumbers a places b others
  | scaled rank a places, scaled other b others =>
    (Ord.compare rank other).then (compareNumbers a places b others)
  | machine a, machine b => compareMachine a b
  | month a, month b => Ord.compare a b
  | version a, version b => Version.compareNames a b
  | _, _ => .eq

end Value

/-- What is compared of a line by a key. -/
def Key.value (key : Key) (separator? : Option Char) (line : Chars) : Value :=
  Value.of key.order (key.part separator? line)

end CounterCatalog.Shell.Tool.Sorting
