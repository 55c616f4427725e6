import CounterCatalog.Shell.Floating

/-!
# Escapes and formats

`echo` and `printf` give a meaning to backslashes: a letter for a control character, or up to three octal
digits for a byte. A format of `printf` is used again until its arguments are used up; an argument that is
missing counts as an empty text or zero.
-/

set_option autoImplicit false

namespace CounterCatalog.Shell.Format

/-- The control character that a letter stands for after a backslash. -/
def control? (c : Char) : Option Char :=
  match c with
  | 'a' => some (Char.ofNat 7)
  | 'b' => some (Char.ofNat 8)
  | 'e' => some (Char.ofNat 27)
  | 'f' => some (Char.ofNat 12)
  | 'n' => some '\n'
  | 'r' => some '\r'
  | 't' => some '\t'
  | 'v' => some (Char.ofNat 11)
  | '\\' => some '\\'
  | _ => none

/-- A digit of base eight. -/
def isOctal (c : Char) : Bool :=
  '0' ≤ c && c ≤ '7'

/-- The character that stands after a backslash at the front of a text, and what follows; a backslash that
means nothing stands for itself. -/
def escape (text : Chars) : Char × Chars :=
  let digits := (text.take 3).takeWhile isOctal
  if digits.isEmpty then
    match text with
    | c :: rest => ((control? c).getD '\\', if (control? c).isSome then rest else text)
    | [] => ('\\', [])
  else (Char.ofNat (Arithmetic.valueIn 8 digits % 256), text.drop digits.length)

/-- A text with its escapes replaced, and whether one of them ends all output; a zero may stand before the
digits of a byte. -/
def unescapeIn : Nat → Chars → Chars × Bool
  | 0, _ => ([], false)
  | _, [] => ([], false)
  | _, '\\' :: 'c' :: _ => ([], true)
  | steps + 1, '\\' :: rest =>
    let digits :=
      match rest with
      | '0' :: d :: more => if isOctal d then d :: more else rest
      | rest => rest
    let (c, after) := escape digits
    let (text, ended) := unescapeIn steps after
    (c :: text, ended)
  | steps + 1, c :: rest =>
    let (text, ended) := unescapeIn steps rest
    (c :: text, ended)

/-- A text with its escapes replaced, and whether one of them ends all output. -/
def unescape (text : Chars) : Chars × Bool :=
  unescapeIn (text.length + 1) text

/-- What `echo` writes for its arguments. -/
def echo (arguments : List Chars) : Chars :=
  let (ending, words) :=
    match arguments with
    | ['-', 'n'] :: words => ([], words)
    | words => (['\n'], words)
  let (text, ended) := unescape ([' '].intercalate words)
  if ended then text else text ++ ending

/-- How a value is set into its place. -/
structure Field where
  /-- It stands at the left of its place. -/
  left : Bool
  /-- A short number gets zeros at its front. -/
  zeros : Bool
  /-- What stands in front of a number that is not negative. -/
  sign : Chars
  /-- A number shows its base. -/
  based : Bool
  /-- The width of the place. -/
  width : Nat
  /-- The number of characters taken, or of digits at least. -/
  precision? : Option Nat

namespace Field

/-- A text in its place. -/
def place (field : Field) (text : Chars) : Chars :=
  let fill := List.replicate (field.width - text.length) ' '
  if field.left then text ++ fill else fill ++ text

/-- A text, or the part of it that is taken, in its place. -/
def placeText (field : Field) (text : Chars) : Chars :=
  field.place (match field.precision? with | some n => text.take n | none => text)

/-- Digits behind a sign in their place; `fills` means that zeros may fill it. -/
def placeDigits (field : Field) (fills : Bool) (sign digits : Chars) : Chars :=
  let zeros :=
    if field.zeros && fills && !field.left then field.width - sign.length - digits.length else 0
  field.place (sign ++ List.replicate zeros '0' ++ digits)

/-- The sign of a number. -/
def signOf (field : Field) (negative : Bool) : Chars :=
  if negative then ['-'] else field.sign

/-- A whole number in its place; where a precision is given, zero may have no digits. -/
def placeNumber (field : Field) (sign : Chars) (base size : Nat) (upper : Bool) : Chars :=
  let plain := if size = 0 ∧ field.precision? = some 0 then [] else Nat.toDigits base size
  let least := (field.precision?).getD 0
  let digits := List.replicate (least - plain.length) '0' ++ plain
  let digits := if field.based ∧ base = 8 ∧ digits.head? ≠ some '0' then '0' :: digits else digits
  let sign := if field.based ∧ base = 16 ∧ size ≠ 0 then sign ++ ['0', 'x'] else sign
  let text := field.placeDigits field.precision?.isNone sign digits
  if upper then text.map Char.toUpper else text

/-- A number of a machine in its place; only a finite one is filled up with zeros. -/
def placeFloating (field : Field) (precision : Precision) (kind : Char) (value : Floating) : Chars :=
  let text := value.shown precision kind field.precision? field.based
  let front := if text.take 2 = ['0', 'x'] ∨ text.take 2 = ['0', 'X'] then text.take 2 else []
  field.placeDigits value.parts?.isSome (field.signOf value.isNegative ++ front) (text.drop front.length)

end Field

/-- The use of a format. -/
structure Printing where
  /-- The arguments that are left. -/
  left : List Chars
  /-- What has been written, last piece first. -/
  pieces : List Chars
  /-- The complaints so far, last one first. -/
  complaints : List Chars

/-- Why a format is not used to its end. -/
inductive Stop where
  /-- An escape ends all output. -/
  | quiet
  /-- The format is faulty. -/
  | fault (reason : Chars)

/-- A step in the use of a format. -/
abbrev Print (α : Type) := ExceptT Stop (StateM Printing) α

/-- Writes a text. -/
def emit (text : Chars) : Print Unit :=
  modify fun printing => { printing with pieces := text :: printing.pieces }

/-- Complains about an argument. -/
def complain (argument : Chars) (reason : String) : Print Unit :=
  modify fun printing =>
    { printing with complaints := (argument ++ ": ".toList ++ reason.toList) :: printing.complaints }

/-- The next argument, if there is one. -/
def next? : Print (Option Chars) := do
  let printing ← get
  set { printing with left := printing.left.tail }
  return printing.left.head?

/-- Complains about what is left of an argument behind the number in it, or about there being no number. -/
def checkRest (argument rest : Chars) (found : Bool) : Print Unit := do
  unless rest.isEmpty do
    complain argument (if found then "not completely converted" else "expected numeric value")

/-- The next argument as a whole number: a character behind a quote, or a number between bounds. -/
def nextInteger (low high : Int) : Print Int := do
  match ← next? with
  | none => return 0
  | some (c :: rest) =>
    if c = '\x22' ∨ c = '\x27' then return (((rest.head?).map Char.toNat).getD 0 : Nat)
    match Arithmetic.integer? (c :: rest) with
    | none =>
      checkRest (c :: rest) (c :: rest) false
      return 0
    | some (value, left) =>
      checkRest (c :: rest) left true
      if left.isEmpty ∧ (value < low ∨ high < value) then
        complain (c :: rest) "Numerical result out of range"
      return max low (min high value)
  | some [] => return 0

/-- The next argument as a number that need not be whole. -/
def nextFloating : Print Floating := do
  match ← next? with
  | none | some [] => return .finite false 0 0
  | some (c :: rest) =>
    if c = '\x22' ∨ c = '\x27' then return .finite false (((rest.head?).map Char.toNat).getD 0) 0
    match Floating.read? .double (c :: rest) with
    | none =>
      checkRest (c :: rest) (c :: rest) false
      return .finite false 0 0
    | some reading =>
      checkRest (c :: rest) reading.rest true
      if reading.rest.isEmpty ∧ reading.isOutside then complain (c :: rest) "Numerical result out of range"
      return reading.value

/-- A number that stands in the format, or the next argument for a star; and what follows it. -/
def size (text : Chars) : Print (Int × Chars) := do
  match text with
  | '*' :: rest => return (← nextInteger Number.least Number.greatest, rest.dropWhile Char.isDigit)
  | text =>
    let digits := text.takeWhile Char.isDigit
    return (Chars.toNat digits, text.drop digits.length)

/-- The field that stands after a percent sign, and the rest. -/
def field (text : Chars) : Print (Field × Chars) := do
  let flags := text.takeWhile fun c => ['-', '0', '+', ' ', '#'].contains c
  let (width, rest) ← size (text.drop flags.length)
  let (precision?, rest) ←
    match rest with
    | '.' :: rest => do
      let (precision, rest) ← size rest
      pure (if precision < 0 then none else some precision.toNat, rest)
    | rest => pure (none, rest)
  let sign := if flags.contains '+' then ['+'] else if flags.contains ' ' then [' '] else []
  return (⟨flags.contains '-' || width < 0, flags.contains '0', sign, flags.contains '#', width.natAbs,
    precision?⟩, rest)

/-- Writes the next argument as one conversion says, of which the text is given as well. -/
def convert (field : Field) (kind : Char) (conversion : Chars) : Print Unit := do
  let natural := fun (base : Nat) (upper : Bool) => do
    let value ← nextInteger (1 - Number.modulus) (Number.modulus - 1)
    emit (field.placeNumber [] base (value % Number.modulus).toNat upper)
  match kind with
  | 's' => emit (field.placeText ((← next?).getD []))
  | 'b' =>
    let (text, ended) := unescape ((← next?).getD [])
    emit (field.placeText text)
    if ended then throw .quiet
  | 'c' =>
    let c := (((← next?).getD []).head?).getD (Char.ofNat 0)
    emit (field.place [c])
  | 'd' | 'i' =>
    let value ← nextInteger Number.least Number.greatest
    emit (field.placeNumber (field.signOf (value < 0)) 10 value.natAbs false)
  | 'u' => natural 10 false
  | 'o' => natural 8 false
  | 'x' => natural 16 false
  | 'X' => natural 16 true
  | 'a' | 'A' | 'e' | 'E' | 'f' | 'F' | 'g' | 'G' => emit (field.placeFloating .double kind (← nextFloating))
  | _ => throw (.fault (conversion ++ ": invalid directive".toList))

/-- Uses a format once, given at least as many steps as it has characters. -/
def pass : Nat → Chars → Print Unit
  | 0, _ => return ()
  | _, [] => return ()
  | steps + 1, '\\' :: rest => do
    let (c, rest) := escape rest
    emit [c]
    pass steps rest
  | steps + 1, '%' :: '%' :: rest => do
    emit ['%']
    pass steps rest
  | steps + 1, '%' :: rest => do
    let (field, after) ← field rest
    match after with
    | [] => throw (.fault "missing format character".toList)
    | kind :: after =>
      convert field kind ('%' :: rest.take (rest.length - after.length))
      pass steps after
  | steps + 1, c :: rest => do
    emit [c]
    pass steps rest

/-- Uses a format as long as that uses up arguments, for a number of rounds at most. -/
def rounds (format : Chars) : Nat → Print Unit
  | 0 => return ()
  | count + 1 => do
    let before := (← get).left.length
    pass (format.length + 1) format
    let after := (← get).left.length
    if after ≠ 0 ∧ after ≠ before then rounds format count

/-- What `printf` writes, its complaints, and what stopped it if it was the format. -/
def printf (format : Chars) (arguments : List Chars) : Chars × List Chars × Option Chars :=
  let (result, printing) := (rounds format (arguments.length + 1)).run ⟨arguments, [], []⟩
  let fault? :=
    match result with
    | .error (.fault reason) => some reason
    | _ => none
  (printing.pieces.reverse.flatten, printing.complaints.reverse, fault?)

end CounterCatalog.Shell.Format
