import CounterCatalog.Shell.Format
import CounterCatalog.Shell.Tool.Common

/-!
# Writing arguments

`echo` and `printf` as programs, which know more escapes and conversions than the commands of the shell do, and
complain in their own words. What has been written stands in front of the complaints about what follows.
-/

set_option autoImplicit false

namespace CounterCatalog.Shell.Tool

open Step

namespace Print

/-! ## Escapes -/

/-- What an escape comes to. -/
inductive Escape where
  /-- A text, and what follows it. -/
  | text (text rest : Chars)
  /-- Nothing more is written. -/
  | ends
  /-- It is faulty. -/
  | fault (message : Chars)

/-- A digit of base sixteen. -/
def isHexadecimal (c : Char) : Bool :=
  Arithmetic.digitValue c < 16

/-- The byte that digits of a base stand for. -/
def byteOf (base : Nat) (digits : Chars) : Char :=
  Char.ofNat (Arithmetic.valueIn base digits % 256)

/-- A number in base sixteen with zeros in front of it. -/
def hexadecimal (width : Nat) (number : Nat) : Chars :=
  let digits := Nat.toDigits 16 number
  List.replicate (width - digits.length) '0' ++ digits

/-- A character by its number in a set that has all of them; one that is no byte is shown by its number. -/
def characterEscape (letter : Char) (rest : Chars) : Escape :=
  let size := if letter = 'u' then 4 else 8
  let digits := (rest.take size).takeWhile isHexadecimal
  let number := Arithmetic.valueIn 16 digits
  if digits.length < size then .fault "missing hexadecimal number in escape".toList
  else if (number ≤ 0x9F ∧ number ≠ 0x24 ∧ number ≠ 0x40 ∧ number ≠ 0x60) ∨ (0xD800 ≤ number ∧ number ≤ 0xDFFF) then
    .fault ("invalid universal character name \\".toList ++ [letter] ++ hexadecimal size number)
  else
    let shown :=
      if number < 128 then [Char.ofNat number]
      else if number < 0x10000 then ['\\', 'u'] ++ (hexadecimal 4 number).map Char.toUpper
      else ['\\', 'U'] ++ (hexadecimal 8 number).map Char.toUpper
    .text shown (rest.drop size)

/-- The escape at the front of a text, behind its backslash; a zero may stand before the digits of a byte. -/
def escape (zeros : Bool) (text : Chars) : Escape :=
  match text with
  | [] => .text ['\\'] []
  | 'x' :: rest =>
    let digits := (rest.take 2).takeWhile isHexadecimal
    if digits.isEmpty then .fault "missing hexadecimal number in escape".toList
    else .text [byteOf 16 digits] (rest.drop digits.length)
  | 'c' :: _ => .ends
  | c :: rest =>
    if Format.isOctal c then
      let rest := if zeros ∧ c = '0' then rest else c :: rest
      let digits := (rest.take 3).takeWhile Format.isOctal
      .text [byteOf 8 digits] (rest.drop digits.length)
    else if c = 'u' ∨ c = 'U' then characterEscape c rest
    else if c = '\x22' then .text [c] rest
    else
      match Format.control? c with
      | some shown => .text [shown] rest
      | none => .text ['\\', c] rest

/-! ## Formats -/

/-- A piece of what is written. -/
inductive Piece where
  /-- A text. -/
  | text (text : Chars)
  /-- A complaint. -/
  | complaint (message : Chars)

/-- The use of a format. -/
structure State where
  /-- The arguments that are left. -/
  left : List Chars
  /-- The pieces so far, the last one first. -/
  pieces : List Piece
  /-- Something was wrong with an argument. -/
  failed : Bool

/-- Why a format is not used to its end. -/
inductive Stop where
  /-- An escape ends all output. -/
  | quiet
  /-- Something is wrong. -/
  | fault (message : Chars)

/-- A step in the use of a format. -/
abbrev Use (α : Type) := ExceptT Stop (StateM State) α

/-- Writes a text. -/
def emit (text : Chars) : Use Unit :=
  modify fun state => { state with pieces := .text text :: state.pieces }

/-- Complains, and does not count that as a failure if it is only a warning. -/
def note (fails : Bool) (message : Chars) : Use Unit :=
  modify fun state =>
    { state with pieces := .complaint message :: state.pieces, failed := state.failed || fails }

/-- The next argument, if there is one. -/
def next? : Use (Option Chars) := do
  let state ← get
  set { state with left := state.left.tail }
  return state.left.head?

/-- Writes the escape at the front of a text, behind its backslash, and gives what follows. -/
def emitEscape (zeros : Bool) (text : Chars) : Use Chars := do
  match escape zeros text with
  | .text shown rest =>
    emit shown
    return rest
  | .ends => throw .quiet
  | .fault message => throw (.fault message)

/-- Writes a text with its escapes replaced, given at least as many steps as it has characters. -/
def emitEscaped : Nat → Chars → Use Unit
  | 0, _ => return ()
  | _, [] => return ()
  | steps + 1, '\\' :: rest => do emitEscaped steps (← emitEscape true rest)
  | steps + 1, c :: rest => do
    emit [c]
    emitEscaped steps rest

/-- What a number that has been read from an argument comes to: complains if something is left of the argument, or if
the number is outside of what can be kept. -/
def checked {α : Type} (argument : Chars) (found? : Option (α × Chars)) (standard : α) (isOutside : Bool) : Use α := do
  match found? with
  | none =>
    unless argument.isEmpty do note true (quoted argument ++ ": expected a numeric value".toList)
    return standard
  | some (value, rest) =>
    if isOutside then note true (quoted argument ++ ": Numerical result out of range".toList)
    else if !rest.isEmpty then note true (quoted argument ++ ": value not completely converted".toList)
    return value

/-- The number of a character that stands behind a quote in an argument, if that is what it is. -/
def character? (argument : Chars) : Use (Option Nat) := do
  match argument with
  | quote :: c :: rest =>
    if quote ≠ '\x22' ∧ quote ≠ '\x27' then return none
    unless rest.isEmpty do
      note false ("warning: ".toList ++ rest ++
        ": character(s) following character constant have been ignored".toList)
    return some c.toNat
  | _ => return none

/-- An argument as a whole number between bounds. -/
def integer (low high : Int) (argument : Chars) : Use Int := do
  if let some number ← character? argument then return number
  let found? := Arithmetic.integer? argument
  let isOutside := found?.any fun found => found.1 < low || high < found.1
  return max low (min high (← checked argument found? 0 isOutside))

/-- An argument as a number without a sign; below zero it counts round from the greatest one. -/
def natural (argument : Chars) : Use Nat := do
  let modulus := Number.modulus
  if let some number ← character? argument then return number
  let found? := Arithmetic.integer? argument
  let isOutside := found?.any fun found => found.1 ≤ -modulus || modulus ≤ found.1
  let value ← checked argument found? 0 isOutside
  return if isOutside then (modulus - 1).toNat else (value % modulus).toNat

/-- An argument as a number that need not be whole. -/
def floating (argument : Chars) : Use Floating := do
  if let some number ← character? argument then return .finite false number 0
  let reading? := Floating.read? .extended argument
  checked argument (reading?.map fun reading => (reading.value, reading.rest)) (.finite false 0 0)
    (reading?.any Floating.Reading.isOutside)

/-- The conversions that flags leave. -/
def allowed (flags : Chars) (hasPrecision : Bool) (kind : Char) : Bool :=
  let barred := fun c : Char =>
    match c with
    | '\x27' | 'I' => "aAceEosxX"
    | '#' => "cdisu"
    | '0' => "cs"
    | _ => ""
  "aAcdeEfFgGiosuxX".toList.contains kind && !(hasPrecision && kind = 'c') &&
    flags.all fun flag => !(barred flag).toList.contains kind

/-- A size that stands in a format, or the next argument for a star; and what follows it. -/
def size (what : String) (text : Chars) : Use (Int × Chars) := do
  match text with
  | '*' :: rest =>
    let some argument ← next? | return (0, rest)
    let value ← integer Number.least Number.greatest argument
    if Number.greatestCount < value ∨ (what = "field width" ∧ value < Number.leastCount) then
      throw (.fault ("invalid ".toList ++ what.toList ++ ": ".toList ++ quoted argument))
    return (value, rest)
  | text =>
    let digits := text.takeWhile Char.isDigit
    return (Chars.toNat digits, text.drop digits.length)

/-- Writes an argument in a place, as a letter says. -/
def convert (field : Format.Field) (kind : Char) (argument : Chars) : Use Unit := do
  match kind with
  | 's' => emit (field.placeText argument)
  | 'c' => emit (field.place [argument.headD '\x00'])
  | 'd' | 'i' =>
    let value ← integer Number.least Number.greatest argument
    emit (field.placeNumber (field.signOf (value < 0)) 10 value.natAbs false)
  | 'u' => emit (field.placeNumber [] 10 (← natural argument) false)
  | 'o' => emit (field.placeNumber [] 8 (← natural argument) false)
  | 'x' => emit (field.placeNumber [] 16 (← natural argument) false)
  | 'X' => emit (field.placeNumber [] 16 (← natural argument) true)
  | kind => emit (field.placeFloating .extended kind (← floating argument))

/-- Writes what a conversion says, of which the percent sign has been read, and gives what follows. -/
def conversion (text : Chars) : Use Chars := do
  match text with
  | '%' :: rest =>
    emit ['%']
    return rest
  | 'b' :: rest =>
    if let some argument ← next? then emitEscaped (argument.length + 1) argument
    return rest
  | 'q' :: rest =>
    if let some argument ← next? then emit (shellWord argument)
    return rest
  | text =>
    let flags := text.takeWhile "-+ #0'I".toList.contains
    let (width, rest) ← size "field width" (text.drop flags.length)
    let (precision?, rest) ←
      match rest with
      | '.' :: rest => do
        let (precision, rest) ← size "precision" rest
        pure (some precision, rest)
      | rest => pure (none, rest)
    let rest := rest.dropWhile "lLhjtz".toList.contains
    let kind := rest.headD '\x00'
    unless allowed flags precision?.isSome kind do
      let shown := text.take (text.length - rest.length) ++ (rest.take 1)
      throw (.fault ('%' :: shown ++ ": invalid conversion specification".toList))
    let sign := if flags.contains '+' then ['+'] else if flags.contains ' ' then [' '] else []
    let field : Format.Field :=
      ⟨flags.contains '-' || width < 0, flags.contains '0', sign, flags.contains '#', width.natAbs,
        precision?.bind fun precision => if precision < 0 then none else some precision.toNat⟩
    convert field kind ((← next?).getD [])
    return rest.tail

/-- Uses a format once, given at least as many steps as it has characters. -/
def pass : Nat → Chars → Use Unit
  | 0, _ => return ()
  | _, [] => return ()
  | steps + 1, '\\' :: rest => do pass steps (← emitEscape false rest)
  | steps + 1, '%' :: rest => do pass steps (← conversion rest)
  | steps + 1, c :: rest => do
    emit [c]
    pass steps rest

/-- Uses a format as long as that uses up arguments, for a number of rounds at most, and warns about those that are
left. -/
def rounds (format : Chars) : Nat → Use Unit
  | 0 => return ()
  | count + 1 => do
    let before := (← get).left.length
    pass (format.length + 1) format
    let left := (← get).left
    if left.length = before then
      if let some extra := left.head? then
        note false ("warning: ignoring excess arguments, starting with ".toList ++ quoted extra)
    else unless left.isEmpty do rounds format count

/-- Writes pieces and complaints in order, and gives a status, or fails if something cannot be written. -/
def put (status : Nat) : List Piece → List Chars → Step Nat
  | [], texts => answer status texts.reverse.flatten
  | .text text :: rest, texts => put status rest (text :: texts)
  | .complaint message :: rest, texts => do
    let _ ← writeTo 1 (Chars.bytes texts.reverse.flatten)
    report message
    put status rest []

end Print

open Print in
/-- Writes its arguments in a format. -/
def printf : Tool := fun arguments =>
  let arguments := if arguments.head? = some ['-', '-'] then arguments.tail else arguments
  match arguments with
  | [] => misused "missing operand"
  | format :: arguments =>
    let (result, state) := (rounds format (arguments.length + 1)).run ⟨arguments, [], false⟩
    let pieces := state.pieces.reverse
    match result with
    | .error (.fault message) => put 1 (pieces ++ [.complaint message]) []
    | .error .quiet => put 0 pieces []
    | .ok () => put (if state.failed then 1 else 0) pieces []

/-- A text with its escapes replaced as `echo` knows them, and whether one of them ends all output; given at least as
many steps as it has characters. -/
def Print.echoed : Nat → Chars → Chars × Bool
  | 0, _ => ([], false)
  | _, [] => ([], false)
  | steps + 1, '\\' :: rest =>
    let byte := fun (base : Nat) (digits after : Chars) =>
      let (text, ends) := echoed steps after
      (byteOf base digits :: text, ends)
    match rest with
    | [] => (['\\'], false)
    | 'c' :: _ => ([], true)
    | c :: after =>
      let hexadecimals := (after.take 2).takeWhile isHexadecimal
      let octals := (if c = '0' then after.take 3 else rest.take 3).takeWhile Format.isOctal
      if c = 'x' ∧ !hexadecimals.isEmpty then byte 16 hexadecimals (after.drop hexadecimals.length)
      else if c = '0' then byte 8 octals (after.drop octals.length)
      else if !octals.isEmpty then byte 8 octals (rest.drop octals.length)
      else
        let (text, ends) := echoed steps after
        (((Format.control? c).map fun shown => [shown]).getD ['\\', c] ++ text, ends)
  | steps + 1, c :: rest =>
    let (text, ends) := echoed steps rest
    (c :: text, ends)

/-- Writes its arguments. -/
def echo : Tool := fun arguments =>
  let isFlag := fun word : Chars => match word with
    | '-' :: c :: rest => (c :: rest).all fun d => d = 'n' || d = 'e' || d = 'E'
    | _ => false
  let options := arguments.takeWhile isFlag
  let words := arguments.drop options.length
  let letters := options.flatMap List.tail
  let escapes := ((letters.filter fun c => c ≠ 'n').getLast?) = some 'e'
  let text := [' '].intercalate words
  let (text, ended) := if escapes then Print.echoed (text.length + 1) text else (text, false)
  answer 0 (text ++ if letters.contains 'n' || ended then [] else ['\n'])

end CounterCatalog.Shell.Tool
