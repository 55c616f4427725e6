import CounterCatalog.Shell.Tool.Cat

/-!
# Comparing files byte by byte

`cmp` tells where two files first differ, or all the places at which they do, or only whether they do. A part
at the beginning of each may be passed over, and a limit may be set on how much is compared.
-/

set_option autoImplicit false

namespace CounterCatalog.Shell.Tool

open Step

namespace Compare

/-- What is told about differences. -/
inductive Manner where
  /-- Where the first one is. -/
  | first
  /-- Where all of them are. -/
  | all
  /-- Nothing. -/
  | silent
  /-- Nothing but that a file ends, since standard output leads nowhere. -/
  | muted
deriving DecidableEq

/-- One of the files. -/
structure Side where
  /-- Its name. -/
  name : Chars
  /-- The number of bytes at its beginning that are passed over. -/
  passed : Nat

/-- How files are compared. -/
structure Request where
  /-- The first file. -/
  first : Side
  /-- The second file. -/
  second : Side
  /-- The number of bytes that are compared, if there is a limit. -/
  limit? : Option Nat
  /-- What is told. -/
  manner : Manner
  /-- Bytes are shown as characters too. -/
  showsBytes : Bool

/-- The value of a digit in a base, if it is one. -/
def digit? (base : Nat) (c : Char) : Option Nat :=
  let value? :=
    if c.isDigit then some (c.toNat - 48)
    else if c.isAlpha then some (c.toLower.toNat - 87) else none
  value?.filter fun value => decide (value < base)

/-- A number in a base, with the characters behind it. -/
def numberIn (base : Nat) (text : Chars) : Nat × Chars :=
  let digits := text.takeWhile fun c => (digit? base c).isSome
  (digits.foldl (fun value c => value * base + (digit? base c).getD 0) 0, text.drop digits.length)

/-- A number of bytes in words: in digits of the base that its beginning tells, and multiplied by what letters
behind it stand for. -/
def amount? (text : Chars) : Option Nat := do
  let text := text.dropWhile Char.isWhitespace
  let text := if text.head? = some '+' then text.tail else text
  let isHexadecimal : Bool :=
    match text with
    | '0' :: x :: c :: _ => (x = 'x' || x = 'X') && (digit? 16 c).isSome
    | _ => false
  let (value, letters) :=
    if isHexadecimal then numberIn 16 (text.drop 2)
    else if text.head? = some '0' then numberIn 8 text
    else if (text.head?).any Char.isDigit then numberIn 10 text
    else (1, text)
  if text.isEmpty ∨ letters = ['b'] ∨ letters = ['m'] then failure
  let amount := value * (← unit? letters)
  if greatestSize < amount then failure
  return amount

/-- The numbers of bytes that are passed over in the two files, after a word that gives one for both or one for
each; what was known before stands where it is greater. -/
def passed (before : Nat × Nat) (text : Chars) : Except Chars (Nat × Nat) := do
  let wrong := fun part : Chars => "invalid --ignore-initial value '".toList ++ part ++ ['\x27']
  let amount := fun part whole : Chars =>
    match (amount? part).filter fun amount => decide (amount ≤ greatestSize / 2) with
    | some amount => Except.ok amount
    | none => .error (wrong whole)
  let front := text.takeWhile fun c => c ≠ ':'
  let first := max before.1 (← amount front text)
  if front.length = text.length then return (first, max before.2 first)
  let rest := text.drop (front.length + 1)
  return (first, max before.2 (← amount rest rest))

/-- The places at which bytes differ, counted from one, with the bytes. -/
def differences (place : Nat) : List UInt8 → List UInt8 → List (Nat × UInt8 × UInt8)
  | a :: rest, b :: others =>
    if a = b then differences (place + 1) rest others
    else (place, a, b) :: differences (place + 1) rest others
  | _, _ => []

/-- A byte in octal digits, in its place. -/
def octal (byte : UInt8) : Chars :=
  padded 3 (Nat.toDigits 8 byte.toNat)

/-- A byte as a character. -/
def character (byte : UInt8) : Chars :=
  Cat.shown true (Char.ofNat byte.toNat)

/-- A line about one of all places at which files differ. -/
def line (width : Nat) (showsBytes : Bool) (place : Nat) (a b : UInt8) : Chars :=
  let shown := fun byte : UInt8 => if showsBytes then ' ' :: character byte else []
  padded width (Chars.ofNat place) ++ [' '] ++ octal a ++ shown a ++
    (if showsBytes then List.replicate (4 - (character a).length) ' ' else []) ++
    [' '] ++ octal b ++ shown b ++ ['\n']

/-- The line about the first place at which files differ, given what is common to them. -/
def firstLine (request : Request) (common : List UInt8) (a b : UInt8) : Chars :=
  let place := Chars.ofNat (common.length + 1)
  let front := request.first.name ++ [' '] ++ request.second.name ++ " differ: ".toList
  let place := (if request.showsBytes then "byte " else "char ").toList ++ place ++ ", line ".toList ++
    Chars.ofNat (common.count 0x0A + 1)
  let bytes := " is ".toList ++ octal a ++ [' '] ++ character a ++ [' '] ++ octal b ++ [' '] ++ character b
  front ++ place ++ (if request.showsBytes then bytes else []) ++ ['\n']

/-- What is said when a file ends that the other one goes on from. -/
def ending (manner : Manner) (name : Chars) (content : List UInt8) : Chars :=
  let place :=
    if content.isEmpty then " which is empty".toList
    else
      let lines := content.count 0x0A
      let bytes := " after byte ".toList ++ Chars.ofNat content.length
      if manner ≠ .first then bytes
      else if content.getLast? = some 0x0A then bytes ++ ", line ".toList ++ Chars.ofNat lines
      else bytes ++ ", in line ".toList ++ Chars.ofNat (lines + 1)
  "cmp: EOF on ".toList ++ name ++ place

/-- The number of digits of the greatest place that can be told, given the sizes of those files whose size is
known. -/
def width (limit? : Option Nat) (sizes : List Nat) : Nat :=
  (Chars.ofNat (sizes.foldl min (min (limit?.getD greatestSize) (greatestSize / 2)))).length

/-- Tells how the contents of files differ, and gives whether they do. -/
def tell (request : Request) (sizes : List Nat) (a b : List UInt8) : Step Nat := do
  let found := differences 1 a b
  if found.isEmpty ∧ a.length = b.length then return 0
  let ends : Step Nat := do
    if a.length ≠ b.length then
      let (name, content) := if a.length < b.length then (request.first.name, a) else (request.second.name, b)
      complain (ending request.manner name content)
    return 1
  match request.manner, found with
  | .silent, _ => return 1
  | .muted, _ :: _ => return 1
  | .first, (place, x, y) :: _ => answer 1 (firstLine request (a.take (place - 1)) x y)
  | .all, found =>
    let width := width request.limit? sizes
    let text := found.flatMap fun (place, x, y) => line width request.showsBytes place x y
    if (← answer 0 text) ≠ 0 then return 2
    ends
  | .first, [] | .muted, [] => ends

/-- The size of what is left of a file, if it is a regular one. -/
def sizeLeft? (machine : Machine) (path : Chars) : Option Nat :=
  let opening? := if path = ['-'] then (machine.opening? 0).map Prod.snd else (machine.openToRead path).toOption
  match opening? with
  | some ⟨.file handle, offset, _, _, _⟩ => some (machine.fileSize handle - offset)
  | _ => none

/-- The place in the tree that a file is, with how far it has been read, if it is a regular one. -/
def identity? (machine : Machine) (path : Chars) : Option (Handle × Nat) :=
  let opening? := if path = ['-'] then (machine.opening? 0).map Prod.snd else (machine.openToRead path).toOption
  match opening? with
  | some ⟨.file handle, offset, _, _, _⟩ => some (handle, offset)
  | _ => none

/-- Compares two files. -/
def run (request : Request) : Step Nat := do
  let machine ← get
  let standard := fun side : Side => side.name = ['-']
  let refuse := fun (side : Side) (fault : Fault) (opened : Bool) => do
    unless request.manner = .silent && !opened do report (side.name ++ ": ".toList ++ fault.reason.toList)
    return 2
  let fault? := fun side : Side =>
    if standard side then if (machine.opening? 0).isNone then some Fault.badHandle else none
    else
      match machine.openToRead side.name with
      | .error fault => some fault
      | .ok _ => none
  let sides := if standard request.second then [request.second, request.first] else [request.first, request.second]
  let same := request.first.name = request.second.name && request.first.passed = request.second.passed
  for side in if same then sides.take 1 else sides do
    if let some fault := fault? side then return ← refuse side fault (standard side)
  if same then return 0
  let first := identity? machine request.first.name
  let second := identity? machine request.second.name
  if first.isSome ∧ first = second ∧ request.first.passed = request.second.passed then return 0
  let sizes := ([request.first, request.second].filterMap fun side =>
    (sizeLeft? machine side.name).map fun size => size - side.passed)
  let wanted := fun side : Side => request.limit?.map fun limit => side.passed + limit
  let part := fun side : Side => do
    match wanted side with
    | some size => contentUpTo size side.name
    | none => partOf side.name
  match ← part request.first with
  | .error fault => refuse request.first fault true
  | .ok (a, aGoesOn) =>
    match ← part request.second with
    | .error fault => refuse request.second fault true
    | .ok (b, bGoesOn) =>
      let cut := fun (side : Side) (content : List UInt8) =>
        let content := content.drop side.passed
        request.limit?.elim content content.take
      let a := cut request.first a
      let b := cut request.second b
      let isOpen := (aGoesOn && decide (a.length ≤ b.length)) || (bGoesOn && decide (b.length ≤ a.length))
      if isOpen && (request.manner = .all || (differences 1 a b).isEmpty) then starve
      tell request sizes a b

end Compare

/-- Compares two files. -/
def cmp : Tool := fun arguments => do
  let known := taking [('i', "ignore-initial"), ('n', "bytes")] ++ flags [('b', "print-bytes"),
    ('b', "print-chars"), ('c', ""), ('l', "verbose"), ('s', "quiet"), ('s', "silent")]
  let misuse (message : Chars) : Step Nat := do
    report message
    complain ((← get).title ++ ": Try '".toList ++ (← get).title ++ " --help' for more information.".toList)
    return 2
  match Options.read known false arguments with
  | .error stop => stop.answer misuse
  | .ok options =>
    if let some text := (options.values 'n').find? fun text => (Compare.amount? text).isNone then
      return ← misuse ("invalid --bytes value '".toList ++ text ++ ['\x27'])
    match (options.values 'i').foldlM Compare.passed (0, 0) with
    | .error message => misuse message
    | .ok passed =>
      if options.has 'l' ∧ options.has 's' then return ← misuse "options -l and -s are incompatible".toList
      match options.operands with
      | [] => misuse ("missing operand after '".toList ++ (arguments.getLast?).getD (← get).title ++ ['\x27'])
      | first :: rest =>
        let extra := rest.drop 1
        let amounts := (extra.take 2).foldlM (fun (done : List Nat) text =>
          match Compare.amount? text with
          | some amount => Except.ok (done ++ [amount])
          | none => .error ("invalid --ignore-initial value '".toList ++ text ++ ['\x27'])) []
        match amounts, extra.drop 2 with
        | .error message, _ => misuse message
        | .ok _, text :: _ => misuse ("extra operand '".toList ++ text ++ ['\x27'])
        | .ok amounts, [] =>
          let muted := ((← get).opening? 1).any fun item => item.2.source = .device .null
          Compare.run
            { first := ⟨first, max passed.1 ((amounts[0]?).getD 0)⟩
              second := ⟨rest.headD ['-'], max passed.2 ((amounts[1]?).getD 0)⟩
              limit? := ((options.values 'n').filterMap Compare.amount?).min?
              manner :=
                if options.has 's' then .silent
                else if muted then .muted
                else if options.has 'l' then .all else .first
              showsBytes := options.hasAny "bc" }

end CounterCatalog.Shell.Tool
