/-!
# Text without terminal controls

A text for a terminal may hold sequences that the terminal obeys instead of showing them: for colours, the
position of the cursor, the title of the window. `Terminal.visible` keeps the bytes that a terminal would
show, with blanks and ends of lines, and drops the sequences and all other control bytes. A terminal is a
machine that takes one byte at a time; `Terminal.step` is its table.

While nothing is dropped, a byte is judged as if no sequence had begun before it, and the state that the
machine was left in comes into force again with the next byte that is dropped.
-/

set_option autoImplicit false

namespace CounterCatalog.Text.Terminal

/-- What a terminal is in the middle of. -/
inductive State where
  /-- Nothing. -/
  | ground
  /-- A character of several bytes, of which some are still due. -/
  | character (due : Nat)
  /-- A sequence of which only the escape byte has come. -/
  | escape
  /-- An escape sequence with intermediate bytes. -/
  | escapeIntermediate
  /-- A control sequence of which only the introducer has come. -/
  | controlEntry
  /-- The parameters of a control sequence. -/
  | controlParameter
  /-- A control sequence with intermediate bytes. -/
  | controlIntermediate
  /-- A malformed control sequence. -/
  | controlIgnored
  /-- A device string of which only the introducer has come. -/
  | deviceEntry
  /-- The parameters of a device string. -/
  | deviceParameter
  /-- A device string with intermediate bytes. -/
  | deviceIntermediate
  /-- A malformed device string. -/
  | deviceIgnored
  /-- The body of a device string. -/
  | deviceBody
  /-- A command string, which a bell byte ends. -/
  | command
  /-- A string that terminals take no notice of. -/
  | unheeded
deriving DecidableEq

/-- What a byte does at once. -/
inductive Effect where
  /-- Nothing that shows. -/
  | none
  /-- It is shown. -/
  | print
  /-- It is a control byte that is obeyed. -/
  | execute
  /-- A character of several bytes begins with it. -/
  | begins
deriving DecidableEq

/-- A byte lies between two others or is one of them. -/
def within (low high byte : UInt8) : Bool :=
  low ≤ byte && byte ≤ high

/-- The control bytes that are obeyed inside most sequences. -/
def isControl (byte : UInt8) : Bool :=
  byte ≤ 0x17 || byte = 0x19 || within 0x1C 0x1F byte

/-- The number of bytes that are due after the first byte of a character. -/
def due (byte : UInt8) : Nat :=
  if byte ≤ 0xDF then 1 else if byte ≤ 0xEF then 2 else 3

/-- What a byte does where no sequence has begun. -/
def groundStep (byte : UInt8) : Option State × Effect :=
  if isControl byte || within 0x80 0x8F byte || within 0x91 0x9A byte || byte = 0x9C then (none, .execute)
  else if within 0x20 0x7F byte then (none, .print)
  else if within 0xC2 0xF4 byte then (some (.character (due byte)), .begins)
  else (none, .none)

/-- Where a byte leads after the escape byte. -/
def escapeStep (byte : UInt8) : Option State :=
  if within 0x20 0x2F byte then some .escapeIntermediate
  else if byte = 0x5B then some .controlEntry
  else if byte = 0x5D then some .command
  else if byte = 0x50 then some .deviceEntry
  else if byte = 0x58 || byte = 0x5E || byte = 0x5F then some .unheeded
  else if within 0x30 0x7E byte then some .ground
  else none

/-- The state that the first range around a byte leads to. -/
def leads (table : List (UInt8 × UInt8 × State)) (byte : UInt8) : Option State :=
  (table.find? fun row => within row.1 row.2.1 byte).map fun row => row.2.2

/-- The effect of a byte inside a sequence in which control bytes are obeyed. -/
def controlEffect (byte : UInt8) : Effect :=
  if isControl byte then .execute else .none

/-- What a byte does in a state: the state it leads to, if it leads away, and its effect. -/
def step (state : State) (byte : UInt8) : Option State × Effect :=
  if byte = 0x18 || byte = 0x1A then (some .ground, .execute)
  else if byte = 0x1B then (some .escape, .none)
  else
    match state with
    | .ground | .character _ => groundStep byte
    | .escape => (escapeStep byte, controlEffect byte)
    | .escapeIntermediate => (leads [(0x30, 0x7E, .ground)] byte, controlEffect byte)
    | .controlEntry =>
      (leads [(0x20, 0x2F, .controlIntermediate), (0x30, 0x3F, .controlParameter),
        (0x40, 0x7E, .ground)] byte, controlEffect byte)
    | .controlParameter =>
      (leads [(0x3C, 0x3F, .controlIgnored), (0x20, 0x2F, .controlIntermediate),
        (0x40, 0x7E, .ground)] byte, controlEffect byte)
    | .controlIntermediate =>
      (leads [(0x30, 0x3F, .controlIgnored), (0x40, 0x7E, .ground)] byte, controlEffect byte)
    | .controlIgnored => (leads [(0x40, 0x7E, .ground)] byte, controlEffect byte)
    | .deviceEntry =>
      (leads [(0x20, 0x2F, .deviceIntermediate), (0x30, 0x3F, .deviceParameter),
        (0x40, 0x7E, .deviceBody)] byte, .none)
    | .deviceParameter =>
      (leads [(0x3C, 0x3F, .deviceIgnored), (0x20, 0x2F, .deviceIntermediate),
        (0x40, 0x7E, .deviceBody)] byte, .none)
    | .deviceIntermediate =>
      (leads [(0x30, 0x3F, .deviceIgnored), (0x40, 0x7E, .deviceBody)] byte, .none)
    | .deviceIgnored | .deviceBody | .unheeded => (leads [(0x9C, 0x9C, .ground)] byte, .none)
    | .command => (leads [(0x07, 0x07, .ground)] byte, .none)

/-- The control bytes that move the place of what follows: space, tab and the ends of lines and pages. -/
def isSpacing (byte : UInt8) : Bool :=
  byte = 0x20 || byte = 0x09 || byte = 0x0A || byte = 0x0C || byte = 0x0D

/-- A byte with an effect is kept. -/
def Effect.keeps (byte : UInt8) : Effect → Bool
  | none => false
  | print => byte ≠ 0x7F
  | execute => isSpacing byte
  | begins => true

/-- Whether a byte is kept after bytes that were dropped, and the state after it. -/
def afterDropped (state : State) (byte : UInt8) : Bool × State :=
  let (next?, effect) := step state byte
  (effect.keeps byte, next?.getD state)

/-- Whether a byte is kept after bytes that were kept, and the state after it. -/
def afterKept (state : State) (byte : UInt8) : Bool × State :=
  match state with
  | .character left => (true, if left ≤ 1 then .ground else .character (left - 1))
  | state =>
    let (next?, effect) := step .ground byte
    (effect.keeps byte, next?.getD state)

/-- The bytes that are kept, given whether the byte before them was kept and the state it left. -/
def visibleFrom : Bool → State → List UInt8 → List UInt8
  | _, _, [] => []
  | true, state, byte :: bytes =>
    let (keeps, state) := afterKept state byte
    if keeps then byte :: visibleFrom true state bytes
    else visibleFrom false (afterDropped state byte).2 bytes
  | false, state, byte :: bytes =>
    let (keeps, state) := afterDropped state byte
    if keeps then byte :: visibleFrom true state bytes else visibleFrom false state bytes

/-- The bytes of a text that a terminal would show. -/
def visible (bytes : List UInt8) : List UInt8 :=
  visibleFrom false .ground bytes

end CounterCatalog.Text.Terminal
