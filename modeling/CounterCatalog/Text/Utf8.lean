/-!
# UTF-8

A byte text is read from the left as characters and ill-formed pieces, where a piece is as long as it
can still be continued to a character (`marks`). Strict decoding succeeds when no piece is ill formed;
lossy decoding shows each ill-formed piece as one replacement character. The two therefore agree on
every text that strict decoding accepts.
-/

set_option autoImplicit false

namespace CounterCatalog.Text.Utf8

/-- The bytes of one character: one to four of them, the first saying how many. -/
def encodeChar (c : Char) : List UInt8 :=
  let n := c.toNat
  if n < 0x80 then [UInt8.ofNat n]
  else if n < 0x800 then [UInt8.ofNat (0xC0 + n / 64), UInt8.ofNat (0x80 + n % 64)]
  else if n < 0x10000 then
    [UInt8.ofNat (0xE0 + n / 4096), UInt8.ofNat (0x80 + n / 64 % 64), UInt8.ofNat (0x80 + n % 64)]
  else
    [UInt8.ofNat (0xF0 + n / 262144), UInt8.ofNat (0x80 + n / 4096 % 64),
     UInt8.ofNat (0x80 + n / 64 % 64), UInt8.ofNat (0x80 + n % 64)]

/-- The bytes of a text are those of its characters in order. -/
def encodeChars (text : List Char) : List UInt8 :=
  text.flatMap encodeChar

/-- The bytes of a string. -/
def encode (text : String) : List UInt8 :=
  encodeChars text.toList

/-- A character of which some bytes have been read: the bits so far, the bounds of the next byte, and
how many bytes are due after it. -/
structure Started where
  /-- The bits read so far. -/
  bits : Nat
  /-- The least value that the next byte may have. -/
  least : Nat
  /-- The greatest value that the next byte may have. -/
  greatest : Nat
  /-- The number of bytes due after the next one. -/
  after : Nat

/-- What a byte says where a character may begin. -/
inductive Lead where
  /-- The byte is a character by itself. -/
  | whole (c : Char)
  /-- The byte begins a longer character. -/
  | begins (state : Started)
  /-- No character begins with the byte. -/
  | stray

/-- The reading of a byte where a character may begin; the bounds on the second byte leave out overlong
forms, surrogates and everything past the last code point. -/
def lead (byte : UInt8) : Lead :=
  let n := byte.toNat
  if n < 0x80 then .whole (Char.ofNat n)
  else if n < 0xC2 then .stray
  else if n < 0xE0 then .begins ⟨n - 0xC0, 0x80, 0xBF, 0⟩
  else if n = 0xE0 then .begins ⟨n - 0xE0, 0xA0, 0xBF, 1⟩
  else if n = 0xED then .begins ⟨n - 0xE0, 0x80, 0x9F, 1⟩
  else if n < 0xF0 then .begins ⟨n - 0xE0, 0x80, 0xBF, 1⟩
  else if n = 0xF0 then .begins ⟨n - 0xF0, 0x90, 0xBF, 2⟩
  else if n < 0xF4 then .begins ⟨n - 0xF0, 0x80, 0xBF, 2⟩
  else if n = 0xF4 then .begins ⟨n - 0xF0, 0x80, 0x8F, 2⟩
  else .stray

/-- The characters and ill-formed pieces of a byte text, given what has been started before it; a piece
that cannot be continued by the next byte ends before that byte. -/
def marksFrom : Option Started → List UInt8 → List (Option Char)
  | none, [] => []
  | some _, [] => [none]
  | none, byte :: bytes =>
    match lead byte with
    | .whole c => some c :: marksFrom none bytes
    | .begins state => marksFrom (some state) bytes
    | .stray => none :: marksFrom none bytes
  | some state, byte :: bytes =>
    if state.least ≤ byte.toNat ∧ byte.toNat ≤ state.greatest then
      let bits := state.bits * 64 + (byte.toNat - 0x80)
      match state.after with
      | 0 => some (Char.ofNat bits) :: marksFrom none bytes
      | after + 1 => marksFrom (some ⟨bits, 0x80, 0xBF, after⟩) bytes
    else
      match lead byte with
      | .whole c => none :: some c :: marksFrom none bytes
      | .begins state => none :: marksFrom (some state) bytes
      | .stray => none :: none :: marksFrom none bytes

/-- The characters of a byte text, with `none` for each ill-formed piece. -/
def marks (bytes : List UInt8) : List (Option Char) :=
  marksFrom none bytes

/-- The characters of a byte text, if all of it is well formed. -/
def decodeChars? (bytes : List UInt8) : Option (List Char) :=
  (marks bytes).mapM id

/-- The text of a byte text, if all of it is well formed. -/
def decode? (bytes : List UInt8) : Option String :=
  (decodeChars? bytes).map String.ofList

/-- The character that stands for an ill-formed piece, U+FFFD. -/
def replacement : Char := Char.ofNat 0xFFFD

/-- The characters of a byte text, each ill-formed piece shown as one replacement character. -/
def decodeCharsLossy (bytes : List UInt8) : List Char :=
  (marks bytes).map fun mark => mark.getD replacement

/-- The text of a byte text, each ill-formed piece shown as one replacement character. -/
def decodeLossy (bytes : List UInt8) : String :=
  String.ofList (decodeCharsLossy bytes)

end CounterCatalog.Text.Utf8
