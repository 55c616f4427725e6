import CounterCatalog.CommandLine.Vocabulary

/-!
# Reading one level of a command line

The words of a level are read from the left. An option with a value that stands in the next word is kept
pending until the reading moves on, so a fault in what follows is reported before a fault of the pending
option. After `--` every word is an operand. At the top level the first word that opens a subcommand ends
the level; the words after it belong to the subcommand.
-/

set_option autoImplicit false

namespace CounterCatalog.CommandLine

/-- Why reading a command line stopped short of a task. -/
inductive Stop where
  | unknownArgument
  | invalidSubcommand
  | invalidValue
  | argumentConflict
  | missingRequiredArgument
  | tooManyValues
  /-- Help was asked for. -/
  | help (topic : Scope)
  /-- The version was asked for. -/
  | version
deriving DecidableEq

/-- What has been typed at one level. -/
structure Typed where
  /-- The options with values. -/
  values : List (Valued × String)
  /-- The switches. -/
  switches : List Switch
  /-- How often more output was asked for. -/
  tally : Nat
  /-- The operands, in order. -/
  operands : List String
deriving DecidableEq

namespace Typed

/-- Nothing typed. -/
def nothing : Typed := ⟨[], [], 0, []⟩

/-- The value typed for an option. -/
def value? (typed : Typed) (option : Valued) : Option String :=
  (typed.values.find? fun item => item.1 = option).map Prod.snd

/-- A switch was typed. -/
def isOn (typed : Typed) (option : Switch) : Bool :=
  typed.switches.contains option

end Typed

/-- An option whose value was to stand in the next word. -/
structure Pending where
  /-- The option. -/
  option : Valued
  /-- The value, once it has been read. -/
  value? : Option String
deriving DecidableEq

/-- How far a level has been read. -/
structure Reading where
  /-- What has been typed so far. -/
  typed : Typed
  /-- The option that has not been taken over yet. -/
  pending? : Option Pending
  /-- `--` has been read. -/
  trailing : Bool
deriving DecidableEq

/-- The two parts of a word at its first equals sign, if it has one. -/
def splitAtEquals (word : List Char) : List Char × Option (List Char) :=
  match word.dropWhile fun c => c ≠ '=' with
  | [] => (word, none)
  | _ :: value => (word.takeWhile fun c => c ≠ '=', some value)

/-- What a word looks like. -/
inductive Shape where
  /-- The word `--`. -/
  | terminator
  /-- A long option, perhaps with a value. -/
  | long (name : String) (value? : Option String)
  /-- One or more letters after a dash. -/
  | cluster (letters : List Char)
  /-- Any other word. -/
  | plain
deriving DecidableEq

/-- The shape of a word; a single dash is a plain word. -/
def Shape.ofWord (word : String) : Shape :=
  match word.toList with
  | ['-', '-'] => .terminator
  | '-' :: '-' :: rest =>
    let (name, value?) := splitAtEquals rest
    .long (String.ofList name) (value?.map String.ofList)
  | '-' :: letter :: letters => .cluster (letter :: letters)
  | _ => .plain

namespace Reading

/-- Nothing read yet. -/
def start : Reading := ⟨.nothing, none, false⟩

/-- The pending option waits for its value. -/
def isWaiting (reading : Reading) : Bool :=
  match reading.pending? with
  | some pending => pending.value?.isNone
  | none => false

/-- Takes over a value; an option may be given once only, and a shell has to be one that is known. -/
def setValue (reading : Reading) (option : Valued) (value : String) : Except Stop Reading :=
  if (reading.typed.value? option).isSome then .error .argumentConflict
  else if option = .shell ∧ ShellName.ofName? value = none then .error .invalidValue
  else
    .ok { reading with
      typed := { reading.typed with values := reading.typed.values ++ [(option, value)] } }

/-- Takes over the pending option. -/
def settle (reading : Reading) : Except Stop Reading :=
  match reading.pending? with
  | none => .ok reading
  | some ⟨_, none⟩ => .error .invalidValue
  | some ⟨option, some value⟩ => { reading with pending? := none }.setValue option value

/-- Reads an option together with its value. -/
def giveValue (reading : Reading) (option : Valued) (value : String) : Except Stop Reading := do
  (← reading.settle).setValue option value

/-- Reads an option whose value is to stand in the next word. -/
def await (reading : Reading) (option : Valued) : Except Stop Reading := do
  pure { ← reading.settle with pending? := some ⟨option, none⟩ }

/-- Reads a switch, which may be typed once only. -/
def turnOn (reading : Reading) (option : Switch) : Except Stop Reading := do
  let reading ← reading.settle
  if reading.typed.isOn option then .error .argumentConflict
  else
    pure { reading with
      typed := { reading.typed with switches := reading.typed.switches ++ [option] } }

/-- The greatest count that is kept. -/
def tallyLimit : Nat := 255

/-- Counts a wish for more output. -/
def count (reading : Reading) : Except Stop Reading := do
  let reading ← reading.settle
  pure { reading with typed := { reading.typed with tally := min tallyLimit (reading.typed.tally + 1) } }

/-- Reads an option that takes no value. -/
def plainFlag (scope : Scope) (reading : Reading) : Flag → Except Stop Reading
  | .valued option => reading.await option
  | .switch option => reading.turnOn option
  | .verbose => reading.count
  | .help => do
    let _ ← reading.settle
    .error (.help scope)
  | .version => do
    let _ ← reading.settle
    .error .version

/-- Reads a long option. -/
def long (scope : Scope) (reading : Reading) (name : String) (value? : Option String) :
    Except Stop Reading :=
  match scope.named? name, value? with
  | none, _ => .error .unknownArgument
  | some (.valued option), some value => reading.giveValue option value
  | some _, some _ => .error .tooManyValues
  | some flag, none => reading.plainFlag scope flag

/-- Reads the letters after a dash; what follows the letter of an option with a value is that value. -/
def cluster (scope : Scope) (reading : Reading) : List Char → Except Stop Reading
  | [] => .ok reading
  | letter :: letters =>
    match scope.lettered? letter with
    | none => .error .unknownArgument
    | some (.valued option) =>
      match letters with
      | [] => reading.await option
      | '=' :: value => reading.giveValue option (String.ofList value)
      | value => reading.giveValue option (String.ofList value)
    | some flag => do
      let reading ← reading.plainFlag scope flag
      cluster scope reading letters

/-- What a word stands for that a level cannot take as an operand. -/
def surplus (scope : Scope) (reading : Reading) (word : String) : Stop :=
  match scope with
  | .top => if reading.trailing ∧ (Opening.ofWord? word).isSome then .unknownArgument
    else .invalidSubcommand
  | .inside _ => .unknownArgument

/-- Reads an operand. -/
def operand (scope : Scope) (reading : Reading) (word : String) : Except Stop Reading :=
  if scope.takesAfter reading.typed.operands.length then do
    let reading ← reading.settle
    pure { reading with
      typed := { reading.typed with operands := reading.typed.operands ++ [word] } }
  else .error (reading.surplus scope word)

/-- Reads a word that is no option. -/
def plain (scope : Scope) (reading : Reading) (word : String) : Except Stop Reading :=
  match reading.pending? with
  | some ⟨option, none⟩ => .ok { reading with pending? := some ⟨option, some word⟩ }
  | _ => reading.operand scope word

/-- Reads a word. -/
def word (scope : Scope) (reading : Reading) (word : String) : Except Stop Reading :=
  if reading.trailing then reading.operand scope word
  else
    match Shape.ofWord word with
    | .terminator => .ok { reading with trailing := true }
    | .long name value? => reading.long scope name value?
    | .cluster letters => reading.cluster scope letters
    | .plain => reading.plain scope word

/-- What a word opens where it stands: only the top level has something to open, and neither a value nor an
operand after `--` opens anything. -/
def opening? (scope : Scope) (reading : Reading) (word : String) : Option Opening :=
  if scope = .top ∧ reading.trailing = false ∧ reading.isWaiting = false then Opening.ofWord? word
  else none

/-- The help that the words after `help` ask for: one full name at most. -/
def helpOn : List String → Stop
  | [] => .help .top
  | [word] =>
    match Opening.all.find? fun item => item.1 = word with
    | some (_, .task subcommand) => .help (.inside subcommand)
    | some (_, .help) => .help .top
    | none => .invalidSubcommand
  | _ => .invalidSubcommand

/-- Reads words up to one that opens a subcommand, and gives that subcommand with the words after it. -/
def words (scope : Scope) (reading : Reading) :
    List String → Except Stop (Reading × Option (Subcommand × List String))
  | [] => .ok (reading, none)
  | word :: rest =>
    match reading.opening? scope word with
    | some (.task subcommand) => .ok (reading, some (subcommand, rest))
    | some .help => .error (helpOn rest)
    | none => do
      let reading ← reading.word scope word
      words scope reading rest

end Reading

end CounterCatalog.CommandLine
