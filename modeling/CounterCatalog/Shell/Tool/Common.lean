import CounterCatalog.Shell.Process
import CounterCatalog.Shell.Tool.Usage

/-!
# What the tools have in common

A tool is a program of the system. It is given its arguments, writes to the streams of the process that it
runs in, and ends with a status. Options may stand anywhere among the arguments, and names in complaints are
quoted where they need it.
-/

set_option autoImplicit false

namespace CounterCatalog.Shell

/-- A tool: its arguments to its status. -/
abbrev Tool := List Chars → Step Nat

namespace Tool

open Step

/-- A character that shows in print. -/
def isPrinted (c : Char) : Bool :=
  ' ' ≤ c && c ≤ '~'

/-- A character that does not show in print, as an escape. -/
def escaped (c : Char) : Chars :=
  let digit := fun n : Nat => Nat.digitChar (c.toNat / n % 8)
  match c.toNat with
  | 7 => ['\\', 'a']
  | 8 => ['\\', 'b']
  | 9 => ['\\', 't']
  | 10 => ['\\', 'n']
  | 11 => ['\\', 'v']
  | 12 => ['\\', 'f']
  | 13 => ['\\', 'r']
  | _ => ['\\', digit 64, digit 8, digit 1]

/-- The characters behind an opening quote, up to the closing one. -/
def quotedRest (inEscape : Bool) : Chars → Chars
  | [] => ['\x27']
  | c :: rest =>
    if isPrinted c then
      (if inEscape then ['\x27', '\x27'] else []) ++
        (if c = '\x27' then ['\x27', '\\', '\x27', '\x27'] else [c]) ++ quotedRest false rest
    else (if inEscape then [] else ['\x27', '$', '\x27']) ++ escaped c ++ quotedRest true rest

/-- The characters of a text may stand between double quotes without changing their meaning. -/
def fitsDoubleQuotes (text : Chars) : Bool :=
  (text.all fun c => isPrinted c && !("!\"$&()*;<=>[^|?\\".toList.contains c) && c ≠ '\x60') &&
    text.tail.all fun c => c ≠ '#' && c ≠ '~'

/-- A text between quotes. -/
def quoted (text : Chars) : Chars :=
  if text.contains '\x27' ∧ fitsDoubleQuotes text then ['\x22'] ++ text ++ ['\x22']
  else '\x27' :: quotedRest false text

/-- A text contains one of some characters, or begins or is one that a shell would not take as it stands. -/
def needsQuotes (special : String) (text : Chars) : Bool :=
  let isSpecial := fun c : Char => !isPrinted c || special.toList.contains c || c = '\x60'
  text.isEmpty || text.any isSpecial || text.head? = some '~' || text.head? = some '#' ||
    text = ['\x7b'] || text = ['\x7d']

/-- A text as a shell takes it for a word, quoted if it has to be. -/
def shellWord (text : Chars) : Chars :=
  if needsQuotes " !\"$&'()*;<=>[^|?\\" text then quoted text else text

/-- A file name, quoted if it could be misunderstood. -/
def fileName (text : Chars) : Chars :=
  if needsQuotes " !\"$&'()*;<=>[^|?\\:" text then quoted text else text

/-- The last name of a path, slashes at its end left out. -/
def baseName (path : Chars) : Chars :=
  let trimmed := (path.reverse.dropWhile fun c => c = '/').reverse
  if trimmed.isEmpty ∧ !path.isEmpty then ['/']
  else (trimmed.reverse.takeWhile fun c => c ≠ '/').reverse

/-- Complains under the name that the tool was called by. -/
def report (message : Chars) : Step Unit := do
  complain ((← get).title ++ ": ".toList ++ message)

/-- Tells where the use of the tool is explained. -/
def hint : Step Unit := do
  complain ("Try '".toList ++ (← get).title ++ " --help' for more information.".toList)

/-- Complains about the use of a tool, and gives a status for that. -/
def misusedWith (status : Nat) (message : Chars) : Step Nat := do
  report message
  hint
  return status

/-- Complains about the use of a tool, and fails. -/
def misused (message : String) : Step Nat :=
  misusedWith 1 message.toList

/-- Complains about a file, and fails. -/
def blame (file : Chars) (reason : String) : Step Nat := do
  report (fileName file ++ ": ".toList ++ reason.toList)
  return 1

/-- Writes what a tool has to say and gives its status, or complains if it cannot be written. -/
def finish (status : Nat) (output : List UInt8) : Step Nat := do
  if output.isEmpty then return status
  match ← writeTo 1 output with
  | .ok _ => return status
  | .error fault =>
    report ("write error: ".toList ++ fault.reason.toList)
    return 1

/-- Writes a text and gives a status. -/
def answer (status : Nat) (text : Chars) : Step Nat :=
  finish status text.bytes

/-- The bytes of a file, or of what is left of standard input for a dash, and whether they go on. -/
def partOf (path : Chars) : Step (Except Fault (List UInt8 × Bool)) := do
  if path = ['-'] then drainPart 0
  else
    let machine ← get
    match machine.openToRead path with
    | .error fault => return .error fault
    | .ok opening =>
      return (machine.contentFrom opening.source 0).map fun content => (content, machine.isCut opening.source)

/-- The bytes of a file, or of what is left of standard input for a dash, and whether more are needed than there
are; a device without an end gives as many zeros as are wanted. -/
def contentUpTo (wanted : Nat) (path : Chars) : Step (Except Fault (List UInt8 × Bool)) := do
  let machine ← get
  let source? := if path = ['-'] then (machine.opening? 0).map Prod.snd else (machine.openToRead path).toOption
  let endless := source?.any fun opening => opening.reads && (opening.source matches .device .zero | .device .full)
  if endless then return .ok (List.replicate wanted 0, false)
  return (← partOf path).map fun (content, goesOn) => (content, goesOn && decide (content.length < wanted))

/-- All bytes of a file, or of what is left of standard input for a dash. -/
def contentOf (path : Chars) : Step (Except Fault (List UInt8)) := do
  match ← partOf path with
  | .error fault => return .error fault
  | .ok (content, goesOn) =>
    if goesOn then starve
    return .ok content

/-- The bytes of a file, or of what is left of standard input for a dash, and whether they go on; where they do, the
beginning of a record is left out whose end is not known yet. -/
def recordsPart (ending : Char) (path : Chars) : Step (Except Fault (List UInt8 × Bool)) := do
  return (← partOf path).map fun (content, goesOn) =>
    let whole := if goesOn then (content.reverse.dropWhile fun byte => byte.toNat ≠ ending.toNat).reverse else content
    (whole, goesOn)

/-- The next line of standard input, without its end. -/
def nextLine : Step (Option Chars) := do
  let machine ← get
  let content := (machine.remaining 0).toOption.getD []
  let line := content.takeWhile fun byte => byte ≠ 0x0A
  let size := line.length + 1
  if content.length < size && machine.goesOn 0 then starve
  if content.isEmpty then return none
  set (machine.leaveUnread 0 (min size content.length) (content.drop size))
  return some (Chars.ofBytes line)

/-- Asks a question and gives whether the answer is yes. -/
def confirm (question : Chars) : Step Bool := do
  let _ ← writeTo 2 ((← get).title ++ ": ".toList ++ question).bytes
  match ← nextLine with
  | some line => return line.head? = some 'y' || line.head? = some 'Y'
  | none => return false

/-- Does something for every argument, and ends with one if any of it fails. -/
def forAll (arguments : List Chars) (body : Chars → Step Bool) : Step Nat := do
  let results ← arguments.mapM body
  return if results.all id then 0 else 1

/-- The files that a tool reads: standard input if none are given. -/
def inputs (operands : List Chars) : List Chars :=
  if operands.isEmpty then [['-']] else operands

/-- Gives up standard input after files have been read, and complains if it was among them without leading
anywhere. -/
def closeInput (files : List Chars) (what : String) (status : Nat) : Step Nat := do
  if !files.contains ['-'] ∨ ((← get).opening? 0).isSome then return status
  report (what.toList ++ ": ".toList ++ Fault.badHandle.reason.toList)
  return 1

/-- Does something with what files give that are read in a way, one after the other, standard input if none are
given, and complains about those that cannot be read. -/
def eachPart (read : Chars → Step (Except Fault (List UInt8 × Bool))) (operands : List Chars)
    (onFault : Chars → Fault → Step Nat) (body : List UInt8 → Bool → Step Nat) : Step Nat := do
  let files := inputs operands
  let statuses ← files.mapM fun file => do
    match ← read file with
    | .error fault => onFault file fault
    | .ok (content, goesOn) =>
      let status ← body content goesOn
      if goesOn then starve
      return status
  closeInput files "-" (statuses.foldl max 0)

/-- Does something with the records of files one after the other. -/
def eachRecords (ending : Char) (operands : List Chars) (onFault : Chars → Fault → Step Nat)
    (body : List UInt8 → Step Nat) : Step Nat :=
  eachPart (recordsPart ending) operands onFault fun content _ => body content

/-- Does something with the contents of files one after the other. -/
def eachContent (operands : List Chars) (onFault : Chars → Fault → Step Nat)
    (body : List UInt8 → Step Nat) : Step Nat :=
  eachPart (fun file => do return (← contentOf file).map fun content => (content, false)) operands onFault
    fun content _ => body content

/-- The complaint about a file that cannot be read, where nothing special is said about that. -/
def blameFault (file : Chars) (fault : Fault) : Step Nat :=
  blame file fault.reason

/-- What stands behind an option. -/
inductive Takes where
  /-- Nothing. -/
  | nothing
  /-- A word, in the same argument or in the next one. -/
  | word
  /-- Perhaps a word, which then stands in the same argument. -/
  | perhaps
deriving DecidableEq

/-- An option of a tool. -/
structure Flag where
  /-- The letter; where it can only be given by its long name, one that is no byte. -/
  letter : Char
  /-- The long name, which may be empty. -/
  name : String
  /-- What stands behind it. -/
  takes : Takes

/-- Flags with nothing behind them, each with its long name. -/
def flags (items : List (Char × String)) : List Flag :=
  items.map fun item => ⟨item.1, item.2, .nothing⟩

/-- Flags with a word behind them, each with its long name. -/
def taking (items : List (Char × String)) : List Flag :=
  items.map fun item => ⟨item.1, item.2, .word⟩

/-- Flags with perhaps a word behind them, each with its long name. -/
def perhaps (items : List (Char × String)) : List Flag :=
  items.map fun item => ⟨item.1, item.2, .perhaps⟩

/-- What ends the reading of options. -/
inductive Stop where
  /-- Something is wrong with them. -/
  | flaw (message : Chars)
  /-- It is asked how the tool is used. -/
  | usage
  /-- It is asked which tool it is. -/
  | name

/-- The flags that all tools have which read options in the common way. -/
def commonFlags : List Flag :=
  [⟨'ḥ', "help", .nothing⟩, ⟨'ṿ', "version", .nothing⟩]

/-- What is asked for by the letter of a flag that all tools have. -/
def Stop.of? : Char → Option Stop
  | 'ḥ' => some usage
  | 'ṿ' => some name
  | _ => none

/-- Options as they have been read, each with its argument, and the other arguments. -/
structure Options where
  /-- The letters of the options, each with its argument. -/
  found : List (Char × Chars)
  /-- The other arguments. -/
  operands : List Chars

namespace Options

/-- Nothing has been read. -/
def none : Options := ⟨[], []⟩

/-- An option has been given. -/
def has (options : Options) (letter : Char) : Bool :=
  options.found.any fun item => item.1 = letter

/-- One of some options has been given. -/
def hasAny (options : Options) (letters : String) : Bool :=
  letters.toList.any options.has

/-- The option among some that has been given last. -/
def lastOf (options : Options) (letters : String) : Option Char :=
  ((options.found.map Prod.fst).filter letters.toList.contains).getLast?

/-- The arguments of an option, as often as it was given. -/
def values (options : Options) (letter : Char) : List Chars :=
  (options.found.filter fun item => item.1 = letter).map Prod.snd

/-- The argument of an option, as it was given last. -/
def value? (options : Options) (letter : Char) : Option Chars :=
  (options.values letter).getLast?

/-- The options with another one in front. -/
def push (options : Options) (letter : Char) (value : Chars) : Options :=
  { options with found := (letter, value) :: options.found }

/-- A long option: its flag, and the argument that it brings with it. -/
def long (known : List Flag) (text : Chars) : Except Stop (Flag × Option Chars) :=
  let known := known ++ commonFlags
  let name := text.takeWhile fun c => c ≠ '='
  let value? := if name.length < text.length then some (text.drop (name.length + 1)) else Option.none
  let fits := known.filter fun flag => flag.name ≠ "" && name.isPrefixOf flag.name.toList
  let letters := (fits.map Flag.letter).eraseDups
  match fits.find? (fun flag => flag.name.toList = name), fits, letters with
  | some flag, _, _ | Option.none, flag :: _, [_] =>
    if value?.isSome ∧ flag.takes = .nothing then
      .error (.flaw ("option '--".toList ++ flag.name.toList ++ "' doesn't allow an argument".toList))
    else
      match Stop.of? flag.letter with
      | some stop => .error stop
      | Option.none => .ok (flag, value?)
  | Option.none, [], _ => .error (.flaw ("unrecognized option '--".toList ++ text ++ ['\x27']))
  | Option.none, fits, _ =>
    .error (.flaw ("option '--".toList ++ text ++ "' is ambiguous; possibilities:".toList ++
      (fits.flatMap fun flag => " '--".toList ++ flag.name.toList ++ ['\x27'])))

/-- The options among arguments; what follows two dashes is none, and neither is what follows the first
operand if that ends them. -/
def read (known : List Flag) (strict : Bool) : List Chars → Except Stop Options
  | [] => .ok none
  | ['-', '-'] :: rest => .ok ⟨[], rest⟩
  | ('-' :: '-' :: text) :: rest => do
    match ← long known text, rest with
    | (flag, some value), rest => return (← read known strict rest).push flag.letter value
    | (flag, Option.none), value :: rest =>
      if flag.takes = .word then return (← read known strict rest).push flag.letter value
      return (← read known strict (value :: rest)).push flag.letter []
    | (flag, Option.none), [] =>
      if flag.takes = .word then
        throw (.flaw ("option '--".toList ++ flag.name.toList ++ "' requires an argument".toList))
      return none.push flag.letter []
  | ('-' :: c :: letters) :: rest => run (c :: letters) rest
  | operand :: rest => do
    if strict then return ⟨[], operand :: rest⟩
    let options ← read known strict rest
    return { options with operands := operand :: options.operands }
where
  /-- The letters of one argument, and then what follows. -/
  run (letters : Chars) (rest : List Chars) : Except Stop Options :=
    match letters with
    | [] => read known strict rest
    | c :: more =>
      match known.find? fun flag => flag.letter = c with
      | Option.none => .error (.flaw ("invalid option -- '".toList ++ [c] ++ ['\x27']))
      | some flag => do
        if flag.takes = .nothing then return (← run more rest).push c []
        if !more.isEmpty ∨ flag.takes = .perhaps then return (← read known strict rest).push c more
        match rest with
        | value :: rest => return (← read known strict rest).push c value
        | [] => throw (.flaw ("option requires an argument -- '".toList ++ [c] ++ ['\x27']))

end Options

/-- Answers what is asked, or does something about what is wrong with options. -/
def Stop.answer (onFlaw : Chars → Step Nat) : Stop → Step Nat
  | flaw message => onFlaw message
  | usage => do
    let title := (← get).title
    Tool.answer 0 (usageText title (baseName title))
  | name => do Tool.answer 0 (baseName (← get).title ++ ['\n'])

/-- Reads the options of a tool and goes on with them, or complains about them. -/
def withOptions (known : List Flag) (arguments : List Chars)
    (body : Options → Step Nat) : Step Nat :=
  match Options.read known false arguments with
  | .ok options => body options
  | .error stop => stop.answer (misusedWith 1)

/-- The pieces of a text that each end with a line end, but perhaps for the last. -/
def linesOf (bytes : List UInt8) : List (List UInt8) :=
  let pieces := Text.splitOn (0x0A : UInt8) bytes
  (pieces.dropLast.map fun line => line ++ [0x0A]) ++
    (pieces.getLast?.toList.filter fun line => !line.isEmpty)

/-- The records of a text, each without the character that ends it, which the last one may lack. -/
def records (ending : Char) (text : Chars) : List Chars :=
  let pieces := Text.splitOn ending text
  if pieces.getLast? = some [] then pieces.dropLast else pieces

/-- The lines of a text without their ends. -/
def bareLines (bytes : List UInt8) : List Chars :=
  records '\n' (Chars.ofBytes bytes)

/-- Records with their ends. -/
def ended (ending : Char) (records : List Chars) : Chars :=
  (records.map fun record => record ++ [ending]).flatten

/-- What ends the records of a tool that may be told to take zeros for that. -/
def recordEnd (options : Options) : Char :=
  if options.has 'z' then '\x00' else '\n'

/-- A number in its place at the right. -/
def padded (width : Nat) (text : Chars) : Chars :=
  List.replicate (width - text.length) ' ' ++ text

/-- From now on standard output goes to a file, which is emptied or made. -/
def redirectOutput (path : Chars) : Step (Except Fault Unit) := do
  match (← get).openToWrite path fun _ => [] with
  | .error fault => return .error fault
  | .ok (opening, machine) =>
    let (number, machine) := machine.openNew opening
    set (machine.lead 1 number)
    return .ok ()

/-- The file that standard output goes to is the one at a path, and all of it would be read again. -/
def feedsItself (path : Chars) : Step Bool := do
  let machine ← get
  match machine.opening? 1 with
  | some (_, ⟨.file target, _, _, _, _⟩) =>
    if path = ['-'] then return false
    match machine.tree.locate machine.directory path.bytes with
    | .ok (handle, .file content _) => return handle = target && !content.isEmpty
    | _ => return false
  | _ => return false

/-- Gives back a number of the bytes that have been taken from the file that is standard input. -/
def giveBack (count : Nat) : Step Unit :=
  modify fun machine =>
    match machine.opening? 0 with
    | some (number, opening) => machine.setOpening number { opening with offset := opening.offset - count }
    | none => machine

/-! ## Sizes -/

/-- What is wrong with a size. -/
inductive SizeFlaw where
  /-- It is no number. -/
  | invalid
  /-- It is too large. -/
  | large
  /-- It is not among those that are allowed. -/
  | outside
deriving DecidableEq

/-- What a complaint about a size ends with. -/
def SizeFlaw.ending : SizeFlaw → Chars
  | invalid => []
  | large => ": Value too large for defined data type".toList
  | outside => ": Numerical result out of range".toList

/-- The number that letters behind a size multiply it by. -/
def unit? (letters : Chars) : Option Nat :=
  let powers := ['K', 'M', 'G', 'T', 'P', 'E', 'Z', 'Y']
  let power := fun c : Char => (powers.findIdx? fun d => d = c).map (· + 1)
  match letters with
  | [] => some 1
  | ['b'] => some 512
  | ['k'] => some 1024
  | ['m'] => some 1048576
  | ['k', 'B'] | ['k', 'D'] => some 1000
  | [c] | [c, 'i', 'B'] => (power c).map fun n => Nat.pow 1024 n
  | [c, 'B'] | [c, 'D'] => (power c).map fun n => Nat.pow 1000 n
  | _ => none

/-- The greatest size. -/
def greatestSize : Nat := 18446744073709551615

/-- A size in words; letters behind it multiply it, if that is allowed, and may stand alone. -/
def size? (scaled : Bool) (text : Chars) : Except SizeFlaw Nat :=
  let text := text.dropWhile fun c => c = ' ' || ('\t' ≤ c && c ≤ '\r')
  let text := if text.head? = some '+' then text.tail else text
  let digits := text.takeWhile Char.isDigit
  let letters := text.drop digits.length
  if digits.isEmpty ∧ (letters.isEmpty ∨ scaled = false) then .error .invalid
  else
    match if scaled ∨ letters.isEmpty then unit? letters else none with
    | none => .error .invalid
    | some unit =>
      let size := (if digits.isEmpty then 1 else Chars.toNat digits) * unit
      if greatestSize < size then .error .large else .ok size

/-- A number between bounds in words, perhaps with a sign in front of it. -/
def bounded? (low high : Int) (text : Chars) : Except SizeFlaw Int :=
  let text := text.dropWhile Char.isWhitespace
  let negative := text.head? = some '-'
  let digits := if negative ∨ text.head? = some '+' then text.tail else text
  if digits.isEmpty ∨ !digits.all Char.isDigit then .error .invalid
  else
    let size : Int := Chars.toNat digits
    let value := if negative then -size else size
    if low ≤ value ∧ value ≤ high then .ok value
    else if Number.greatestCount / 2 < size then .error .large
    else .error .outside

/-- The value that an option gives, read in a way, or the words for what is wrong with it. -/
def Options.readValue {α : Type} (options : Options) (letter : Char) (read : Chars → Except SizeFlaw α)
    (what : String) : Except Chars (Option α) :=
  match options.value? letter with
  | Option.none => .ok Option.none
  | some text =>
    match read text with
    | .ok value => .ok (some value)
    | .error flaw => .error (what.toList ++ ": ".toList ++ quoted text ++ flaw.ending)

/-- Goes on with what has been read from options, or complains and fails. -/
def orReport {α : Type} (result : Except Chars α) (body : α → Step Nat) : Step Nat := do
  match result with
  | .ok value => body value
  | .error message =>
    report message
    return 1

/-! ## Choices -/

/-- What a word means that an option takes, given the words and what they mean, of which words that mean the same
follow one another; a word may be cut short where that leaves no doubt. -/
def choice {α : Type} [DecidableEq α] (option : String) (choices : List (String × α)) (text : Chars) :
    Step (Option α) := do
  let fits := choices.filter fun item => text.isPrefixOf item.1.toList
  match choices.find? fun item => item.1.toList = text, (fits.map Prod.snd).eraseDups with
  | some item, _ => return some item.2
  | none, [value] => return some value
  | none, values =>
    let problem := if values.isEmpty then "invalid argument " else "ambiguous argument "
    report (problem.toList ++ quoted text ++ " for ".toList ++ quoted option.toList)
    complain "Valid arguments are:".toList
    for value in (choices.map Prod.snd).eraseDups do
      let names := (choices.filter fun item => item.2 = value).map fun item => quoted item.1.toList
      complain ("  - ".toList ++ ", ".toList.intercalate names)
    hint
    return none

/-! ## Paths -/

/-- A path without its last name. -/
def dirName (path : Chars) : Chars :=
  let trimmed := (path.reverse.dropWhile fun c => c = '/').reverse
  let front := trimmed.reverse.dropWhile fun c => c ≠ '/'
  let directory := (front.dropWhile fun c => c = '/').reverse
  if directory.isEmpty then (if path.head? = some '/' then ['/'] else ['.']) else directory

/-- A name in a directory, as a path. -/
def within (directory name : Chars) : Chars :=
  directory ++ (if directory.getLast? = some '/' then [] else ['/']) ++ name

end Tool

end CounterCatalog.Shell
