import CounterCatalog.Shell.Tool.Resize

/-!
# Copying in blocks

`dd` copies bytes block by block, from a place in one file to a place in another one, changes them on the way,
and tells how many blocks it has read and written. What it is to do is given in words with equals signs.
-/

set_option autoImplicit false

namespace CounterCatalog.Shell.Tool

open Step

namespace Blocks

/-- The name of a number that can be given. -/
inductive Measure where
  /-- The size of the blocks that are read and written. -/
  | size
  /-- The size of the blocks that are read. -/
  | input
  /-- The size of the blocks that are written. -/
  | output
  /-- The size of the records that lines become. -/
  | record
  /-- How much of the input is passed over. -/
  | skip
  /-- How much of the output is passed over. -/
  | seek
  /-- How much is copied. -/
  | count
deriving DecidableEq

/-- The names of numbers in words. -/
def measures : List (String × Measure) :=
  [("bs", .size), ("ibs", .input), ("obs", .output), ("cbs", .record), ("skip", .skip), ("iseek", .skip),
   ("seek", .seek), ("oseek", .seek), ("count", .count)]

/-- What a word says. -/
inductive Setting where
  /-- Where the bytes come from. -/
  | source (path : Chars)
  /-- Where the bytes go to. -/
  | target (path : Chars)
  /-- How bytes are changed and files are treated. -/
  | conversions (names : List Chars)
  /-- How the input is read. -/
  | inputFlags (names : List Chars)
  /-- How the output is written. -/
  | outputFlags (names : List Chars)
  /-- How much is told. -/
  | level (name : Chars)
  /-- A number, and whether it counts bytes. -/
  | number (measure : Measure) (value : Nat) (ofBytes : Bool)

/-- The names of conversions. -/
def conversionNames : List String :=
  ["block", "excl", "fdatasync", "fsync", "lcase", "nocreat", "noerror", "notrunc", "sparse", "swab", "sync",
   "ucase", "unblock"]

/-- The names of ways to read and write. -/
def flagNames : List String :=
  ["append", "count_bytes", "direct", "directory", "dsync", "fullblock", "noatime", "nocache", "noctty",
   "nofollow", "nonblock", "seek_bytes", "skip_bytes", "sync"]

/-- The names of how much is told. -/
def levelNames : List String :=
  ["none", "noxfer", "progress"]

/-- What letters behind a number multiply it by. -/
def factor? (letters : Chars) : Option Nat :=
  match letters with
  | ['c'] => some 1
  | ['w'] => some 2
  | 'm' :: _ => none
  | letters => unit? letters

/-- One of the factors that a number is given as. -/
def factorOf? (text : Chars) : Option Nat :=
  let text := text.dropWhile Char.isWhitespace
  let text := if text.head? = some '+' then text.tail else text
  let digits := text.takeWhile Char.isDigit
  let letters := text.drop digits.length
  let factor := (factor? letters).orElse fun _ =>
    let front := letters.dropLast
    if letters.getLast? = some 'B' ∧ front.getLast? ≠ some 'B' ∧ (!digits.isEmpty ∨ !front.isEmpty) then factor? front
    else none
  if text.isEmpty then none
  else factor.map fun factor => (if digits.isEmpty then 1 else Chars.toNat digits) * factor

/-- A number, which may be given as a product. -/
def number? (text : Chars) : Except SizeFlaw Nat :=
  match (Text.splitOn 'x' text).mapM factorOf? with
  | none => .error .invalid
  | some factors =>
    let product := factors.foldl Nat.mul 1
    if greatestSize / 2 < product then .error .large else .ok product

/-- What is wrong with a word: whether the use of the tool is to be explained, and the complaint. -/
abbrev Mistake := Bool × Chars

/-- The names in a list, if all of them are known. -/
def namesIn (known : List String) (what : String) (list : Chars) : Except Mistake (List Chars) :=
  let names := Text.splitOn ',' list
  match names.find? fun name => !(known.map String.toList).contains name with
  | some name => .error (true, what.toList ++ ": ".toList ++ quoted name)
  | none => .ok names

/-- What a word says, or what is wrong with it. -/
def setting (word : Chars) : Except Mistake Setting :=
  let name := word.takeWhile fun c => c ≠ '='
  let value := word.drop (name.length + 1)
  let isNamed := fun other : String => other.toList = name
  if name.length = word.length then .error (true, "unrecognized operand ".toList ++ quoted word)
  else if isNamed "if" then .ok (.source value)
  else if isNamed "of" then .ok (.target value)
  else if isNamed "conv" then (namesIn conversionNames "invalid conversion" value).map .conversions
  else if isNamed "iflag" then (namesIn flagNames "invalid input flag" value).map .inputFlags
  else if isNamed "oflag" then (namesIn flagNames "invalid output flag" value).map .outputFlags
  else if isNamed "status" then
    (namesIn levelNames "invalid status level" value).map fun names => .level (names.getLast?.getD [])
  else
    match measures.find? fun item => isNamed item.1 with
    | none => .error (true, "unrecognized operand ".toList ++ quoted word)
    | some (_, measure) =>
      let mayBeZero := measure = .skip ∨ measure = .seek ∨ measure = .count
      match number? value with
      | .ok number =>
        if number = 0 ∧ !mayBeZero then .error (false, "invalid number: ".toList ++ quoted value)
        else .ok (.number measure number (value.contains 'B'))
      | .error flaw => .error (false, "invalid number: ".toList ++ quoted value ++ flaw.ending)

/-- The numbers in a word begin with a zero that looks like a mark for another base. -/
def looksMarked (word : Chars) : Bool :=
  let name := word.takeWhile fun c => c ≠ '='
  let value := word.drop (name.length + 1)
  (measures.any fun item => item.1.toList = name) && "0x".toList.isPrefixOf value && (number? value).isOk

/-- What is to be done, as words have said it. -/
structure Request where
  /-- What the words say, in order. -/
  settings : List Setting

namespace Request

/-- The last value that the words give for something. -/
def last? {α : Type} (request : Request) (value : Setting → Option α) : Option α :=
  (request.settings.filterMap value).getLast?

/-- The last number with a name, and whether it counts bytes. -/
def number? (request : Request) (measure : Measure) : Option (Nat × Bool) :=
  request.last? fun
    | .number other value ofBytes => if other = measure then some (value, ofBytes) else none
    | _ => none

/-- Where the bytes come from, if that is not standard input. -/
def source? (request : Request) : Option Chars :=
  request.last? fun
    | .source path => some path
    | _ => none

/-- Where the bytes go to, if that is not standard output. -/
def target? (request : Request) : Option Chars :=
  request.last? fun
    | .target path => some path
    | _ => none

/-- The name of the input in complaints. -/
def sourceName (request : Request) : Chars :=
  request.source?.getD "standard input".toList

/-- The name of the output in complaints. -/
def targetName (request : Request) : Chars :=
  request.target?.getD "standard output".toList

/-- A conversion is asked for. -/
def converts (request : Request) (name : String) : Bool :=
  request.settings.any fun
    | .conversions names => names.contains name.toList
    | _ => false

/-- The input is to be read in a way. -/
def reads (request : Request) (name : String) : Bool :=
  request.settings.any fun
    | .inputFlags names => names.contains name.toList
    | _ => false

/-- The output is to be written in a way. -/
def writes (request : Request) (name : String) : Bool :=
  request.settings.any fun
    | .outputFlags names => names.contains name.toList
    | _ => false

/-- How much is told. -/
def isLevel (request : Request) (name : String) : Bool :=
  (request.last? fun
    | .level name => some name
    | _ => none) = some name.toList

/-- The size of the blocks that are read. -/
def inputBlock (request : Request) : Nat :=
  ((request.number? .size).orElse fun _ => request.number? .input).elim 512 Prod.fst

/-- The size of the blocks that are written. -/
def outputBlock (request : Request) : Nat :=
  ((request.number? .size).orElse fun _ => request.number? .output).elim 512 Prod.fst

/-- An amount in bytes: a number that counts blocks unless it has been said that it counts bytes. -/
def amount? (request : Request) (measure : Measure) (block : Nat) (flagged : Bool) : Option Nat :=
  (request.number? measure).map fun (value, ofBytes) => if ofBytes || flagged then value else value * block

/-- The number of bytes of the input that are passed over. -/
def skipped (request : Request) : Nat :=
  (request.amount? .skip request.inputBlock (request.reads "skip_bytes")).getD 0

/-- The number of bytes of the output that are passed over. -/
def sought (request : Request) : Nat :=
  (request.amount? .seek request.outputBlock (request.writes "seek_bytes")).getD 0

/-- The number of bytes that are copied, if there is a limit. -/
def limit? (request : Request) : Option Nat :=
  request.amount? .count request.inputBlock (request.reads "count_bytes")

/-- Blocks are written as they have been read. -/
def isDirect (request : Request) : Bool :=
  (request.number? .size).isSome && !(["block", "lcase", "swab", "ucase", "unblock"].any request.converts)

/-- What is wrong with the words taken together. -/
def mistake? (request : Request) : Option Mistake :=
  let both := fun first second : String => request.converts first && request.converts second
  let recorded := (request.number? .record).isSome
  if request.writes "fullblock" then some (true, "invalid output flag: 'fullblock'".toList)
  else if recorded && both "block" "unblock" then some (false, "cannot combine block and unblock".toList)
  else if both "lcase" "ucase" then some (false, "cannot combine lcase and ucase".toList)
  else if both "excl" "nocreat" then some (false, "cannot combine excl and nocreat".toList)
  else if (request.reads "direct" && request.reads "nocache") ||
      (request.writes "direct" && request.writes "nocache") then
    some (false, "cannot combine direct and nocache".toList)
  else none

end Request

/-! ## Changing bytes -/

/-- Bytes in which neighbours have changed places; a last one without a neighbour stays. -/
def swapped : List UInt8 → List UInt8
  | a :: b :: rest => b :: a :: swapped rest
  | rest => rest

/-- Lines as records of a size, filled up with blanks and cut off where they are longer; and the number of lines
that have been cut off. -/
def recordsOfLines (size : Nat) (content : List UInt8) : List UInt8 × Nat :=
  let lines := Text.splitOn (0x0A : UInt8) content
  let lines := if lines.getLast? = some [] then lines.dropLast else lines
  let record := fun line : List UInt8 => line.take size ++ List.replicate (size - line.length) 0x20
  (lines.flatMap record, (lines.filter fun line => decide (size < line.length)).length)

/-- Records of a size as lines, without the blanks at their ends; given at least as many steps as there are
bytes. -/
def linesOfRecords (size : Nat) : Nat → List UInt8 → List UInt8
  | 0, _ | _, [] => []
  | steps + 1, content =>
    let record := content.take size
    ((record.reverse.dropWhile fun byte => byte = 0x20).reverse ++ [0x0A]) ++
      linesOfRecords size steps (content.drop size)

/-- A byte with its letter changed. -/
def mapLetter (change : Char → Char) (byte : UInt8) : UInt8 :=
  (change (Char.ofNat byte.toNat)).toNat.toUInt8

/-- What becomes of the bytes that are read, and the number of records that are cut off. -/
def converted (request : Request) (content : List UInt8) : List UInt8 × Nat :=
  let record? := (request.number? .record).map Prod.fst
  let lack := (request.inputBlock - content.length % request.inputBlock) % request.inputBlock
  let filler : UInt8 :=
    if record?.isSome && (request.converts "block" || request.converts "unblock") then 0x20 else 0
  let content := if request.converts "sync" then content ++ List.replicate lack filler else content
  let content :=
    if request.converts "ucase" then content.map (mapLetter Char.toUpper)
    else if request.converts "lcase" then content.map (mapLetter Char.toLower) else content
  let content := if request.converts "swab" then swapped content else content
  match record? with
  | none => (content, 0)
  | some size =>
    if request.converts "block" then recordsOfLines size content
    else if request.converts "unblock" then (linesOfRecords size content.length content, 0)
    else (content, 0)

/-! ## Telling -/

/-- Full blocks and others in some number of bytes. -/
def tally (block size : Nat) : Chars :=
  Chars.ofNat (size / block) ++ ['+'] ++ (if size % block = 0 then ['0'] else ['1'])

/-- Tells how much has been copied. -/
def tell (request : Request) (read written truncated : Nat) : Step Unit := do
  if request.isLevel "none" then return ()
  complain (tally request.inputBlock read ++ " records in".toList)
  complain (tally request.outputBlock written ++ " records out".toList)
  if truncated ≠ 0 then
    complain (Chars.ofNat truncated ++
      (if truncated = 1 then " truncated record" else " truncated records").toList)
  unless request.isLevel "noxfer" do
    complain (Chars.ofNat written ++ (if written = 1 then " byte" else " bytes").toList ++ " copied, 0 s".toList)

/-! ## Opening -/

/-- Opens the input, which from then on is standard input. -/
def openSource (request : Request) (path : Chars) : Step (Except Fault Unit) := do
  let machine ← get
  let bare := machine.tree.view machine.directory path.bytes
  if request.reads "nofollow" && (bare matches .ok (_, .link _)) then return .error .tooManyLinks
  match machine.openToRead path with
  | .error fault => return .error fault
  | .ok opening =>
    if request.reads "directory" && !(opening.source matches .directory _) then return .error .notADirectory
    let (number, machine) := machine.openNew opening
    set (machine.lead 0 number)
    return .ok ()

/-- Opens the output, which from then on is standard output. -/
def openTarget (request : Request) (path : Chars) : Step (Except Fault Unit) := do
  let machine ← get
  let exists_ := machine.tree.pathExists machine.directory path.bytes
  if request.converts "excl" && (machine.tree.view machine.directory path.bytes).isOk then return .error .alreadyExists
  if request.converts "nocreat" && !exists_ then return .error .notFound
  let kept := if request.outputBlock ≤ request.sought then request.sought else 0
  let keep := fun content : List UInt8 =>
    if request.converts "notrunc" then content else Resize.resized kept content
  match machine.openToWrite path keep with
  | .error fault => return .error fault
  | .ok (opening, machine) =>
    let (number, machine) := machine.openNew { opening with appends := request.writes "append" }
    set (machine.lead 1 number)
    if !exists_ && !request.converts "notrunc" && kept ≠ 0 then
      if let .file handle := opening.source then
        set { machine.lead 1 number with tree := machine.tree.writeAt handle 0 (List.replicate kept 0) }
    return .ok ()

/-! ## Copying -/

/-- Passes over the beginning of the output, and gives the complaint if that cannot be done. -/
def seek (request : Request) : Step (Option Chars) := do
  let machine ← get
  match machine.opening? 1 with
  | some (number, opening) =>
    match opening.source with
    | .file _ =>
      set (machine.setOpening number { opening with offset := opening.offset + request.sought })
      return none
    | .device _ => return none
    | _ =>
      return some (fileName request.targetName ++ ": cannot seek: ".toList ++ Fault.illegalSeek.reason.toList)
  | none => return none

/-- Takes from the input what is to be passed over and copied, and gives what is to be copied, and whether more
would be; tells if there is less than is to be passed over. -/
def take (request : Request) : Step (Except Fault (List UInt8 × Bool)) := do
  let machine ← get
  match machine.remaining 0 with
  | .error fault => return .error fault
  | .ok content =>
    let isDevice := (machine.opening? 0).any fun item => item.2.source matches .device _
    let skipped := if isDevice then 0 else request.skipped
    let content :=
      match request.limit? with
      | some limit => if isDevice && !content.isEmpty then List.replicate limit (0 : UInt8) else content
      | none => content
    if content.length < skipped && machine.goesOn 0 then starve
    if content.length < skipped && !request.isLevel "none" then
      report (fileName request.sourceName ++ ": cannot skip to specified offset".toList)
    let rest := content.drop skipped
    let part := request.limit?.elim rest rest.take
    let isShort := request.limit?.all fun limit => decide (part.length < limit)
    let used := min content.length (skipped + part.length)
    modify fun machine => machine.leaveUnread 0 used (content.drop used)
    return .ok (part, isShort && machine.goesOn 0)

/-- The number of bytes that have been read when the first block is written. -/
def readBeforeWriting (request : Request) (size : Nat) : Nat :=
  let first :=
    if request.isDirect then request.inputBlock
    else (request.outputBlock + request.inputBlock - 1) / request.inputBlock * request.inputBlock
  min size first

/-- Copies what is to be copied between streams that are open. -/
def copy (request : Request) : Step Nat := do
  let part ← take request
  let sought? ← if request.sought = 0 then pure none else seek request
  if let some message := sought? then
    report message
    tell request 0 0 0
    return 1
  if request.limit? = some 0 then
    tell request 0 0 0
    return 0
  match part with
  | .error fault =>
    report ("error reading ".toList ++ quoted request.sourceName ++ ": ".toList ++ fault.reason.toList)
    tell request 0 0 0
    return 1
  | .ok (content, waits) =>
    let (result, truncated) := converted request content
    match ← if result.isEmpty then pure (.ok ()) else writeTo 1 result with
    | .error fault =>
      report ("error writing ".toList ++ quoted request.targetName ++ ": ".toList ++ fault.reason.toList)
      tell request (readBeforeWriting request content.length) 0 truncated
      return 1
    | .ok _ =>
      if waits then starve
      let toFile := ((← get).opening? 1).any fun item => item.2.source matches .file _
      let status ←
        if !toFile && (request.converts "fsync" || request.converts "fdatasync") then do
          report ("fsync failed for ".toList ++ quoted request.targetName ++ ": ".toList ++
            Fault.invalid.reason.toList)
          pure 1
        else pure 0
      tell request content.length result.length truncated
      return status

end Blocks

/-- Copies bytes in blocks. -/
def dd : Tool := fun arguments =>
  withOptions [] arguments fun options => do
    let mut settings : List Blocks.Setting := []
    for word in options.operands do
      if Blocks.looksMarked word then
        report "warning: '0x' is a zero multiplier; use '00x' if that is intended".toList
      match Blocks.setting word with
      | .ok setting => settings := settings ++ [setting]
      | .error (hinted, message) =>
        if hinted then return ← misusedWith 1 message
        report message
        return 1
    let request : Blocks.Request := ⟨settings⟩
    if let some (hinted, message) := request.mistake? then
      if hinted then return ← misusedWith 1 message
      report message
      return 1
    if let some path := request.source? then
      if let .error fault ← Blocks.openSource request path then
        report ("failed to open ".toList ++ quoted path ++ ": ".toList ++ fault.reason.toList)
        return 1
    if let some path := request.target? then
      if let .error fault ← Blocks.openTarget request path then
        report ("failed to open ".toList ++ quoted path ++ ": ".toList ++ fault.reason.toList)
        return 1
    Blocks.copy request

end CounterCatalog.Shell.Tool
