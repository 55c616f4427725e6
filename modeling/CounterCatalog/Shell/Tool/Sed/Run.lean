import CounterCatalog.Shell.Tool.Common
import CounterCatalog.Shell.Tool.Sed.Script
import CounterCatalog.Tree.Edit

/-!
# Editing streams

`sed` takes one line after the other, does to each what a script says, and writes what has become of it. What
is written to standard output and to files is held back to the end.
-/

set_option autoImplicit false

namespace CounterCatalog.Shell.Sed

/-- What is written behind a line. -/
inductive Trailer where
  /-- A text. -/
  | text (text : Chars)
  /-- A line, with its end where it has one. -/
  | line (text : Chars)
  /-- A file. -/
  | file (path : Chars)

/-- How a range of lines that has begun is to end. -/
inductive Reach where
  /-- With the line of a number. -/
  | upTo (line : Nat)
  /-- With the next line that is chosen by what ends the range. -/
  | openEnded
  /-- It has ended, and no such range begins again. -/
  | over

/-- How a stream is edited. -/
structure Setup where
  /-- Lines are written only where the script says so. -/
  quiet : Bool
  /-- Each file is a stream of its own. -/
  separate : Bool
  /-- What is written takes the place of the file, which is kept under another name if that is not empty. -/
  inPlace? : Option Chars
  /-- What ends a line. -/
  ending : Char
  /-- The length of lines that show everything. -/
  width : Nat
  /-- The script. -/
  script : Array Instruction

/-- Lines with whether each has an end. -/
abbrev Lines := List (Chars × Bool)

/-- How far the editing has come. -/
structure State where
  /-- The line that is edited. -/
  space : Chars
  /-- That line has an end. -/
  ended : Bool
  /-- The text that is held. -/
  held : Chars
  /-- That text has an end. -/
  heldEnded : Bool
  /-- The number of lines that have been read. -/
  count : Nat
  /-- The lines of the file that is read. -/
  pending : Lines
  /-- More of them come behind those. -/
  waits : Bool
  /-- The file that is read. -/
  current? : Option Chars
  /-- The files that are to be read. -/
  files : List Chars
  /-- What is written behind the line, in order. -/
  trailers : List Trailer
  /-- Something has been replaced since a line was read. -/
  replaced : Bool
  /-- The ranges that have begun, by the number of the instruction. -/
  ranges : List (Nat × Reach)
  /-- The pattern that was looked for last. -/
  last? : Option Pattern
  /-- What is left of the files of which single lines are read. -/
  readers : List (Chars × Lines)
  /-- The streams to which files are written, by path. -/
  writers : List (Chars × Nat)
  /-- The streams on which the last line has no end yet. -/
  unended : List Nat
  /-- What is to be written, last piece first. -/
  output : List Chars
  /-- What is to be written to files, each with the stream that leads there, last piece first. -/
  kept : List (Nat × Chars)
  /-- The status in which the tool ends if nothing else happens. -/
  status : Nat

/-- A step of editing, which may end all of it with a status. -/
abbrev Run (α : Type) := ExceptT Nat (StateT State Step) α

/-- Does something that the shell does. -/
def perform {α : Type} (step : Step α) : Run α :=
  ExceptT.lift (StateT.lift step)

/-- Ends with a complaint. -/
def giveUp {α : Type} (status : Nat) (words : Chars) : Run α := do
  perform (Tool.report words)
  throw status

/-! ## Writing -/

/-- Writes a text to a stream, behind the end of a line that still lacks it. -/
def put (setup : Setup) (stream : Nat) (text : Chars) : Run Unit := do
  let state ← get
  let text := if state.unended.contains stream then setup.ending :: text else text
  set { state with unended := state.unended.filter fun other => other ≠ stream }
  if stream = 1 then modify fun state => { state with output := text :: state.output }
  else if stream = 2 then
    let _ ← perform (Step.writeTo stream (Chars.bytes text))
  else modify fun state => { state with kept := (stream, text) :: state.kept }

/-- Writes a line to a stream, and its end if it has one. -/
def putLine (setup : Setup) (stream : Nat) (line : Chars) (ended : Bool) : Run Unit := do
  put setup stream (if ended then line ++ [setup.ending] else line)
  unless ended do modify fun state => { state with unended := stream :: state.unended }

/-- Writes the line that is edited. -/
def putSpace (setup : Setup) (stream : Nat) : Run Unit := do
  let state ← get
  putLine setup stream state.space state.ended

/-- The lines of a text. -/
def linesIn (ending : Char) (text : Chars) : Lines :=
  let pieces := Text.splitOn ending text
  (pieces.dropLast.map fun line => (line, true)) ++
    ((pieces.getLast?.toList.filter fun line => !line.isEmpty).map fun line => (line, false))

/-- Writes what is to stand behind the line. -/
def putTrailers (setup : Setup) : Run Unit := do
  let trailers := (← get).trailers
  modify fun state => { state with trailers := [] }
  for trailer in trailers do
    match trailer with
    | .text text => put setup 1 text
    | .line text => putLine setup 1 text true
    | .file path =>
      let input := if path = "/dev/stdin".toList then ['-'] else path
      match ← perform (Tool.contentOf input) with
      | .ok content => unless content.isEmpty do put setup 1 (Chars.ofBytes content)
      | .error _ => pure ()

/-- The next line of a file of which single lines are read. -/
def nextOf (setup : Setup) (path : Chars) : Run (Option Chars) := do
  let state ← get
  let left ←
    match state.readers.find? fun item => item.1 = path with
    | some (_, left) => pure left
    | none =>
      match ← perform (Tool.contentOf path) with
      | .ok content => pure (linesIn setup.ending (Chars.ofBytes content))
      | .error _ => pure []
  let others := state.readers.filter fun item => item.1 ≠ path
  modify fun state => { state with readers := (path, left.tail) :: others }
  return left.head?.map Prod.fst

/-! ## Reading -/

/-- The name under which a file is kept when another takes its place. -/
def keptName (suffix path : Chars) : Chars :=
  let name := Tool.baseName path
  let kept := if suffix.contains '*' then suffix.flatMap fun c => if c = '*' then name else [c] else name ++ suffix
  if kept.contains '/' ∨ !path.contains '/' then kept else Tool.within (Tool.dirName path) kept

/-- The tree with another file in the place of the one at a path, which is kept under another name if that is
not empty; it has the permissions of the file that it replaces. -/
def withReplaced (tree : Tree) (directory : Handle) (path kept : Chars) (content : List UInt8) :
    Except Fault Tree := do
  let (_, node) ← tree.locate directory path.bytes
  let tree ← if kept.isEmpty then pure tree else tree.rename directory path.bytes kept.bytes
  let slot ← tree.slotOf directory path.bytes .isADirectory
  return (tree.place slot.directory slot.name (.file content (Tree.modeOf node))).2

/-- Puts what has been written in the place of the file that has been read. -/
def replaceFile (setup : Setup) : Run Unit := do
  let state ← get
  let some suffix := setup.inPlace? | return ()
  let some path := state.current? | return ()
  let written := state.output.reverse.flatten
  set { state with output := [], current? := none, unended := [] }
  let kept := if suffix.isEmpty then [] else keptName suffix path
  let change := fun machine : Machine => withReplaced machine.tree machine.directory path kept (Chars.bytes written)
  perform (modify fun machine => (change machine).toOption.elim machine fun tree => { machine with tree := tree })

/-- The ranges that have begun before the first line. -/
def openRanges (script : Array Instruction) : List (Nat × Reach) :=
  (List.range script.size).filterMap fun place =>
    (script[place]?).bind fun instruction =>
      if instruction.guard.fromStart then some (place, .openEnded) else none

/-- Opens a file to be read, and complains if that is not possible. -/
def openFile (setup : Setup) (path : Chars) : Run Unit := do
  let machine ← perform get
  if setup.inPlace?.isSome then
    match machine.tree.locate machine.directory path.bytes with
    | .ok (_, .file _ _) => pure ()
    | .ok _ =>
      perform (Tool.report ("couldn't edit ".toList ++ path ++ ": not a regular file".toList))
      modify fun state => { state with status := 4 }
      return ()
    | .error _ => pure ()
  match ← perform (Tool.recordsPart setup.ending path) with
  | .ok (content, goesOn) =>
    modify fun state =>
      { state with
        pending := linesIn setup.ending (Chars.ofBytes content)
        waits := goesOn
        current? := some path }
    if setup.separate then
      modify fun state => { state with count := 0, ranges := openRanges setup.script, readers := [] }
  | .error .isADirectory =>
    giveUp 4 ("read error on ".toList ++ path ++ ": ".toList ++ Fault.isADirectory.reason.toList)
  | .error fault =>
    perform (Tool.report ("can't read ".toList ++ path ++ ": ".toList ++ fault.reason.toList))
    modify fun state => { state with status := 2 }

/-- Writes what has been held back. -/
def flush (state : State) (status : Nat) : Step Nat := do
  for (_, stream) in state.writers do
    let pieces := (state.kept.reverse.filter fun item => item.1 = stream).map Prod.snd
    let _ ← Step.writeTo stream (Chars.bytes pieces.flatten)
  Tool.answer status state.output.reverse.flatten

/-- Opens files until there is a line to be read, given as many steps as there are files. -/
def seekLine (setup : Setup) : Nat → Run Bool
  | 0 => return !(← get).pending.isEmpty
  | steps + 1 => do
    let state ← get
    unless state.pending.isEmpty do return true
    if state.waits then
      let _ ← perform (flush state 0)
      perform Step.starve
    replaceFile setup
    match state.files with
    | [] => return false
    | file :: rest =>
      modify fun state => { state with files := rest }
      openFile setup file
      seekLine setup steps

/-- There is a line to be read. -/
def hasLine (setup : Setup) : Run Bool := do
  seekLine setup ((← get).files.length + 1)

/-- The line that is edited is the last one. -/
def isLast (setup : Setup) : Run Bool := do
  if setup.separate then return (← get).pending.isEmpty
  return !(← hasLine setup)

/-- Reads a line, if there is one. -/
def readLine (setup : Setup) : Run (Option (Chars × Bool)) := do
  unless ← hasLine setup do return none
  let state ← get
  match state.pending with
  | [] => return none
  | (line, ended) :: rest =>
    let ended := ended || (!state.files.isEmpty && !setup.separate)
    set { state with pending := rest, count := state.count + 1, replaced := false }
    return some (line, ended)

/-! ## Choosing lines -/

/-- The expression that a pattern stands for, and how the line that is edited is looked at for it. -/
def chosen (pattern : Pattern) : Run (Regex × Regex.View) := do
  let state ← get
  let chosen? := if pattern.regex?.isSome then some pattern else state.last?
  match chosen? with
  | some ⟨some regex, folded, byLine⟩ =>
    set { state with last? := chosen? }
    return (regex, regex.view state.space folded byLine)
  | _ => giveUp 1 "-e expression #1, char 0: no previous regular expression".toList

/-- The line is chosen by an address. -/
def isChosen (setup : Setup) (address : Address) : Run Bool := do
  let count := (← get).count
  match address with
  | .line number => return count = number
  | .last => isLast setup
  | .step first size =>
    return if size = 0 then count = first else first ≤ count && (count - first) % size = 0
  | .found pattern =>
    let (regex, view) ← chosen pattern
    return (regex.search view 0).isSome

/-- The range of an instruction ends or has some way to end from now on. -/
def setRange (place : Nat) (reach? : Option Reach) : Run Unit :=
  modify fun state =>
    let others := state.ranges.filter fun item => item.1 ≠ place
    { state with ranges := (reach?.toList.map fun reach => (place, reach)) ++ others }

/-- A range begins with the line of a number, which may have been passed over. -/
def begins (setup : Setup) (count : Nat) : Address → Run Bool
  | .line number => return number ≤ count
  | first => isChosen setup first

/-- The line is in the range of the instruction with a number. -/
def isInRange (setup : Setup) (place : Nat) (first : Address) (last : Ending) : Run Bool := do
  let state ← get
  let count := state.count
  let after? := if first matches .line _ then some Reach.over else none
  match state.ranges.find? fun item => item.1 = place with
  | some (_, .over) => return false
  | some (_, .upTo line) =>
    if line ≤ count then setRange place after?
    return count ≤ line || !(last matches .address _)
  | some (_, .openEnded) =>
    if let .address address := last then
      unless ← isChosen setup address do return true
    setRange place after?
    return true
  | none =>
    unless ← begins setup count first do return false
    let reach? : Option Reach :=
      match last with
      | .after number => if number = 0 then none else some (.upTo (count + number))
      | .multiple size => if size = 0 then none else some (.upTo ((count / size + 1) * size))
      | .address (.line line) => if line ≤ count then none else some (.upTo line)
      | .address _ => some .openEnded
    setRange place (reach?.orElse fun _ => after?)
    match first, last with
    | .line number, .address (.line line) => return count = number || count ≤ line
    | _, _ => return true

/-- The instruction with a number is for this line. -/
def isMeant (setup : Setup) (place : Nat) (guard : Guard) : Run Bool := do
  let meant ←
    match guard.first?, guard.last? with
    | none, _ => pure true
    | some first, none => isChosen setup first
    | some first, some last => isInRange setup place first last
  return meant != guard.negated

/-! ## Changing lines -/

/-- A character after a change of letters. -/
def shifted (shift? : Option CaseShift) (c : Char) : Char :=
  match shift? with
  | some .upper | some .nextUpper => c.toUpper
  | some .lower | some .nextLower => c.toLower
  | _ => c

/-- What a match is replaced by, given the change of letters that goes on and the one for the next letter. -/
def replacement (found : Regex.Match) (view : Regex.View) :
    Option CaseShift → Option CaseShift → List Piece → Chars
  | _, _, [] => []
  | shift?, next?, piece :: rest =>
    let add := fun text : Chars =>
      match text with
      | [] => replacement found view shift? next? rest
      | c :: more =>
        shifted (next?.orElse fun _ => shift?) c :: more.map (shifted shift?) ++
          replacement found view shift? none rest
    match piece with
    | .char c => add [c]
    | .group number => add (found.groupText view number)
    | .shift .nextUpper => replacement found view shift? (some .nextUpper) rest
    | .shift .nextLower => replacement found view shift? (some .nextLower) rest
    | .shift .stop => replacement found view none none rest
    | .shift shift => replacement found view (some shift) none rest

/-- How far a replacement of matches has come. -/
structure Replacing where
  /-- The place from which on matches are looked for. -/
  start : Nat
  /-- A match has ended just before, so that an empty one there does not count. -/
  behind : Bool
  /-- The number of the next match. -/
  number : Nat
  /-- What has been written, last piece first. -/
  written : List Chars
  /-- A match has been replaced. -/
  any : Bool

/-- Replaces matches, given at least as many steps as places are left. -/
def replaceMatches (substitution : Substitution) (regex : Regex) (view : Regex.View) : Nat → Replacing → Replacing
  | 0, state => state
  | steps + 1, state =>
    let size := view.text.size
    let rest := fun place : Nat => view.between place size :: state.written
    if size < state.start then state
    else
      match regex.search view state.start with
      | none => { state with written := rest state.start }
      | some found =>
        let stop := found.stop.place
        let front := view.between state.start found.start
        let isEmpty := stop = found.start
        let step := view.between stop (stop + 1)
        if isEmpty ∧ state.behind ∧ found.start = state.start then
          replaceMatches substitution regex view steps
            { state with start := stop + 1, behind := false, written := step :: state.written }
        else
          let next : Replacing :=
            { state with start := if isEmpty then stop + 1 else stop, behind := !isEmpty, number := state.number + 1 }
          let skipped := if isEmpty then step else []
          if state.number < substitution.number then
            replaceMatches substitution regex view steps
              { next with written := (view.between state.start stop ++ skipped) :: state.written }
          else
            let put := front ++ replacement found view none none substitution.pieces
            if !substitution.all then
              { next with written := view.between stop size :: put :: state.written, any := true }
            else
              replaceMatches substitution regex view steps
                { next with written := (put ++ skipped) :: state.written, any := true }

/-- The line that is edited with matches replaced, if there are any that count. -/
def replaced? (substitution : Substitution) : Run (Option Chars) := do
  let (regex, view) ← chosen substitution.pattern
  let done := replaceMatches substitution regex view (view.text.size + 2) ⟨0, false, 1, [], false⟩
  return if done.any then some done.written.reverse.flatten else none

/-- A character as it is shown where everything is to be seen. -/
def visible (c : Char) : Chars :=
  if c = '\\' then ['\\', '\\'] else if Tool.isPrinted c then [c] else Tool.escaped c

/-- Shows characters in lines of a length, none if that is zero, given the number of characters that stand in
the line; one place of a line is for the sign that it goes on. -/
def shownFrom (width : Nat) : Nat → Chars → Chars
  | _, [] => ['$', '\n']
  | column, c :: rest =>
    let text := visible c
    if width ≠ 0 ∧ width ≤ column + text.length then
      '\\' :: '\n' :: text ++ shownFrom width text.length rest
    else text ++ shownFrom width (column + text.length) rest

/-! ## Running a script -/

/-- How it goes on. -/
inductive Turn where
  /-- With the instruction of a number. -/
  | go (place : Nat)
  /-- With the next line, after this one has been written or not. -/
  | nextLine (written : Bool)
  /-- With the script from its beginning, and what is left of the line. -/
  | again
  /-- No more, with a status. -/
  | quit (status : Nat)

/-- The number of the instruction behind the block that has begun, given the number of the next instruction
and how many blocks have begun inside. -/
def behindBlock : Nat → Nat → List Instruction → Nat
  | place, _, [] => place
  | place, depth, instruction :: rest =>
    match instruction.action, depth with
    | .openBlock, depth => behindBlock (place + 1) (depth + 1) rest
    | .closeBlock, 0 => place + 1
    | .closeBlock, depth + 1 => behindBlock (place + 1) depth rest
    | _, depth => behindBlock (place + 1) depth rest

/-- The stream to which a file is written. -/
def streamOf (path : Chars) : Run Nat := do
  if path = "/dev/stdout".toList then return 1
  if path = "/dev/stderr".toList then return 2
  return (((← get).writers.find? fun item => item.1 = path).map Prod.snd).getD 1

/-- Where a jump leads: to a label, or to the end of the script. -/
def targetOf (setup : Setup) (name : Chars) : Turn :=
  if name.isEmpty then .go setup.script.size
  else .go ((Script.labelled? setup.script.toList name).getD setup.script.size)

/-- Puts something behind the line. -/
def trail (trailer : Trailer) : Run Unit :=
  modify fun state => { state with trailers := state.trailers ++ [trailer] }

/-- Does what a letter says that stands for itself. -/
def letter (setup : Setup) (here : Turn) (c : Char) : Run Turn := do
  let state ← get
  let firstLine := state.space.takeWhile fun c => c ≠ '\n'
  match c with
  | '=' => put setup 1 (Chars.ofNat state.count ++ ['\n'])
  | 'd' => return .nextLine false
  | 'D' =>
    if firstLine.length = state.space.length then return .nextLine false
    set { state with space := state.space.drop (firstLine.length + 1) }
    return .again
  | 'F' => put setup 1 ((state.current?.getD ['-']) ++ ['\n'])
  | 'g' => set { state with space := state.held, ended := state.heldEnded }
  | 'G' =>
    set { state with space := state.space ++ [setup.ending] ++ state.held, ended := state.heldEnded }
  | 'h' => set { state with held := state.space, heldEnded := state.ended }
  | 'H' =>
    set { state with held := state.held ++ [setup.ending] ++ state.space, heldEnded := state.ended }
  | 'n' =>
    if ← isLast setup then return .nextLine true
    unless setup.quiet do putSpace setup 1
    putTrailers setup
    match ← readLine setup with
    | some (line, ended) => modify fun state => { state with space := line, ended := ended }
    | none => return .nextLine false
  | 'N' =>
    if ← isLast setup then return .nextLine true
    putTrailers setup
    match ← readLine setup with
    | some (line, ended) =>
      modify fun state => { state with space := state.space ++ [setup.ending] ++ line, ended := ended }
    | none => return .nextLine true
  | 'p' => putSpace setup 1
  | 'P' => putLine setup 1 firstLine (state.ended || firstLine.length < state.space.length)
  | 'x' =>
    set { state with
      space := state.held, ended := state.heldEnded, held := state.space, heldEnded := state.ended }
  | 'z' => set { state with space := [] }
  | _ => pure ()
  return here

/-- Does what an instruction says, and gives how it goes on if it does not go on elsewhere. -/
def act (setup : Setup) (place : Nat) (action : Action) : Run Turn := do
  let here := Turn.go (place + 1)
  let state ← get
  match action with
  | .openBlock | .closeBlock | .label _ => return here
  | .append text =>
    trail (.text text)
    return here
  | .insert text =>
    put setup 1 text
    return here
  | .change text =>
    let goesOn := state.ranges.any fun item => item.1 = place && !(item.2 matches .over)
    unless goesOn do put setup 1 text
    return .nextLine false
  | .jump name => return targetOf setup name
  | .jumpIfReplaced name =>
    set { state with replaced := false }
    return if state.replaced then targetOf setup name else here
  | .jumpIfNot name =>
    set { state with replaced := false }
    return if state.replaced then here else targetOf setup name
  | .quit status silent =>
    unless silent do
      unless setup.quiet do putSpace setup 1
      putTrailers setup
    return .quit status
  | .list width? =>
    put setup 1 (shownFrom (width?.getD setup.width) 0 state.space)
    return here
  | .readFile path =>
    trail (.file path)
    return here
  | .readLine path =>
    if let some line ← nextOf setup path then trail (.line line)
    return here
  | .writeFile path firstOnly =>
    let stream ← streamOf path
    let firstLine := state.space.takeWhile fun c => c ≠ '\n'
    if firstOnly ∧ firstLine.length < state.space.length then putLine setup stream firstLine true
    else putSpace setup stream
    return here
  | .substitute substitution =>
    match ← replaced? substitution with
    | none => return here
    | some space =>
      modify fun state => { state with space := space, replaced := true }
      if substitution.prints then putSpace setup 1
      if let some path := substitution.file? then putSpace setup (← streamOf path)
      return here
  | .exchange pairs =>
    let change := fun c : Char => ((pairs.find? fun pair => pair.1 = c).map Prod.snd).getD c
    set { state with space := state.space.map change }
    return here
  | .plain c => letter setup here c

/-- Runs the script on all lines, given how many steps may be taken, and gives the status. -/
def cycles (setup : Setup) : Nat → Turn → Run Nat
  | 0, _ => perform (throw .exhausted)
  | steps + 1, turn => do
    match turn with
    | .quit status => return status
    | .again =>
      putTrailers setup
      cycles setup steps (.go 0)
    | .nextLine written =>
      if written ∧ setup.quiet = false then putSpace setup 1
      putTrailers setup
      match ← readLine setup with
      | none => return (← get).status
      | some (line, ended) =>
        modify fun state => { state with space := line, ended := ended }
        cycles setup steps (.go 0)
    | .go place =>
      match setup.script[place]? with
      | none => cycles setup steps (.nextLine true)
      | some instruction =>
        if ← isMeant setup place instruction.guard then
          cycles setup steps (← act setup place instruction.action)
        else
          match instruction.action with
          | .openBlock =>
            let rest := setup.script.toList.drop (place + 1)
            cycles setup steps (.go (behindBlock (place + 1) 0 rest))
          | _ => cycles setup steps (.go (place + 1))

/-- How many steps a script may take. -/
def stepLimit : Nat := 4000000

/-- Writes what is left to be written when the script has ended. -/
def conclude (setup : Setup) (state : State) (status : Nat) : Step Nat := do
  let left := state.pending.foldl (fun sum line => sum + line.1.length + (if line.2 then 1 else 0)) 0
  if state.current? = some ['-'] then Tool.giveBack left
  if setup.inPlace?.isSome ∧ state.current?.isSome then
    let rest := state.pending.flatMap fun line => line.1 ++ (if line.2 then [setup.ending] else [])
    let _ ← ((replaceFile setup).run).run { state with output := rest :: state.output }
    let _ ← flush { state with output := [] } status
    return status
  match ← flush state status with
  | 0 => return status
  | code => return if code = status then status else 4

/-! ## The tool -/

/-- A piece of a script, as it is given to the tool. -/
inductive Given where
  /-- As an argument. -/
  | expression (text : Chars)
  /-- In a file. -/
  | file (path text : Chars)

/-- The text of a piece. -/
def Given.text : Given → Chars
  | expression text | file _ text => text

/-- Where in the pieces of a script a number of characters have been read. -/
def placeOf : Nat → Nat → List Given → Chars
  | _, _, [] => "-e expression #1, char 0".toList
  | number, size, given :: rest =>
    if size ≤ given.text.length + 1 ∨ rest.isEmpty then
      match given with
      | .expression _ =>
        "-e expression #".toList ++ Chars.ofNat number ++ ", char ".toList ++ Chars.ofNat size
      | .file path text =>
        let line := ((text.take (size - 1)).filter fun c => c = '\n').length + 1
        "file ".toList ++ path ++ " line ".toList ++ Chars.ofNat line
    else
      let next := match given with | .expression _ => number + 1 | .file _ _ => number
      placeOf next (size - (given.text.length + 1)) rest

/-- The files that a script writes to. -/
def written (script : List Instruction) : List Chars :=
  let paths := script.filterMap fun instruction =>
    match instruction.action with
    | .writeFile path _ => some path
    | .substitute substitution => substitution.file?
    | _ => none
  paths.eraseDups.filter fun path => path ≠ "/dev/stdout".toList && path ≠ "/dev/stderr".toList

/-- The first of the streams to which a script writes files. -/
def firstStream : Nat := 100

/-- Opens files to be written, from a stream on. -/
def openWriters : Nat → List Chars → Step (Except (Chars × Fault) (List (Chars × Nat)))
  | _, [] => return .ok []
  | stream, path :: rest => do
    match (← get).openToWrite path fun _ => [] with
    | .error fault => return .error (path, fault)
    | .ok (opening, machine) =>
      let (number, machine) := machine.openNew opening
      set (machine.lead stream number)
      return (← openWriters (stream + 1) rest).map fun others => (path, stream) :: others

/-- Runs a script on files, and gives the status. -/
def runScript (setup : Setup) (files : List Chars) : Step Nat := do
  let script := setup.script.toList
  let missing? := (Script.targets script).find? fun name => (Script.labelled? script name).isNone
  if let some name := missing? then
    Tool.report ("can't find label for jump to \x60".toList ++ name ++ ['\x27'])
    return 4
  match ← openWriters firstStream (written script) with
  | .error (path, fault) =>
    Tool.report ("couldn't open file ".toList ++ path ++ ": ".toList ++ fault.reason.toList)
    return 4
  | .ok writers =>
    let state : State :=
      { space := [], ended := true, held := [], heldEnded := true, count := 0, pending := []
        waits := false, current? := none, files := files, trailers := [], replaced := false
        ranges := openRanges setup.script, last? := none, readers := [], writers := writers
        unended := [], output := [], kept := [], status := 0 }
    let (result, state) ← ((cycles setup stepLimit (.nextLine false)).run).run state
    conclude setup state (match result with | .ok status | .error status => status)

/-- The options of `sed`. -/
def sedFlags : List Tool.Flag :=
  [⟨'e', "expression", .word⟩, ⟨'f', "file", .word⟩, ⟨'l', "line-length", .word⟩] ++
    Tool.flags [('n', "quiet"), ('n', "silent"), ('E', "regexp-extended"), ('r', ""), ('s', "separate"),
      ('u', "unbuffered"), ('z', "null-data"), ('p', "posix"), ('i', "in-place"), ('@', "follow-symlinks"),
      ('#', "debug"), ('%', "sandbox")]

end Sed

/-- The arguments without what files are kept as when others take their place, and that, if they have that
option. -/
def Sed.inPlaceArguments : List Chars → Option Chars × List Chars
  | [] => (none, [])
  | word :: rest =>
    let (suffix?, others) := inPlaceArguments rest
    let long := "--in-place=".toList
    if word = ['-', '-'] then (none, word :: rest)
    else if long.isPrefixOf word then (some (suffix?.getD (word.drop long.length)), others)
    else
      match word with
      | '-' :: letters =>
        let front := letters.takeWhile fun c => "nErsuz".toList.contains c
        match letters.drop front.length with
        | 'i' :: suffix => (some (suffix?.getD suffix), if front.isEmpty then others else ('-' :: front) :: others)
        | _ => (suffix?, word :: others)
      | _ => (suffix?, word :: others)

/-- The pieces of a script and the files that it is run on. -/
def Sed.givenScript (options : Tool.Options) :
    Step (Except (Chars × Fault) (Option (List Sed.Given × List Chars))) := do
  let found := options.found.filter fun item => item.1 = 'e' || item.1 = 'f'
  if found.isEmpty then
    match options.operands with
    | [] => return .ok none
    | script :: files => return .ok (some ([.expression script], files))
  let mut given := []
  for (letter, value) in found do
    if letter = 'e' then given := given ++ [.expression value]
    else
      match ← Tool.contentOf value with
      | .ok content =>
        let text := Chars.ofBytes content
        given := given ++ [.file value (if text.getLast? = some '\n' then text.dropLast else text)]
      | .error fault => return .error (value, fault)
  return .ok (some (given, options.operands))

/-- Edits streams. -/
def Tool.sed : Tool := fun arguments => do
  let usage : Step Nat := do
    Step.complain ("Usage: ".toList ++ (← get).title ++
      " [OPTION]... \x7bscript-only-if-no-other-script\x7d [input-file]...".toList)
    return 1
  let (inPlace?, arguments) := Sed.inPlaceArguments arguments
  match Options.read Sed.sedFlags false arguments with
  | .error stop =>
    stop.answer fun message => do
      report message
      usage
  | .ok options =>
    match ← Sed.givenScript options with
    | .error (path, fault) =>
      report ("couldn't open file ".toList ++ path ++ ": ".toList ++ fault.reason.toList)
      return 4
    | .ok none => usage
    | .ok (some (given, files)) =>
      let text := ['\n'].intercalate (given.map Sed.Given.text)
      let hashN := (text.take 3 = ['#', 'n', '\n'] || text = ['#', 'n'])
      match Sed.Script.parse (options.hasAny "Er") text with
      | .error fault =>
        report (Sed.placeOf 1 fault.size given ++ ": ".toList ++ fault.words)
        return 1
      | .ok script =>
        let inPlace? := if options.has 'i' then some (inPlace?.getD []) else inPlace?
        let width := (options.value? 'l').elim 70 Chars.toNat
        Sed.runScript
          ⟨options.has 'n' || hashN, options.has 's' || inPlace?.isSome, inPlace?,
            if options.has 'z' then '\x00' else '\n', width, script.toArray⟩
          (inputs files)

end CounterCatalog.Shell
