import CounterCatalog.Shell.Builtin.Common
import CounterCatalog.Shell.Field

/-!
# Commands for variables and options

The commands of the shell that set, show and remove variables, arguments, options and aliases.
-/

set_option autoImplicit false

namespace CounterCatalog.Shell

/-- The options of the shell, each with its letter if it has one. -/
def optionNames : List (String × Option Char) :=
  [("errexit", some 'e'), ("noglob", some 'f'), ("ignoreeof", some 'I'), ("interactive", some 'i'),
   ("monitor", some 'm'), ("noexec", some 'n'), ("stdin", some 's'), ("xtrace", some 'x'),
   ("verbose", some 'v'), ("vi", some 'V'), ("emacs", some 'E'), ("noclobber", some 'C'),
   ("allexport", some 'a'), ("notify", some 'b'), ("nounset", some 'u'), ("privileged", some 'p'), ("nolog", none),
   ("debug", none)]

namespace Machine

/-- The shell with an option on or off; the options that are on stand in the order in which they are shown. -/
def setOption (machine : Machine) (letter : Char) (on : Bool) : Machine :=
  let known := optionNames.reverse.filterMap Prod.snd
  { machine with
    options := known.filter fun c => if c = letter then on else machine.options.contains c }

/-- The shell in which a variable belongs to the function that is running: what it was before comes back
when the function ends. -/
def shadow (machine : Machine) (name : Chars) : Machine :=
  let before :=
    if name = ['-'] then some ⟨some machine.options, false, false⟩ else machine.binding? name
  match machine.scopes with
  | scope :: scopes => { machine with scopes := ((name, before) :: scope) :: scopes }
  | [] => machine

/-- The shell in which something is put back to what it was. -/
def putBack (machine : Machine) (item : Chars × Option Variable) : Machine :=
  match item with
  | (['-'], some old) => { machine with options := old.value?.getD [] }
  | (name, some old) => machine.setVariable name old
  | (name, none) => machine.dropVariable name

/-- The shell in which variables may belong to a function that begins to run. -/
def openScope (machine : Machine) : Machine :=
  { machine with scopes := [] :: machine.scopes }

/-- The shell in which a function has ended. -/
def closeScope (machine : Machine) : Machine :=
  match machine.scopes with
  | scope :: scopes => scope.foldl putBack { machine with scopes := scopes }
  | [] => machine

end Machine

namespace Builtin

open Step

/-- A variable as the shell would read it, behind words that say what it is. -/
def shown (words : Chars) (item : Chars × Variable) : Chars :=
  let value :=
    match item.2.value? with
    | some value => '=' :: quote value
    | none => []
  line (words ++ item.1 ++ value)

/-- Variables as the shell would read them. -/
def shownAll (words : Chars) (items : List (Chars × Variable)) : Chars :=
  ((items.mergeSort fun a b => Chars.isBefore a.1 b.1).map (shown words)).flatten

/-- Refuses a text that can name no variable. -/
def checkName (name : Chars) : Step Unit := do
  unless Chars.isName name do fail (name ++ ": bad variable name".toList)

/-- A name, and the value that an argument gives to it if there is one. -/
def splitAssignment (argument : Chars) : Chars × Option Chars :=
  let name := argument.takeWhile fun c => c ≠ '='
  (name, if name.length < argument.length then some (argument.drop (name.length + 1)) else none)

/-- Changes a variable, which need not exist. -/
def changeVariable (name : Chars) (change : Variable → Variable) : Step Unit :=
  modify fun machine =>
    machine.setVariable name (change ((machine.binding? name).getD ⟨none, false, false⟩))

/-- Marks variables in some way and perhaps gives them values, or shows those that are marked so. -/
def mark (word : String) (isMarked : Variable → Bool) (change : Variable → Variable) : Builtin :=
  fun arguments => do
    let (found, names) ← options "p" arguments
    if !found.isEmpty ∨ names.isEmpty then
      let machine ← get
      let items := machine.values.filter fun item => isMarked item.2
      return ← say (shownAll (word.toList ++ [' ']) items)
    for argument in names do
      let (name, value?) := splitAssignment argument
      checkName name
      if let some value := value? then assign name value
      changeVariable name change
    return 0

/-- Lets children have variables. -/
def exportNames : Builtin :=
  mark "export" Variable.exported fun old => { old with exported := true }

/-- Protects variables. -/
def protectNames : Builtin :=
  mark "readonly" Variable.constant fun old => { old with constant := true }

/-- Makes variables belong to the function that is running. -/
def localNames : Builtin := fun arguments => do
  if (← get).scopes.isEmpty then fail "not in a function".toList
  for argument in arguments do
    let (name, value?) := splitAssignment argument
    if name ≠ ['-'] then checkName name
    modify fun machine => machine.shadow name
    match value? with
    | some value => assign name value
    | none => if name ≠ ['-'] then changeVariable name id
  return 0

/-- Removes variables or functions. -/
def unset : Builtin := fun arguments => do
  let (found, names) ← options "vf" arguments
  let ofFunctions := (found.getLast?.map Prod.fst) = some 'f'
  for name in names do
    if ofFunctions then
      modify fun machine =>
        { machine with functions := machine.functions.filter fun item => item.1 ≠ name }
    else
      checkName name
      if ((← get).binding? name).any Variable.constant then fail (name ++ ": is read only".toList)
      modify fun machine => machine.dropVariable name
  return 0

/-- Gives up the first arguments. -/
def shift : Builtin := fun arguments => do
  let count ←
    match arguments with
    | [] => pure 1
    | first :: _ => number first
  let machine ← get
  if machine.arguments.length < count then fail "can't shift that many".toList
  set { machine with
    arguments := machine.arguments.drop count, optionIndex := 1, optionOffset? := none }
  return 0

/-- Turns an option on or off that is given by its name, or shows all options. -/
def nameOption (on : Bool) (name? : Option Chars) : Step Unit := do
  let machine ← get
  let isOn := fun item : String × Option Char => (item.2.map machine.has).getD false
  match name? with
  | none =>
    let shape := fun item : String × Option Char =>
      let state := isOn item
      if on then
        let fill := List.replicate (16 - item.1.length) ' '
        line (item.1.toList ++ fill ++ (if state then "on" else "off").toList)
      else line ("set ".toList ++ (if state then "-o " else "+o ").toList ++ item.1.toList)
    let title := if on then line "Current option settings".toList else []
    let _ ← say (title ++ (optionNames.map shape).flatten)
  | some name =>
    match optionNames.find? fun item => item.1.toList = name with
    | some (_, some letter) => set (machine.setOption letter on)
    | some (_, none) => return ()
    | none => fail ("Illegal option -o ".toList ++ name)

/-- Turns options on or off that are given by their letters; a letter for a name takes it from the arguments
that follow, of which the others are given back. -/
def letterOptions (on : Bool) : Chars → List Chars → Step (List Chars)
  | [], rest => return rest
  | 'o' :: letters, rest => do
    nameOption on rest.head?
    letterOptions on letters rest.tail
  | letter :: letters, rest => do
    unless optionNames.any fun item => item.2 = some letter do fail ("Illegal option -".toList ++ [letter])
    modify fun machine => machine.setOption letter on
    letterOptions on letters rest

/-- Takes options from arguments, given at least as many steps as there are arguments, and gives the
arguments for the shell that follow, if there are to be any. -/
def takeOptions : Nat → List Chars → Step (Option (List Chars))
  | 0, _ => return none
  | _, [] => return none
  | steps + 1, first :: rest => do
    match first with
    | ['-'] =>
      modify fun machine => (machine.setOption 'x' false).setOption 'v' false
      return if rest.isEmpty then none else some rest
    | ['-', '-'] => return some rest
    | '-' :: letters => do takeOptions steps (← letterOptions true letters rest)
    | '+' :: letters => do takeOptions steps (← letterOptions false letters rest)
    | _ => return some (first :: rest)

/-- Turns the control of jobs off again in a shell that is no part of another one: there is no terminal for
it. -/
def denyControl : Step Unit := do
  let machine ← get
  if machine.has 'm' ∧ machine.process = machine.shellProcess then
    warn "can't access tty; job control turned off".toList
    modify fun machine => machine.setOption 'm' false

/-- Sets options and arguments, or shows all variables. -/
def setOptions : Builtin := fun arguments => do
  if arguments.isEmpty then
    let machine ← get
    let items := machine.values.filter fun item => item.2.value?.isSome
    return ← say (shownAll [] items)
  let words? ← takeOptions (arguments.length + 1) arguments
  denyControl
  if let some words := words? then
    modify fun machine =>
      { machine with arguments := words, optionIndex := 1, optionOffset? := none }
  return 0

/-- Gives values to words that stand for other texts, or shows them. -/
def aliases : Builtin := fun arguments => do
  let shape := fun item : Chars × Chars => line (item.1 ++ ['='] ++ quote item.2)
  if arguments.isEmpty then return ← say ((← get).aliases.map shape).flatten
  let answers ← arguments.mapM fun argument => do
    match splitAssignment argument with
    | (name, some value) =>
      modify fun machine =>
        { machine with
          aliases := (name, value) :: machine.aliases.filter fun item => item.1 ≠ name }
      return 0
    | (name, none) =>
      match (← get).aliases.find? fun item => item.1 = name with
      | some item => say (shape item)
      | none =>
        complain ("alias: ".toList ++ name ++ " not found".toList)
        return 1
  return answers.foldl max 0

/-- Removes words that stand for other texts. -/
def unalias : Builtin := fun arguments => do
  let (found, names) ← options "a" arguments
  if !found.isEmpty then
    modify fun machine => { machine with aliases := [] }
    return 0
  let answers ← names.mapM fun name => do
    let machine ← get
    if machine.aliases.any fun item => item.1 = name then
      set { machine with aliases := machine.aliases.filter fun item => item.1 ≠ name }
      return 0
    complain ("unalias: ".toList ++ name ++ " not found".toList)
    return 1
  return answers.foldl max 0

/-- What has been found of an option among arguments. -/
structure OptionFind where
  /-- The letter, or a sign that something is wrong. -/
  letter : Char
  /-- The argument of the option. -/
  value? : Option Chars
  /-- What is complained about. -/
  complaint? : Option Chars
  /-- The argument from which the next option is to be read, counted from one. -/
  index : Nat
  /-- How many characters have been taken of the argument before that. -/
  offset? : Option Nat
  /-- There are no more options. -/
  done : Bool

/-- The next option among arguments, given which letters are known and where to go on. -/
def findOption (known : Chars) (arguments : List Chars) (index : Nat) (offset? : Option Nat) :
    OptionFind :=
  let begun :=
    match offset? with
    | some offset => if index ≤ 1 then [] else ((arguments[index - 2]?).getD []).drop offset
    | none => []
  let ended := fun index : Nat => ⟨'?', none, none, index, none, true⟩
  let taken := fun (letters : Chars) (index : Nat) =>
    match letters with
    | [] => ended index
    | c :: rest =>
      let word := (arguments[index - 2]?).getD []
      let offset? := some (word.length - rest.length)
      let silent := known.head? = some ':'
      let letters := if silent then known.drop 1 else known
      match letters.dropWhile fun d => d ≠ c || d = ':' with
      | [] =>
        if silent then ⟨'?', some [c], none, index, offset?, false⟩
        else ⟨'?', none, some ("Illegal option -".toList ++ [c]), index, offset?, false⟩
      | _ :: ':' :: _ =>
        if !rest.isEmpty then ⟨c, some rest, none, index, none, false⟩
        else
          match arguments[index - 1]? with
          | some value => ⟨c, some value, none, index + 1, none, false⟩
          | none =>
            if silent then ⟨':', some [c], none, index, none, false⟩
            else ⟨'?', none, some ("No arg for -".toList ++ [c] ++ " option".toList), index, none, false⟩
      | _ => ⟨c, some [], none, index, offset?, false⟩
  if !begun.isEmpty then taken begun index
  else
    match arguments[index - 1]? with
    | some ['-', '-'] => ended (index + 1)
    | some ('-' :: c :: letters) => taken (c :: letters) (index + 1)
    | _ => ended index

/-- Reads the next option from the arguments of the shell or from those given. -/
def getopts : Builtin := fun arguments => do
  let (_, arguments) ← options "" arguments
  match arguments with
  | known :: name :: given =>
    let machine ← get
    let words := if given.isEmpty then machine.arguments else given
    let fresh := machine.optionIndex = 0 || words.length + 1 < machine.optionIndex
    let found :=
      if fresh then findOption known words 1 none
      else findOption known words machine.optionIndex machine.optionOffset?
    if let some complaint := found.complaint? then complain complaint
    let value := "OPTARG".toList
    unless found.done do
      match found.value? with
      | some text => assign value text
      | none => modify fun machine => machine.dropVariable value
    assign optionVariable (Chars.ofNat found.index)
    checkName name
    assign name [found.letter]
    modify fun machine =>
      { machine with optionIndex := found.index, optionOffset? := found.offset? }
    return if found.done then 1 else 0
  | _ => fail "Usage: getopts optstring var [arg...]".toList

/-- A run of characters of which either all or none may separate fields. -/
structure ReadRun where
  /-- The characters. -/
  text : Chars
  /-- They may separate fields. -/
  separates : Bool

/-- A character in front of runs, of which the first may separate fields if this one may. -/
def ReadRun.join (c : Char) (runs : List ReadRun) : List ReadRun :=
  match runs with
  | ⟨text, true⟩ :: rest => ⟨c :: text, true⟩ :: rest
  | runs => ⟨[c], true⟩ :: runs

/-- The characters of one line, the number of bytes that were read for them, and whether the line was
complete. A backslash joins lines and protects characters, unless it is to be taken as it is. -/
def readLine (raw : Bool) : List UInt8 → List ReadRun × Nat × Bool
  | [] => ([], 0, false)
  | [byte] =>
    if byte = 0x0A then ([], 1, true)
    else if byte = 0 ∨ (byte = 0x5C ∧ raw = false) then ([], 1, false)
    else ([⟨[Char.ofNat byte.toNat], true⟩], 1, false)
  | byte :: next :: rest =>
    if byte = 0x0A then ([], 1, true)
    else if byte = 0x5C ∧ raw = false then
      let (runs, size, complete) := readLine raw rest
      let run := if next = 0x0A then ⟨[], true⟩ else ⟨[Char.ofNat next.toNat], false⟩
      (run :: runs, size + 2, complete)
    else
      let (runs, size, complete) := readLine raw (next :: rest)
      if byte = 0 then (runs, size + 1, complete)
      else (ReadRun.join (Char.ofNat byte.toNat) runs, size + 1, complete)

/-- How far a line has been divided for the variables that are to get its fields. -/
structure Reading where
  /-- The fields that are complete, last one first. -/
  fields : List Chars
  /-- The characters of the next field, last one first. -/
  field : Chars
  /-- The number of fields that may still be completed before the last one. -/
  left : Nat
  /-- A blank separator has just been read. -/
  blank : Bool
  /-- The field is the last one, and a separator has come up in it: so much of the field has been read that
  stays if nothing but separators follows. -/
  cut? : Option Nat

namespace Reading

/-- Takes a character that cannot separate fields. -/
def keep (reading : Reading) (c : Char) : Reading :=
  { reading with field := c :: reading.field }

/-- Takes a character that may separate fields. -/
def step (separators : Chars) (reading : Reading) (c : Char) : Reading :=
  let separates := separators.contains c
  let isBlank := separates && Chars.blanks.contains c
  if reading.left = 0 then
    let kept := reading.keep c
    if isBlank then { kept with cut? := some (reading.cut?.getD reading.field.length) }
    else
      { kept with
        cut? := if separates && reading.blank then reading.cut? else none
        blank := false }
  else if !separates then { reading.keep c with blank := false }
  else if isBlank then
    if reading.field.isEmpty then reading else finish reading true c
  else if reading.blank && reading.field.isEmpty then { reading with blank := false }
  else finish reading false c
where
  /-- The field ends here, unless it is the last one. -/
  finish (reading : Reading) (blank : Bool) (c : Char) : Reading :=
    if reading.left = 1 then
      { reading.keep c with left := 0, blank := blank, cut? := some reading.field.length }
    else
      { reading with
        fields := reading.field.reverse :: reading.fields
        field := []
        left := reading.left - 1
        blank := blank }

/-- Takes a run. -/
def takeRun (separators : Chars) (reading : Reading) (run : ReadRun) : Reading :=
  if run.separates then run.text.foldl (step separators) { reading with blank := false }
  else run.text.foldl keep reading

/-- All fields. -/
def result (reading : Reading) : List Chars :=
  let field := reading.field.reverse
  let field :=
    match reading.cut? with
    | some size => field.take size
    | none => field
  (if field.isEmpty then reading.fields else field :: reading.fields).reverse

end Reading

/-- Reads a line from standard input into variables. -/
def read : Builtin := fun arguments => do
  let (found, names) ← options "p:r" arguments
  if names.isEmpty then fail "arg count".toList
  let raw := found.any fun item => item.1 = 'r'
  let content := ((← get).remaining 0).toOption.getD []
  let (runs, size, complete) := readLine raw content
  if !complete && (← get).goesOn 0 then starve
  let machine ← get
  set (machine.leaveUnread 0 size (content.drop size))
  let separators := (machine.lookup? "IFS".toList).getD standardSeparators
  let start : Reading := ⟨[], [], names.length, false, none⟩
  let fields := (runs.foldl (Reading.takeRun separators) start).result
  for (name, index) in names.zipIdx do
    checkName name
    assign name ((fields[index]?).getD [])
  return if complete then 0 else 1

end Builtin

end CounterCatalog.Shell
