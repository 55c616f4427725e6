import CounterCatalog.Shell.Builtin.Directories
import CounterCatalog.Shell.Builtin.Jobs
import CounterCatalog.Shell.Builtin.Naming
import CounterCatalog.Shell.Builtin.Variables
import CounterCatalog.Shell.Tool.Table

/-!
# Starting programs

A process that goes on as another program keeps its streams, its directory and what children get; all else is
forgotten. The shell then reads its options and runs a text, a file or what it reads from standard input.
-/

set_option autoImplicit false

namespace CounterCatalog.Shell.Step

/-- What a new program keeps of the process that it runs in. -/
def renew (title : Chars) (arguments : List Chars) : Step Unit :=
  modify fun machine =>
    { machine with
      shellProcess := machine.process
      shownDirectory := []
      plainDirectory? := none
      title := title
      arguments := arguments
      values := (machine.exports.map fun item => (item.1, ⟨some item.2, true, false⟩))
      scopes := []
      functions := []
      aliases := []
      traps := []
      options := []
      status := 0
      substituted := 0
      loops := 0
      trapStatus? := none
      line := 0
      speaker? := none
      lastJob? := none
      known := []
      optionIndex := 1
      optionOffset? := none
      orphans := machine.orphans ++ machine.jobs.filter fun job => job.status?.isNone
      jobs := [] }

/-- The variables that every shell has, unless children got them from their parent. -/
def standardVariables (machine : Machine) : List (Chars × Chars × Bool) :=
  [("IFS".toList, standardSeparators, false),
   ("PATH".toList, [':'].intercalate Builtin.systemPath, false), ("PS1".toList, "# ".toList, false),
   ("PS2".toList, "> ".toList, false), ("PS4".toList, "+ ".toList, false),
   (optionVariable, ['1'], false), ("PPID".toList, Chars.ofNat machine.parent, true)]

/-- Sets the variables that every shell has, and finds out the current directory. -/
def setUp : Step Unit := do
  modify fun machine =>
    { machine with values := machine.values.filter fun item => Chars.isName item.1 }
  modify fun machine =>
    (standardVariables machine).foldl (fun machine item =>
      let (name, value, always) := item
      let fixed := always || name = "IFS".toList || name = optionVariable
      match machine.binding? name with
      | some old => if fixed then machine.setVariable name { old with value? := some value } else machine
      | none => machine.setVariable name ⟨some value, false, false⟩) machine
  let machine ← get
  let given? := (machine.lookup? "PWD".toList).filter fun path =>
    path.head? = some '/' &&
      (machine.tree.directory machine.directory path.bytes).toOption = some machine.directory
  let path ←
    match given? with
    | some path => pure path
    | none => Builtin.findPath
  modify fun machine =>
    { machine with
      shownDirectory := path
      plainDirectory? := if given?.isNone then some path else none }
  Builtin.exportValue "PWD" path

/-- Reads the options that a shell is started with, and gives the arguments that follow and whether the first
of them is a text to run; at least as many steps are given as there are arguments. -/
def startOptions : Nat → Bool → List Chars → Step (List Chars × Bool)
  | 0, text, arguments => return (arguments, text)
  | _, text, [] => return ([], text)
  | steps + 1, text, first :: rest => do
    match first with
    | ['-'] | ['-', '-'] => return (rest, text)
    | '-' :: letters =>
      let rest ← Builtin.letterOptions true (letters.filter fun c => c ≠ 'c' && c ≠ 'l') rest
      startOptions steps (text || letters.contains 'c') rest
    | '+' :: letters => startOptions steps text (← Builtin.letterOptions false letters rest)
    | _ => return (first :: rest, text)

/-- Sets what the shell calls itself, and its arguments. -/
def setArguments (words : List Chars) : Step Unit :=
  modify fun machine =>
    { machine with title := (words.head?).getD machine.title, arguments := words.tail }

/-- Runs what a shell has been started for. -/
def runShell (run : Runner) : Step Unit := do
  setUp
  let machine ← get
  set { machine with arguments := [] }
  let (words, isText) ← startOptions (machine.arguments.length + 1) false machine.arguments
  Builtin.denyControl
  let fromInput := do
    let bytes := (← drain 0).toOption.getD []
    let _ ← runFile run (Chars.ofBytes bytes)
  if isText then
    match words with
    | [] => fail "-c requires an argument".toList
    | text :: words =>
      unless words.isEmpty do setArguments words
      let reads := (← get).has 's'
      let _ ← runText run ⟨false, !reads⟩ text
      if reads then fromInput
  else if words.isEmpty ∨ machine.has 's' ∨ (← get).has 's' then
    modify fun machine => { (machine.setOption 's' true) with arguments := words }
    fromInput
  else
    let path := words.headD []
    let script ← Builtin.scriptAt path
    setArguments words
    let _ ← runFile run script

/-- Goes on as a program. -/
def become (run : Runner) : Nat → Become
  | 0, _ => throw .exhausted
  | depth + 1, image => do
    renew image.title image.arguments
    if Tool.shellNames.contains image.tool then asShell run (runShell run)
    else
      match Tool.find? (become run depth) image.tool with
      | none => setStatus 127
      | some tool => setStatus (← tool image.arguments)

/-- The number of programs that a process may go on as, one after the other. -/
def becomeLimit : Nat := 64

/-- Goes on as a program, with which the process ends. -/
def goOn (run : Runner) (image : Image) : Step Unit :=
  become run becomeLimit image

end CounterCatalog.Shell.Step
