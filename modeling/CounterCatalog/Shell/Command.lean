import CounterCatalog.Shell.Builtin.Writing
import CounterCatalog.Shell.Redirect
import CounterCatalog.Shell.Start

/-!
# Simple commands

The words of a command are expanded first, then its streams are redirected, and then its assignments are
made: for good where there is no command or it is one that the shell treats in a way of its own, and otherwise
only while it runs. The command is a function, a command of the shell, or a program in a process of its own.
-/

set_option autoImplicit false

namespace CounterCatalog.Shell

/-- What a command has been found to be. -/
inductive Kind where
  /-- There is no command. -/
  | nothing
  /-- A function, with its body. -/
  | function (body : Statement)
  /-- A command of the shell. -/
  | builtin
  /-- A program; it may be searched for in the directories of the system only. -/
  | program (system : Bool)

/-- A command with its words expanded. -/
structure Call where
  /-- What it is. -/
  kind : Kind
  /-- Its name and arguments. -/
  words : List Chars
  /-- Its errors end the shell, and assignments in front of it stay. -/
  special : Bool

namespace Step

/-- The fields of words, up to the first word that has any, and the words that are left. -/
def firstFields (run : Substitute) : List Word → Step (List Chars × List Word)
  | [] => return ([], [])
  | word :: rest => do
    match ← Expansion.fields run word with
    | [] => firstFields run rest
    | fields => return (fields, rest)

/-- The fields of an argument; an assignment makes one field where arguments may be assignments. -/
def argumentFields (run : Substitute) (assigns : Bool) (word : Word) : Step (List Chars) := do
  match if assigns then Word.assignedName? word else none with
  | some name =>
    let value ← Expansion.value run (Word.drop (name.length + 1) word)
    return [name ++ ['='] ++ value]
  | none => Expansion.fields run word

/-- What is left of a command behind words that only say how it is looked up, and whether it is searched in
the directories of the system; nothing if those words make up the whole command. -/
def behindPrefix : Bool → List Chars → Option (Bool × List Chars)
  | _, [] => none
  | system, ['-', '-'] :: rest => if rest.isEmpty then none else some (system, rest)
  | system, word :: rest =>
    match word with
    | '-' :: c :: letters =>
      if (c :: letters).all fun d => d = 'p' then behindPrefix true rest else none
    | _ => some (system, word :: rest)

/-- What a name is, functions counting or not. -/
def kindOf (machine : Machine) (functions system : Bool) (name : Chars) : Kind :=
  match if functions then machine.functions.find? fun item => item.1 = name else none with
  | some (_, _, body) => .function body
  | none => if Builtin.isNamed name then .builtin else .program system

/-- The command that expanded words make, given what has been said about how it is looked up, and at least as
many steps as there are words. -/
def callOf (machine : Machine) : Nat → Bool → Bool → List Chars → Call
  | 0, _, _, words => ⟨.nothing, words, false⟩
  | _, _, _, [] => ⟨.nothing, [], false⟩
  | steps + 1, functions, system, name :: arguments =>
    let kind := kindOf machine functions system name
    let isPrefix := kind matches .builtin && name = "command".toList
    match if isPrefix then behindPrefix false arguments else none with
    | some (limited, rest) => { callOf machine steps false (system || limited) rest with special := false }
    | none => ⟨kind, name :: arguments, kind matches .builtin && Builtin.isSpecial name⟩

/-- Expands the words of a command and finds out what it is. -/
def expandCall (run : Substitute) (words : List Word) : Step Call := do
  let (first, rest) ← firstFields run words
  let machine ← get
  let assigns :=
    match first with
    | name :: _ =>
      kindOf machine true false name matches .builtin && Builtin.takesAssignments name
    | [] => false
  let others ← rest.mapM (argumentFields run assigns)
  let machine ← get
  let all := first ++ others.flatten
  return callOf machine (all.length + 1) true false all

/-! ## Running commands -/

/-- The command of the shell with a name. -/
def builtinOf (run : Runner) (manner : Manner) (name : Chars) : Builtin :=
  match String.ofList name with
  | "." => Builtin.dot run
  | "[" => Builtin.test true
  | "alias" => Builtin.aliases
  | "bg" | "fg" => Builtin.foreground
  | "break" => Builtin.breakLoops
  | "cd" | "chdir" => Builtin.cd
  | "command" => Builtin.command
  | "continue" => Builtin.continueLoop
  | "echo" => Builtin.echo
  | "eval" => Builtin.eval run manner.tested
  | "exit" => Builtin.exit
  | "export" => Builtin.exportNames
  | "false" => Builtin.constant 1
  | "getopts" => Builtin.getopts
  | "hash" => Builtin.hash
  | "jobs" => Builtin.jobs
  | "kill" => Builtin.kill run
  | "local" => Builtin.localNames
  | "printf" => Builtin.printf
  | "pwd" => Builtin.pwd
  | "read" => Builtin.read
  | "readonly" => Builtin.protectNames
  | "return" => Builtin.returnFrom
  | "set" => Builtin.setOptions
  | "shift" => Builtin.shift
  | "test" => Builtin.test false
  | "times" => Builtin.times
  | "trap" => Builtin.trap
  | "type" => Builtin.typeOf
  | "ulimit" => Builtin.ulimit
  | "umask" => Builtin.umask
  | "unalias" => Builtin.unalias
  | "unset" => Builtin.unset
  | "wait" => Builtin.wait run
  | _ => Builtin.constant 0

/-- The status of a command that could not be started. -/
def faultStatus (fault : Fault) : Nat :=
  match fault with
  | .notFound | .notADirectory | .nameTooLong | .tooManyLinks => 127
  | _ => 126

/-- Complains about a command that could not be started. -/
def warnCommand (name : Chars) (fault : Fault) : Step Unit :=
  let reason :=
    match fault with
    | .notFound | .notADirectory => "not found"
    | fault => fault.reason
  warn (name ++ ": ".toList ++ reason.toList)

/-- Goes on as the program of a command, with which the process ends. -/
def executeHere (run : Runner) (directories : List Chars) (name : Chars) (arguments : List Chars) :
    Step Unit := do
  let machine ← get
  let image :=
    if name.contains '/' then Image.ofCommand machine.tree machine.directory name name arguments
    else
      let (paths, fault) :=
        Image.commandPaths machine.tree machine.directory name directories .notFound
      Image.ofPaths machine.tree machine.directory name arguments paths fault
  match image with
  | .ok image =>
    modify Machine.tabled
    goOn run image
  | .error fault =>
    warnCommand name fault
    setStatus (faultStatus fault)

/-- The shell has actions for signals or its end. -/
def hasTraps (machine : Machine) : Bool :=
  machine.traps.any fun item => !item.2.isEmpty

/-- Runs the program of a command, in a process of its own unless the shell has nothing else to do. -/
def runProgram (run : Runner) (manner : Manner) (directories : List Chars) (name : Chars)
    (arguments : List Chars) : Step Unit := do
  let machine ← get
  let (paths, fault) :=
    if name.contains '/' then ([name], .notFound)
    else Image.commandPaths machine.tree machine.directory name directories .notFound
  unless paths.isEmpty ∨ name.contains '/' do
    modify fun machine => machine.learn name
  if paths.isEmpty then
    warnCommand name fault
    setStatus 127
  else if manner.last ∧ !hasTraps machine then
    executeHere run directories name arguments
    throw .leave
  else
    let status ← inChild (executeHere run directories name arguments)
    if (← get).clock ≠ machine.clock then settle (runWhole run)
    take status

/-- Runs the program in place of the shell, or does nothing if none is named. -/
def runExec (run : Runner) (arguments : List Chars) : Step Nat := do
  match arguments with
  | [] => return 0
  | name :: rest =>
    executeHere run (Builtin.searchPath (← get)) name rest
    throw .leave

/-- Runs a command of the shell. Its errors end the shell only if it is special. -/
def runBuiltin (run : Runner) (manner : Manner) (special : Bool) (name : Chars)
    (arguments : List Chars) : Step Unit := do
  let speaker? := (← get).speaker?
  modify fun machine => { machine with speaker? := some name }
  let body : Step Nat :=
    if name = "exec".toList then runExec run arguments else builtinOf run manner name arguments
  let result ← attempt body
  modify fun machine => { machine with speaker? := speaker? }
  match result with
  | .ok status => setStatus status
  | .error .failed => if special then throw .failed
  | .error halt => throw halt

/-- The number of functions that may run inside one another. -/
def callLimit : Nat := 1000

/-- Runs a function. -/
def runFunction (run : Runner) (manner : Manner) (body : Statement) (arguments : List Chars) :
    Step Unit := do
  let before ← get
  if callLimit ≤ before.calls then
    fail ("Maximum function recursion depth (".toList ++ Chars.ofNat callLimit ++ ") reached".toList)
  set { before with
    arguments := arguments, optionIndex := 1, optionOffset? := none, loops := 0, calls := before.calls + 1 }
  let restore := fun (_ : Unit) (machine : Machine) =>
    { machine with
      arguments := before.arguments
      optionIndex := before.optionIndex
      optionOffset? := before.optionOffset?
      loops := before.loops
      calls := before.calls }
  let result ← attempt (keeping (fun _ => ()) restore (run ⟨manner.tested, false⟩ body))
  match result with
  | .error .finish => return ()
  | result => conclude result

/-- Writes how a command runs, to where standard error led before its redirections. -/
def trace (run : Runner) (streams : List (Nat × Nat)) (words : List Chars) : Step Unit := do
  let machine ← get
  unless machine.has 'x' do return ()
  let text := (machine.lookup? "PS4".toList).getD []
  let cursor := Parser.Cursor.start text machine.documents []
  let word :=
    match (Parser.parts (fun _ => pure .skip) (Parser.fuelFor text []) .document).run cursor with
    | .ok (word, _) => word
    | .error _ => []
  let front ← Expansion.text (substitute run) word
  keepingStreams do
    modify fun machine => { machine with streams := streams }
    complain (front ++ [' '].intercalate words)

/-- Makes the assignments of a command, and gives them as they are shown. -/
def makeAssignments (run : Runner) (brief exported : Bool) : List Word → Step (List Chars)
  | [] => return []
  | word :: rest => do
    let name := (Word.assignedName? word).getD []
    let value ← Expansion.value (substitute run) (Word.drop (name.length + 1) word)
    if brief then modify fun machine => machine.shadow name
    assign name value
    if exported then
      modify fun machine =>
        machine.setVariable name { machine.assigned name value with exported := true }
    return (name ++ ['='] ++ value) :: (← makeAssignments run brief exported rest)

/-- Runs a command whose streams have been redirected. -/
def runCall (run : Runner) (manner : Manner) (streams : List (Nat × Nat)) (assignments : List Word)
    (call : Call) : Step Unit := do
  let isExec := call.words.head? = some "exec".toList && call.words.length ≠ 1
  let brief := !call.special && !(call.kind matches .nothing)
  let exported := brief || (call.kind matches .builtin && isExec)
  if brief then modify Machine.openScope
  let body : Step Unit := do
    let shown ← makeAssignments run brief exported assignments
    trace run streams (shown ++ call.words)
    match call.kind, call.words with
    | .function body, _ :: arguments => runFunction run manner body arguments
    | .builtin, name :: arguments => runBuiltin run manner call.special name arguments
    | .program system, name :: arguments => do
      let machine ← get
      let directories := if system then Builtin.systemPath else Builtin.searchPath machine
      runProgram run manner directories name arguments
    | _, _ => setStatus (← get).substituted
  keeping (fun _ => brief) (fun brief machine => if brief then machine.closeScope else machine) body

/-- The command keeps its streams redirected when it is over. -/
def keepsStreams (call : Call) : Bool :=
  call.kind matches .builtin && call.words.head? = some "exec".toList

/-- Runs a simple command. -/
def simple (run : Runner) (manner : Manner) (line : Nat) (assignments words : List Word)
    (redirections : List Redirection) : Step Unit := do
  modify fun machine => { machine with line := line, substituted := 0 }
  let call ← expandCall (substitute run) words
  let turns ← redirections.mapM (Turn.ofRedirection (substitute run))
  let streams := (← get).streams
  let body : Step Unit := do
    if ← turnAll (substitute run) turns then runCall run manner streams assignments call
    else if call.special then throw .failed
  if keepsStreams call then body else keepingStreams body

end Step

end CounterCatalog.Shell
