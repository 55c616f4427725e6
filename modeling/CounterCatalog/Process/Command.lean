import CounterCatalog.Host
import CounterCatalog.Text.CommandWord
import CounterCatalog.Tree.Resolve

/-!
# Commands

A command names a program, its arguments, the directory to run it in, and what to do when it ends badly.
Running it waits for its end and gives what it wrote to standard output, while its standard error joins
that of the program. A command that cannot be launched always fails; one that ends badly fails if it is
run strictly, and else is logged.
-/

set_option autoImplicit false

namespace CounterCatalog

/-- What to do about a child that ended badly. -/
inductive Strictness where
  /-- Log it and go on with what it wrote. -/
  | lenient
  /-- Fail. -/
  | strict
deriving DecidableEq

/-- A single run of a program. -/
structure Command where
  /-- The program, by a path or by a name to be searched for. -/
  program : String
  /-- The arguments, not counting the program itself. -/
  args : List String
  /-- The directory to run in, unless that is the current one. -/
  dir : Option String
  /-- What to do when it ends badly. -/
  strictness : Strictness
deriving DecidableEq

namespace Command

/-- A command whose program need not have been named yet. -/
structure Draft where
  /-- The program, if it has been named. -/
  program : Option String
  /-- The arguments. -/
  args : List String
  /-- The directory to run in, unless that is the current one. -/
  dir : Option String
  /-- What to do when it ends badly. -/
  strictness : Strictness

/-- The command that a draft describes; only the program has no default. -/
def ofDraft (draft : Draft) : Except Failure Command :=
  match draft.program with
  | none => .error (.unset "binary")
  | some program => .ok ⟨program, draft.args, draft.dir, draft.strictness⟩

/-- The words of a command: the program and its arguments. -/
def words (command : Command) : List String :=
  command.program :: command.args

/-- The command as one line that a shell would split into its words again. -/
def line (command : Command) : String :=
  Text.CommandWord.join command.words

/-- What is being done while a command is launched. -/
def launching (command : Command) : String :=
  "launching \"" ++ command.line ++ "\""

/-- The message that announces a run. -/
def announcement (command : Command) : String :=
  match command.dir with
  | some dir => "running \"" ++ command.line ++ "\" in \"" ++ dir ++ "\""
  | none => "running \"" ++ command.line ++ "\""

/-- A text holds the zero character, which no argument of a child can. -/
def holdsZero (text : String) : Bool :=
  text.toList.contains '\x00'

/-- What a command's child is started with, once its directory has been found. -/
def launch (command : Command) (tree : Tree) (cwd : Handle) : Except Fault Launch :=
  if command.words.any holdsZero || command.dir.any holdsZero then .error .zeroInCommand
  else
    match command.dir with
    | none => .ok ⟨command.program, command.args, cwd⟩
    | some dir =>
      match tree.directory cwd (Text.Utf8.encode dir) with
      | .error fault => .error fault
      | .ok directory => .ok ⟨command.program, command.args, directory⟩

/-- What a run gives. -/
structure Report where
  /-- How the child ended. -/
  status : Status
  /-- What it wrote to standard output, each ill-formed piece replaced. -/
  stdout : String
deriving DecidableEq

/-- The failure that a child's end means for its command, if it ended badly. -/
def failureOf (command : Command) : Status → Option Failure
  | .exited 0 => none
  | .exited code => some (.exited command.line code)
  | .signalled _ => some (.killed command.line)

variable {τ : Type}

/-- Launches a command and waits for its end, whatever that is. -/
def start (launcher : Launcher) (command : Command) : Action τ Outcome := do
  let host ← get
  let launch ← Action.attempt command.launching (command.launch host.tree host.cwd)
  modify fun host => { host with launches := host.launches ++ [launch] }
  let outcome ← Action.attempt command.launching (launcher launch host.tree)
  modify fun host => { host.withErrors outcome.stderr with tree := outcome.tree }
  pure outcome

/-- Fails or logs, as a command's strictness says, if its child ended badly. -/
def judge (command : Command) (status : Status) : Action τ Unit :=
  match command.failureOf status with
  | none => pure ()
  | some failure =>
    match command.strictness with
    | .strict => throw failure
    | .lenient => Action.log .warn (failure.message ++ ", continuing")

/-- Runs a command to its end. -/
def run (launcher : Launcher) (command : Command) : Action τ Report := do
  Action.log .debug command.announcement
  let outcome ← command.start launcher
  command.judge outcome.status
  pure ⟨outcome.status, Text.Utf8.decodeLossy outcome.stdout⟩

end Command

end CounterCatalog
