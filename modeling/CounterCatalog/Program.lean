import CounterCatalog.Catalog.Generation
import CounterCatalog.CommandLine.Help
import CounterCatalog.CommandLine.Request
import CounterCatalog.Counter.Listing

/-!
# The program

A run of the program is a function of its arguments, the environment, the files, the current directory and
the behaviour of children. It gives an exit code, what was written to the two output streams, and the files
it leaves. A failure is one last line on standard error, after everything that was written before it.
-/

set_option autoImplicit false

namespace CounterCatalog

/-- What a run of the program gives. -/
structure Run where
  /-- The exit code. -/
  exit : Nat
  /-- What was written to standard output. -/
  stdout : String
  /-- What was written to standard error. -/
  stderr : List UInt8
  /-- The files. -/
  tree : Tree

namespace Program

open CommandLine

variable {τ : Type}

/-- Writes a line to standard error. -/
def remark (line : String) : Action τ Unit :=
  modify fun host => host.withErrors (Text.Utf8.encode (line ++ "\n"))

/-- Changes the current directory. -/
def changeTo (dir : String) : Action τ Unit := do
  let host ← get
  let cwd ← Action.attempt ("cannot change to directory \"" ++ dir ++ "\"")
    (host.tree.directory host.cwd (Text.Utf8.encode dir))
  set { host with cwd := cwd }

/-- The text of a file. -/
def readText (path : String) : Action τ String := do
  let host ← get
  let bytes ← Action.attempt ("reading " ++ path) (host.tree.read host.cwd (Text.Utf8.encode path))
  match Text.Utf8.decode? bytes with
  | some text => pure text
  | none => Action.failWithin ("reading " ++ path) (.system .invalidUtf8)

/-- Prints the labels of a saved listing, one a line. -/
def printLabels (file : String) : Action τ Unit := do
  let labels := Event.labels (← readText file)
  if labels ≠ [] then Action.say ("\n".intercalate labels)
  Action.log .info (Counter.Numeral.decimal labels.length ++ " event labels in " ++ file)

/-- Prints counters by name, up to the first name that is not there. -/
def printCounters (counters : List Counter) (file : String) : List String → Action τ Unit
  | [] => pure ()
  | name :: names =>
    match Listing.pick counters name file with
    | .error failure => throw failure
    | .ok counter => do
      Action.say counter.render
      printCounters counters file names

/-- Looks names up in the counter list at a path and prints what it defines. -/
def lookUp (file : String) (names : List String) : Action τ Unit := do
  printCounters (← Listing.load file) file names

/-- Prints the completion script for a shell, if one was named. -/
def printCompletions : Option ShellName → Action τ Unit
  | none => pure ()
  | some shell => do
    remark ("Generating completion file for " ++ shell.name ++ "...")
    modify fun host => { host with stdout := host.stdout ++ shell.script }

/-- Writes a page of the manual into a directory. -/
def writePage (directory : String) (page : Scope) : Action τ Unit := do
  let path := Path.join directory page.manualFile
  let host ← get
  let doing := "writing " ++ path
  let (target, tree) ← Action.attempt doing (host.tree.create host.cwd (Text.Utf8.encode path))
  Action.setTree tree
  let bytes := Text.Utf8.encode page.manualPage
  match target with
  | .file handle => Action.setTree (tree.writeAt handle 0 bytes)
  | .device device => Action.attempt doing (Tree.deviceTakes device)
  | .stream number => modify fun host => host.withStream number bytes

/-- Writes the manual into a directory. -/
def writeManual (directory : String) : Action τ Unit :=
  Scope.manual.forM (writePage directory)

/-- Changes to the directory that a request names; making completions and manuals stays where it is. -/
def enter (request : Request) : Action τ Unit :=
  match request.task, request.chdir? with
  | .completion _, _ | .manpages _, _ | _, none => pure ()
  | _, some dir => changeTo dir

/-- Carries out a task. -/
def carryOut (launcher : Launcher) : Task → Action τ Unit
  | .generate _ settings => do
    let _ ← Catalog.generate launcher settings
    pure ()
  | .parse file => printLabels file
  | .lookup file names => lookUp file names
  | .completion shell? => printCompletions shell?
  | .manpages directory => writeManual directory

/-- Does what a request asks for. -/
def serve (launcher : Launcher) (request : Request) : Action τ Unit := do
  enter request
  carryOut launcher request.task

/-- The least urgent level that a request wants to be logged. -/
def threshold (request : Request) : Level :=
  if request.quiet then .error
  else
    match request.verbosity with
    | 0 => .info
    | 1 => .debug
    | _ => .trace

/-- A variable has a value that is not empty. -/
def isChosen (environment : Environment) (name : String) : Bool :=
  (environment.value? name).any fun value => value ≠ ""

/-- The environment wants log lines to be as they would be on a terminal. -/
def keepsControls (environment : Environment) : Bool :=
  isChosen environment "CLICOLOR_FORCE" && !isChosen environment "NO_COLOR"

/-- The line that reports a failure. -/
def complaint (failure : Failure) : String :=
  "perflist: error: " ++ failure.message ++ "\n"

/-- What a run gives once a request has been served or has failed. -/
def conclude : Except Failure Unit × Host τ → Run
  | (.ok _, host) => ⟨0, host.stdout, host.stderr, host.tree⟩
  | (.error failure, host) =>
    ⟨1, host.stdout, host.stderr ++ Text.Utf8.encode (complaint failure), host.tree⟩

/-- What a run gives whose command line asks for no task. -/
def refuse (tree : Tree) (stop : Stop) : Run :=
  if stop.isError then
    ⟨stop.exitCode, "", Text.Utf8.encode ("error: " ++ stop.message ++ "\n"), tree⟩
  else ⟨stop.exitCode, stop.message ++ "\n", [], tree⟩

/-- Runs the program. -/
def run (launcher : Launcher) (environment : Environment) (tree : Tree) (cwd : Handle)
    (args : List String) : Run :=
  match Request.ofWords environment args with
  | .error stop => refuse tree stop
  | .ok request =>
    let host := { Host.fresh tree cwd (threshold request) () with
      keepsControls := keepsControls environment }
    conclude ((serve launcher request).perform host)

end Program

end CounterCatalog
