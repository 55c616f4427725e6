import CounterCatalog.CommandLine.Reading
import CounterCatalog.Environment
import CounterCatalog.Settings

/-!
# What a command line asks for

A command line asks for one task. The settings of a run come from the options typed inside `generate`,
from those typed before it, from the environment, and from the defaults. Each setting is decided by itself:
the value typed inside wins, then the value typed before, then that of the environment.
-/

set_option autoImplicit false

namespace CounterCatalog.CommandLine

/-- The variable that an option's value can come from. -/
def Valued.envName? : Valued → Option String
  | .checkout => some "PERFLIST_CHECKOUT"
  | .output => some "PERFLIST_OUTPUT"
  | .url => some "PERFLIST_URL"
  | .branch => some "PERFLIST_BRANCH"
  | .git => some "PERFLIST_GIT"
  | .make => some "PERFLIST_MAKE"
  | .chdir | .shell => none

/-- The variable that can turn a switch on. -/
def Switch.envName? : Switch → Option String
  | .strict => some "PERFLIST_STRICT"
  | .quiet | .noSync | .noBuild => none

/-- Where a value comes from. -/
inductive Source where
  | typed
  | environment
  | standard
deriving DecidableEq

/-- A value and where it comes from. -/
structure Given (α : Type) where
  /-- The value. -/
  value : α
  /-- Where it comes from. -/
  source : Source
deriving DecidableEq

/-- The value that counts: the outer one only where it was typed and the inner one was not. -/
def Given.choose {α : Type} (inner : Given α) (outer? : Option (Given α)) : Given α :=
  match outer? with
  | some outer => if inner.source ≠ .typed ∧ outer.source = .typed then outer else inner
  | none => inner

/-- The value of an option at a level, if it has one there. -/
def Typed.given (environment : Environment) (option : Valued) (typed : Typed) :
    Given (Option String) :=
  match typed.value? option with
  | some value => ⟨some value, .typed⟩
  | none =>
    match option.envName?.bind environment.value? with
    | some value => ⟨some value, .environment⟩
    | none => ⟨none, .standard⟩

/-- The state of a switch at a level. -/
def Typed.givenSwitch (environment : Environment) (option : Switch) (typed : Typed) : Given Bool :=
  if typed.isOn option then ⟨true, .typed⟩
  else
    match option.envName?.bind environment.value? with
    | some value => ⟨value = "true", .environment⟩
    | none => ⟨false, .standard⟩

/-- The settings of a run, from what was typed for it, what was typed before its subcommand, and the
environment. -/
def settings (environment : Environment) (inner : Typed) (outer? : Option Typed) : Settings :=
  let value? := fun option =>
    ((inner.given environment option).choose (outer?.map (Typed.given environment option))).value
  let isOn := fun option =>
    ((inner.givenSwitch environment option).choose
      (outer?.map (Typed.givenSwitch environment option))).value
  { checkout := (value? .checkout).getD Settings.standard.checkout
    output? := value? .output
    url := (value? .url).getD Settings.standard.url
    branch := (value? .branch).getD Settings.standard.branch
    git := (value? .git).getD Settings.standard.git
    make := (value? .make).getD Settings.standard.make
    skipSync := isOn .noSync
    skipBuild := isOn .noBuild
    strictness := if isOn .strict then .strict else .lenient }

/-- What is to be done. -/
inductive Task where
  /-- Make a counter list; `named` tells whether the subcommand was typed. -/
  | generate (named : Bool) (settings : Settings)
  /-- Print the labels of a saved listing. -/
  | parse (file : String)
  /-- Print counters of a counter list. -/
  | lookup (file : String) (names : List String)
  /-- Print a completion script. -/
  | completion (shell? : Option ShellName)
  /-- Write the manual into a directory. -/
  | manpages (directory : String)
deriving DecidableEq

/-- A task, and how the program is to behave meanwhile. -/
structure Request where
  /-- The directory to change to first. -/
  chdir? : Option String
  /-- How often more output was asked for. -/
  verbosity : Nat
  /-- Only errors are to be logged. -/
  quiet : Bool
  /-- The task. -/
  task : Task
deriving DecidableEq

/-- The environment has nothing to say at a level that the level does not understand: the value for a
switch has to be a truth value, unless the switch was typed. -/
def checkEnvironment (environment : Environment) (scope : Scope) (typed : Typed) :
    Except Stop Unit :=
  let faulty := fun spelling : Spelling =>
    match spelling.flag with
    | .switch option =>
      !typed.isOn option &&
        match option.envName?.bind environment.value? with
        | some value => value ≠ "true" && value ≠ "false"
        | none => false
    | _ => false
  if scope.options.any faulty then .error .invalidValue else .ok ()

/-- Ends the reading of a level: takes over what is pending, checks the environment, and then whether all
operands are there. -/
def finish (environment : Environment) (scope : Scope) (reading : Reading) : Except Stop Typed := do
  let typed := (← reading.settle).typed
  checkEnvironment environment scope typed
  if typed.operands.length < scope.operands.length then .error .missingRequiredArgument
  else pure typed

/-- The task of a subcommand, from what was typed inside and before it. -/
def taskOf (environment : Environment) (inner outer : Typed) : Subcommand → Task
  | .generate => .generate true (settings environment inner (some outer))
  | .parse => .parse (inner.operands.headD "")
  | .lookup => .lookup (inner.operands.headD "") inner.operands.tail
  | .completion => .completion ((inner.value? .shell).bind ShellName.ofName?)
  | .manpages => .manpages (inner.operands.headD "")

/-- What a command line asks for. -/
def Request.ofWords (environment : Environment) (words : List String) : Except Stop Request := do
  let (reading, rest?) ← Reading.start.words .top words
  match rest? with
  | none =>
    let typed ← finish environment .top reading
    pure
      { chdir? := typed.value? .chdir
        verbosity := typed.tally
        quiet := typed.isOn .quiet
        task := .generate false (settings environment typed none) }
  | some (subcommand, words) =>
    let (innerReading, _) ← Reading.start.words (.inside subcommand) words
    let inner ← finish environment (.inside subcommand) innerReading
    let outer ← finish environment .top reading
    pure
      { chdir? := (inner.value? .chdir).or (outer.value? .chdir)
        verbosity := if inner.tally = 0 then outer.tally else inner.tally
        quiet := inner.isOn .quiet || outer.isOn .quiet
        task := taskOf environment inner outer subcommand }

end CounterCatalog.CommandLine
