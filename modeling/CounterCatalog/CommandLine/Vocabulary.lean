/-!
# The vocabulary of the command line

A command line is read at two levels: what stands before a subcommand, and what follows it. Each level,
called a scope here, has its options and takes its operands. An option has a long spelling and perhaps a
letter; it takes a value, is a switch, is counted, or asks for help or the version.
-/

set_option autoImplicit false

namespace CounterCatalog.CommandLine

/-- The options that take a value. -/
inductive Valued where
  | chdir
  | checkout
  | output
  | url
  | branch
  | git
  | make
  | shell
deriving DecidableEq

/-- The options that are on or off. -/
inductive Switch where
  | quiet
  | noSync
  | noBuild
  | strict
deriving DecidableEq

/-- What an option does. -/
inductive Flag where
  /-- It takes a value. -/
  | valued (option : Valued)
  /-- It switches something on. -/
  | switch (option : Switch)
  /-- It makes the program say more, each time it stands. -/
  | verbose
  /-- It asks for help. -/
  | help
  /-- It asks for the version. -/
  | version
deriving DecidableEq

/-- How an option is spelled and what it is for. -/
structure Spelling where
  /-- What the option does. -/
  flag : Flag
  /-- Its letter, after one dash. -/
  letter? : Option Char
  /-- Its long name, after two dashes. -/
  name : String
  /-- What its value is called in help texts. -/
  value? : Option String
  /-- What it is for. -/
  about : String

/-- The subcommands. -/
inductive Subcommand where
  | generate
  | parse
  | lookup
  | completion
  | manpages
deriving DecidableEq

namespace Subcommand

/-- All subcommands, in the order of help texts. -/
def all : List Subcommand :=
  [generate, parse, lookup, completion, manpages]

/-- The name of a subcommand. -/
def name : Subcommand → String
  | generate => "generate"
  | parse => "parse"
  | lookup => "lookup"
  | completion => "completion"
  | manpages => "manpages"

/-- What a subcommand is for. -/
def about : Subcommand → String
  | generate => "clone, build and query libpfm4, write the counter list (default)"
  | parse => "print the event labels found in saved showevtinfo output"
  | lookup => "look up counters in a generated counter list"
  | completion => "Generate perflist shell completions."
  | manpages => "Generate perflist manpages."

/-- Help texts and manuals leave out the subcommands that serve installation. -/
def isShown : Subcommand → Bool
  | generate | parse | lookup => true
  | completion | manpages => false

end Subcommand

/-- The levels of a command line: before a subcommand, or inside one. -/
inductive Scope where
  | top
  | inside (subcommand : Subcommand)
deriving DecidableEq

/-- An operand as help texts show it. -/
structure Operand where
  /-- What it is called. -/
  name : String
  /-- What it is for. -/
  about : String
  /-- It takes all further operands too. -/
  many : Bool

namespace Scope

/-- The options that say what to generate and how. -/
def generateOptions : List Spelling :=
  [⟨.valued .checkout, some 'd', "checkout", some "DIR", "libpfm4 checkout directory"⟩,
   ⟨.valued .output, some 'o', "output", some "FILE",
     "output file [default: perf_list.csv next to the checkout]"⟩,
   ⟨.valued .url, none, "url", some "URL", "libpfm4 repository url"⟩,
   ⟨.valued .branch, none, "branch", some "BRANCH", "libpfm4 branch to clone"⟩,
   ⟨.valued .git, none, "git", some "BIN", "git binary used to clone or pull"⟩,
   ⟨.valued .make, none, "make", some "BIN", "command used to build libpfm4"⟩,
   ⟨.switch .noSync, none, "no-sync", none, "don't clone or pull the checkout"⟩,
   ⟨.switch .noBuild, none, "no-build", none, "don't run make in the checkout"⟩,
   ⟨.switch .strict, none, "strict", none, "fail if git or make exit unsuccessfully"⟩]

/-- The options that stand at every level. -/
def commonOptions : List Spelling :=
  [⟨.valued .chdir, some 'C', "chdir", some "chdir",
     "change working directory before doing anything else"⟩,
   ⟨.verbose, some 'v', "verbose", none, "be verbose (e.g., show command lines)"⟩,
   ⟨.switch .quiet, some 'q', "quiet", none, "only log errors"⟩,
   ⟨.help, some 'h', "help", none, "Print help"⟩]

/-- The options of a level. -/
def options : Scope → List Spelling
  | top =>
    generateOptions ++ commonOptions ++ [⟨.version, some 'V', "version", none, "Print version"⟩]
  | inside .generate => generateOptions ++ commonOptions
  | inside .completion =>
    ⟨.valued .shell, none, "generate", some "generator", "shell to generate completions for"⟩ ::
      commonOptions
  | inside _ => commonOptions

/-- The operands of a level, all of them required. -/
def operands : Scope → List Operand
  | inside .parse => [⟨"file", "file containing showevtinfo output", false⟩]
  | inside .lookup => [⟨"file", "counter list file", false⟩, ⟨"names", "counter names", true⟩]
  | inside .manpages => [⟨"outdir", "directory in which to create manpage files", false⟩]
  | _ => []

/-- A level takes one more operand after a number of them. -/
def takesAfter (scope : Scope) (count : Nat) : Bool :=
  count < scope.operands.length || scope.operands.any Operand.many

/-- The option of a level with a long name. -/
def named? (scope : Scope) (name : String) : Option Flag :=
  (scope.options.find? fun spelling => spelling.name = name).map Spelling.flag

/-- The option of a level with a letter. -/
def lettered? (scope : Scope) (letter : Char) : Option Flag :=
  (scope.options.find? fun spelling => spelling.letter? = some letter).map Spelling.flag

/-- The name of a level's program: that of the program itself, and of the subcommand. -/
def title : Scope → String
  | top => "perflist"
  | inside subcommand => "perflist-" ++ subcommand.name

/-- What a level is for. -/
def about : Scope → String
  | top => "Generate a list of hardware performance counter codes from libpfm4"
  | inside subcommand => subcommand.about

end Scope

/-- What a word can open at the top level. -/
inductive Opening where
  /-- A subcommand. -/
  | task (subcommand : Subcommand)
  /-- Help on what the further words name. -/
  | help
deriving DecidableEq

namespace Opening

/-- Everything that a word can open, with its full word. -/
def all : List (String × Opening) :=
  (Subcommand.all.map fun subcommand => (subcommand.name, task subcommand)) ++ [("help", help)]

/-- A word opens what its characters begin, if they begin one full word only. -/
def ofWord? (word : String) : Option Opening :=
  match all.filter fun item => word.toList.isPrefixOf item.1.toList with
  | [item] => some item.2
  | _ => none

end Opening

/-- The shells that completions can be made for. -/
inductive ShellName where
  | bash
  | elvish
  | fish
  | powershell
  | zsh
deriving DecidableEq

namespace ShellName

/-- All shells. -/
def all : List ShellName :=
  [bash, elvish, fish, powershell, zsh]

/-- The name of a shell. -/
def name : ShellName → String
  | bash => "bash"
  | elvish => "elvish"
  | fish => "fish"
  | powershell => "powershell"
  | zsh => "zsh"

/-- The shell with a name. -/
def ofName? (name : String) : Option ShellName :=
  all.find? fun shell => shell.name = name

end ShellName

end CounterCatalog.CommandLine
