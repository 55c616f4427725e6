import CounterCatalog.CommandLine.Reading

/-!
# Help texts

Help lists the subcommands, operands and options of a level, each with what it is for. The manual shows the
same as pages for a formatter of manuals, and a completion script offers the same words to a shell. The words are
those of the vocabulary; how they are laid out is the library's own choice, and no result depends on it.
-/

set_option autoImplicit false

namespace CounterCatalog.CommandLine

/-- The texts as lines. -/
def asLines (texts : List String) : String :=
  String.join (texts.map fun text => text ++ "\n")

/-- A text made at least so long by spaces behind it. -/
def padded (width : Nat) (text : String) : String :=
  text ++ String.ofList (List.replicate (width - text.length) ' ')

/-- A line of a help text: a term and what it means. -/
def entryLine (term about : String) : String :=
  "  " ++ padded 26 term ++ about

namespace Spelling

/-- The long spelling of an option, with its value. -/
def longForm (spelling : Spelling) : String :=
  "--" ++ spelling.name ++
    match spelling.value? with
    | some value => " <" ++ value ++ ">"
    | none => ""

/-- All spellings of an option. -/
def forms (spelling : Spelling) : String :=
  match spelling.letter? with
  | some letter => String.ofList ['-', letter] ++ ", " ++ spelling.longForm
  | none => "    " ++ spelling.longForm

end Spelling

namespace Operand

/-- An operand as usage lines show it. -/
def form (operand : Operand) : String :=
  "<" ++ operand.name ++ ">" ++ if operand.many then "..." else ""

end Operand

namespace Scope

/-- The subcommands that help texts show at a level. -/
def shownSubcommands : Scope → List Subcommand
  | top => Subcommand.all.filter Subcommand.isShown
  | inside _ => []

/-- The words that call a level. -/
def call : Scope → String
  | top => "perflist"
  | inside subcommand => "perflist " ++ subcommand.name

/-- The line that shows how a level is used. -/
def usage (scope : Scope) : String :=
  " ".intercalate ([scope.call, "[OPTIONS]"] ++ scope.operands.map Operand.form ++
    if scope = .top then ["[COMMAND]"] else [])

/-- A part of a help text under a heading, left out where it has no entries. -/
def part (heading : String) (entries : List String) : List String :=
  if entries = [] then [] else ["", heading ++ ":"] ++ entries

/-- The help text of a level. -/
def helpText (scope : Scope) : String :=
  "\n".intercalate ([scope.about, "", "Usage: " ++ scope.usage] ++
    part "Commands" (scope.shownSubcommands.map fun subcommand =>
      entryLine subcommand.name subcommand.about) ++
    part "Arguments" (scope.operands.map fun operand => entryLine operand.form operand.about) ++
    part "Options" (scope.options.map fun spelling => entryLine spelling.forms spelling.about))

/-- An entry of a manual page: a term and what it means. -/
def manualEntry (term about : String) : List String :=
  [".TP", "\\fB" ++ term ++ "\\fR", about]

/-- A section of a manual page, left out where it has no entries. -/
def manualPart (heading : String) (entries : List (List String)) : List String :=
  if entries = [] then [] else (".SH " ++ heading) :: entries.flatten

/-- The manual page of a level. -/
def manualPage (scope : Scope) : String :=
  asLines ([".TH " ++ scope.title ++ " 1", ".SH NAME", scope.title ++ " \\- " ++ scope.about,
      ".SH SYNOPSIS", "\\fB" ++ scope.usage ++ "\\fR"] ++
    manualPart "OPTIONS" (scope.options.map fun spelling =>
      manualEntry spelling.forms spelling.about) ++
    manualPart "ARGUMENTS" (scope.operands.map fun operand =>
      manualEntry operand.form operand.about) ++
    manualPart "SUBCOMMANDS" (scope.shownSubcommands.map fun subcommand =>
      manualEntry (inside subcommand).title subcommand.about))

/-- The name of the file that holds the manual page of a level. -/
def manualFile (scope : Scope) : String :=
  scope.title ++ ".1"

/-- The levels that have a manual page, in the order in which the pages are written. -/
def manual : List Scope :=
  top :: top.shownSubcommands.map inside

end Scope

/-- The words that a shell can offer for a command line. -/
def completionWords : List String :=
  (Scope.top.shownSubcommands.map Subcommand.name) ++
    Scope.top.options.map fun spelling => "--" ++ spelling.name

/-- The script that makes a shell offer the words of a command line. -/
def ShellName.script (shell : ShellName) : String :=
  let words := " ".intercalate completionWords
  match shell with
  | bash => asLines ["complete -o default -W '" ++ words ++ "' perflist"]
  | zsh => asLines ["#compdef perflist", "compadd -- " ++ words]
  | fish => asLines ["complete -c perflist -a '" ++ words ++ "'"]
  | elvish =>
    asLines ["set edit:completion:arg-completer[perflist] = \x7b|@words| put " ++ words ++ " \x7d"]
  | powershell =>
    asLines ["Register-ArgumentCompleter -Native -CommandName perflist -ScriptBlock \x7b",
      "  param($word)",
      "  '" ++ words ++ "'.Split(' ') | Where-Object \x7b $_ -like \x22$word*\x22 \x7d",
      "\x7d"]

/-- The version of the program. -/
def versionLine : String := "perflist 0.1.0"

namespace Stop

/-- The words for a command line that is not accepted. -/
def message : Stop → String
  | unknownArgument => "unexpected argument found"
  | invalidSubcommand => "unrecognized subcommand"
  | invalidValue => "a value is missing or invalid"
  | argumentConflict => "an option cannot be used multiple times"
  | missingRequiredArgument => "the required arguments were not provided"
  | tooManyValues => "an unexpected value was given to an option that takes none"
  | help topic => topic.helpText
  | version => versionLine

/-- Asking for help or the version is no error. -/
def isError : Stop → Bool
  | help _ | version => false
  | _ => true

/-- The exit code of a program that was stopped. -/
def exitCode (stop : Stop) : Nat :=
  if stop.isError then 2 else 0

end Stop

end CounterCatalog.CommandLine
