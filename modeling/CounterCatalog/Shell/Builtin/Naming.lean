import CounterCatalog.Shell.Builtin.Control
import CounterCatalog.Shell.Search

/-!
# What a command name means

A word in front of a command is a keyword, an alias, a function, a command of the shell or a program that is
found in one of the directories that are searched.
-/

set_option autoImplicit false

namespace CounterCatalog.Shell.Builtin

open Step

/-- The commands of the shell that are not treated in a way of their own. -/
def ordinaryNames : List String :=
  ["[", "alias", "bg", "cd", "chdir", "command", "echo", "false", "fg", "getopts", "hash", "jobs", "kill",
   "printf", "pwd", "read", "test", "true", "type", "ulimit", "umask", "unalias", "wait"]

/-- A command of the shell has this name. -/
def isNamed (name : Chars) : Bool :=
  let name := String.ofList name
  ordinaryNames.contains name || Parser.specialNames.contains name

/-- A command of the shell is treated in a way of its own: its errors end the shell, and assignments in front
of it stay. -/
def isSpecial (name : Chars) : Bool :=
  Parser.specialNames.contains (String.ofList name)

/-- Arguments of a command may be assignments. -/
def takesAssignments (name : Chars) : Bool :=
  ["alias", "export", "local", "readonly"].contains (String.ofList name)

/-- What a name means. -/
inductive Meaning where
  /-- A word of the syntax. -/
  | keyword
  /-- A word that stands for a text. -/
  | alias (text : Chars)
  /-- A function. -/
  | function
  /-- A command of the shell. -/
  | builtin (special : Bool)
  /-- A program at a path. -/
  | program (path : Chars)
  /-- Nothing. -/
  | nothing

/-- What a name means, given the directories in which programs are searched. -/
def meaningOf (machine : Machine) (directories : List Chars) (name : Chars) : Meaning :=
  if Parser.Keyword.all.any fun keyword => keyword.text.toList = name then .keyword
  else
    match machine.aliases.find? fun item => item.1 = name with
    | some (_, text) => .alias text
    | none =>
      if machine.functions.any fun item => item.1 = name then .function
      else if isNamed name then .builtin (isSpecial name)
      else if name.contains '/' then
        if machine.tree.pathExists machine.directory name.bytes then .program name else .nothing
      else
        match (Image.commandPaths machine.tree machine.directory name directories .notFound).1 with
        | path :: _ => .program path
        | [] => .nothing

/-- Tells what a name means, in words or by what stands for it; gives the status of that. A program that the
shell knows already is told so, unless other directories are searched than usual. -/
def describe (inWords usual : Bool) (directories : List Chars) (name : Chars) : Step Nat := do
  let machine ← get
  match meaningOf machine directories name, inWords with
  | .keyword, true => say (line (name ++ " is a shell keyword".toList))
  | .alias text, true => say (line (name ++ " is an alias for ".toList ++ text))
  | .function, true => say (line (name ++ " is a shell function".toList))
  | .builtin true, true => say (line (name ++ " is a special shell builtin".toList))
  | .builtin false, true => say (line (name ++ " is a shell builtin".toList))
  | .program path, true =>
    let isKnown := usual && machine.known.contains name
    say (line (name ++ (if isKnown then " is a tracked alias for " else " is ").toList ++ path))
  | .nothing, true =>
    let _ ← say (line (name ++ ": not found".toList))
    return 127
  | .alias text, false => say (line ("alias ".toList ++ name ++ ['='] ++ quote text))
  | .program path, false => say (line path)
  | .nothing, false => return 127
  | _, false => say (line name)

/-- Tells what names mean. -/
def typeOf : Builtin := fun arguments => do
  let directories := searchPath (← get)
  let answers ← arguments.mapM (describe true true directories)
  return answers.foldl (fun result answer => result ||| answer) 0

/-- The directories of the system in which programs are searched, whatever the shell is set to. -/
def systemPath : List Chars :=
  ["/usr/local/sbin", "/usr/local/bin", "/usr/sbin", "/usr/bin", "/sbin", "/bin"].map String.toList

/-- Tells what a name means, or does nothing at all. -/
def command : Builtin := fun arguments => do
  let (found, names) ← options "pvV" arguments
  let has := fun letter : Char => found.any fun item => item.1 = letter
  let machine ← get
  let directories := if has 'p' then systemPath else searchPath machine
  match names with
  | name :: _ => if has 'v' ∨ has 'V' then describe (has 'V') (!has 'p') directories name else return 0
  | [] => return 0

/-- The size of the table of programs that the shell knows. -/
def programTable : Nat := 31

/-- The paths of the programs that the shell knows, as it goes through them. -/
def knownPaths (machine : Machine) : List Chars :=
  let place := fun name : Chars => Machine.bucket programTable name
  let ordered := machine.known.mergeSort fun a b => decide (place a ≤ place b)
  ordered.filterMap fun name =>
    (Image.commandPaths machine.tree machine.directory name (searchPath machine) .notFound).1.head?

/-- Looks for programs so as to know them, shows those that are known, or forgets them all. -/
def hash : Builtin := fun arguments => do
  let (found, names) ← options "r" arguments
  if !found.isEmpty then
    modify fun machine => { machine with known := [] }
    return 0
  if names.isEmpty then return ← say ((knownPaths (← get)).map line).flatten
  let answers ← names.mapM fun name => do
    let machine ← get
    match meaningOf machine (searchPath machine) name with
    | .nothing =>
      warn (name ++ ": not found".toList)
      return 1
    | .program _ =>
      unless name.contains '/' do set (machine.learn name)
      return 0
    | _ => return 0
  return answers.foldl max 0

end CounterCatalog.Shell.Builtin
