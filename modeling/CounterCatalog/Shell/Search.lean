import CounterCatalog.Shell.Syntax
import CounterCatalog.Tree.Resolve

/-!
# Finding what a process runs

A program is given by a path, or by a name that is searched for in a list of directories. A path leads to a
tool of the system or to a script, whose first line names the program that runs it; that may be a script
again.
-/

set_option autoImplicit false

namespace CounterCatalog.Shell

/-- What a process runs. -/
structure Image where
  /-- The name of a tool. -/
  tool : String
  /-- What the tool is called. -/
  title : Chars
  /-- Its arguments. -/
  arguments : List Chars
deriving DecidableEq

namespace Image

/-- The number of bytes of a script in which its program has to be named. -/
def headerSize : Nat := 256

/-- The number of scripts that may run one another. -/
def scriptLimit : Nat := 5

/-- The length from which on an argument is refused, in bytes. -/
def argumentLimit : Nat := 131072

/-- The length from which on all arguments together are refused, in bytes. -/
def totalLimit : Nat := 2097152

/-- A blank in the first line of a script. -/
def isGap (c : Char) : Bool :=
  c = ' ' || c = '\t'

/-- The program that the first line of a script names, and the one argument it may give; blanks inside the
argument belong to it. -/
def interpreter? (content : List UInt8) : Option (Chars × Option Chars) :=
  match Chars.ofBytes (content.take headerSize) with
  | '#' :: '!' :: rest =>
    let line := rest.takeWhile fun c => c ≠ '\n'
    let complete := line.length < rest.length || content.length < headerSize
    let trimmed := ((line.dropWhile isGap).reverse.dropWhile isGap).reverse
    let path := trimmed.takeWhile fun c => !isGap c && c ≠ Char.ofNat 0
    let after := trimmed.drop path.length
    if path.isEmpty then none
    else if complete = false ∧ after.isEmpty then none
    else
      let argument := (after.dropWhile isGap).takeWhile fun c => c ≠ Char.ofNat 0
      some (path, if after.head? = some (Char.ofNat 0) ∨ argument.isEmpty then none else some argument)
  | _ => none

/-- Arguments are too long to be handed over. -/
def isTooLong (arguments : List Chars) : Bool :=
  (arguments.any fun text => argumentLimit ≤ text.length) ||
    totalLimit ≤ Number.total (arguments.map List.length)

/-- What a process runs whose program is at a path, given how many scripts may run one another. -/
def follow (tree : Tree) (cwd : Handle) : Nat → Chars → Chars → List Chars → Except Fault Image
  | scripts, path, title, arguments =>
    match tree.locate cwd path.bytes with
    | .error fault => .error fault
    | .ok (_, .program name) =>
      if isTooLong (title :: arguments) then .error .tooManyArguments else .ok ⟨name, title, arguments⟩
    | .ok (_, .file content mode) =>
      if Node.runs mode = false then .error .permissionDenied
      else if isTooLong (title :: arguments) then .error .tooManyArguments
      else
        match interpreter? content, scripts with
        | none, _ => .error .badFormat
        | some _, 0 => .error .tooManyLinks
        | some (interpreter, argument?), scripts + 1 =>
          follow tree cwd scripts interpreter interpreter (argument?.toList ++ path :: arguments)
    | .ok _ => .error .permissionDenied

/-- What a process runs whose program is at a path. -/
def atPath (tree : Tree) (cwd : Handle) (path title : Chars) (arguments : List Chars) :
    Except Fault Image :=
  follow tree cwd scriptLimit path title arguments

/-- The path of a name in one of the directories that are searched; an empty one is the current one. -/
def inDirectory (directory name : Chars) : Chars :=
  if directory.isEmpty then name else directory ++ ['/'] ++ name

/-- What a process runs whose program is searched for in directories; a program that may not be run is only
a fault if no other is found. -/
def search (tree : Tree) (cwd : Handle) (name : Chars) (arguments : List Chars) :
    List Chars → Fault → Except Fault Image
  | [], fault => .error fault
  | directory :: directories, fault =>
    match atPath tree cwd (inDirectory directory name) name arguments with
    | .ok image => .ok image
    | .error .permissionDenied => search tree cwd name arguments directories .permissionDenied
    | .error .notFound | .error .notADirectory => search tree cwd name arguments directories fault
    | .error other => .error other

/-- The directories to search where none are given. -/
def standardPath : Chars := "/bin:/usr/bin".toList

/-- The directories in a list of them. -/
def directories (path : Chars) : List Chars :=
  Text.splitOn ':' path

/-- What a process runs that no shell starts; a program with a slash in it is a path. -/
def find (tree : Tree) (cwd : Handle) (path? : Option Chars) (program : Chars)
    (arguments : List Chars) : Except Fault Image :=
  if program.isEmpty then .error .notFound
  else if program.contains '/' then atPath tree cwd program program arguments
  else search tree cwd program arguments (directories (path?.getD standardPath)) .notFound

/-- The paths at which a shell finds a command that can be run, in the order of the directories; and the
fault if there is none. -/
def commandPaths (tree : Tree) (cwd : Handle) (name : Chars) :
    List Chars → Fault → List Chars × Fault
  | [], fault => ([], fault)
  | directory :: directories, fault =>
    let path := inDirectory directory name
    let next := commandPaths tree cwd name directories
    match tree.locate cwd path.bytes with
    | .ok (_, .program _) =>
      let (paths, fault) := next fault
      (path :: paths, fault)
    | .ok (_, .file _ mode) =>
      if Node.runs mode then
        let (paths, fault) := next fault
        (path :: paths, fault)
      else next .permissionDenied
    | .ok _ => next .permissionDenied
    | .error .notFound | .error .notADirectory => next fault
    | .error other => next other

/-- What a process runs that a shell starts with a program at a path; a file that names no program is a
script for the shell itself. -/
def ofCommand (tree : Tree) (cwd : Handle) (path name : Chars) (arguments : List Chars) :
    Except Fault Image :=
  match atPath tree cwd path name arguments with
  | .error .badFormat => .ok ⟨"sh", "/bin/sh".toList, path :: arguments⟩
  | other => other

/-- What a process runs that a shell starts with a command that it finds at one of some paths. -/
def ofPaths (tree : Tree) (cwd : Handle) (name : Chars) (arguments : List Chars) :
    List Chars → Fault → Except Fault Image
  | [], fault => .error fault
  | path :: paths, fault =>
    match ofCommand tree cwd path name arguments with
    | .ok image => .ok image
    | .error .notFound | .error .notADirectory => ofPaths tree cwd name arguments paths fault
    | .error other => ofPaths tree cwd name arguments paths other

end Image

end CounterCatalog.Shell
