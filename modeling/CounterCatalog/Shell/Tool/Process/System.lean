import CounterCatalog.Shell.Search
import CounterCatalog.Shell.Tool.Common

/-!
# Telling about the system

What the system is called, where its programs are found, and whether there is a terminal; and a line that is written
as long as somebody reads it.
-/

set_option autoImplicit false

namespace CounterCatalog.Shell.Tool

open Step

/-- The number of lines that are written at a time where there is no end. -/
def yesLines : Nat := 8192

/-- How often they are written at most: where nobody asks for more, only a part of what has no end is kept. -/
def yesRounds (machine : Machine) : Nat :=
  match machine.opening? 1 with
  | some (_, ⟨.channel number, _, _, _, _⟩) =>
    if (machine.channels[number]?).any fun channel => channel.limit?.isSome then 4096 else 64
  | _ => 64

/-- Writes the same line as long as somebody reads it, given how often. -/
def repeatLine (text : List UInt8) : Nat → Step Nat
  | 0 => throw .exhausted
  | rounds + 1 => do
    match ← writeTo 1 text with
    | .ok _ => repeatLine text rounds
    | .error fault =>
      report ("standard output: ".toList ++ fault.reason.toList)
      return 1

/-- Writes the same line for ever. -/
def yes : Tool := fun arguments =>
  withOptions [] arguments fun options => do
    let words := options.operands
    let line := (if words.isEmpty then ['y'] else [' '].intercalate words) ++ ['\n']
    repeatLine (List.replicate yesLines (Chars.bytes line)).flatten (yesRounds (← get))

/-- Complains about an operand that a tool does not take. -/
def refuseOperand (status : Nat) (extra : Chars) : Step Nat :=
  misusedWith status ("extra operand ".toList ++ quoted extra)

/-- Writes what is known about the system. -/
def uname : Tool := fun arguments =>
  withOptions (flags [('a', "all"), ('s', "kernel-name"), ('n', "nodename"), ('r', "kernel-release"),
    ('v', "kernel-version"), ('m', "machine"), ('p', "processor"), ('i', "hardware-platform"),
    ('o', "operating-system")]) arguments fun options => do
    if let some extra := options.operands.head? then return ← refuseOperand 1 extra
    let all := options.has 'a'
    let parts :=
      (if all || options.has 's' || options.found.isEmpty then ["Linux"] else []) ++
        (if all || options.has 'n' then ["localhost"] else []) ++
        (if all || options.has 'm' then ["x86_64"] else []) ++
        (if options.has 'p' && !all then ["unknown"] else []) ++
        (if options.has 'i' && !all then ["unknown"] else []) ++
        (if all || options.has 'o' then ["GNU/Linux"] else [])
    answer 0 ((" ".intercalate parts).toList ++ ['\n'])

/-- Writes the kind of the machine. -/
def arch : Tool := fun arguments =>
  withOptions [] arguments fun options => do
    if let some extra := options.operands.head? then return ← refuseOperand 1 extra
    answer 0 "x86_64\n".toList

/-- Tells that there is no terminal. -/
def tty : Tool := fun arguments =>
  match Options.read (flags [('s', "silent"), ('s', "quiet")]) false arguments with
  | .error stop => stop.answer (misusedWith 2)
  | .ok options => do
    if let some extra := options.operands.head? then return ← refuseOperand 2 extra
    if options.has 's' then return 1
    answer 1 "not a tty\n".toList

/-- Sees to it that files are kept, which they are. -/
def sync : Tool := fun arguments =>
  withOptions (flags [('d', "data"), ('f', "file-system")]) arguments fun options => do
    if options.operands.isEmpty && options.has 'd' then
      report "--data needs at least one argument".toList
      return 1
    forAll options.operands fun path => do
      let machine ← get
      match machine.tree.locate machine.directory path.bytes with
      | .ok _ => return true
      | .error fault =>
        report ("error opening ".toList ++ quoted path ++ ": ".toList ++ fault.reason.toList)
        return false

/-- The letters of the options in front of names, and the names; or a letter that is no option. -/
def whichOptions : List Chars → Except Char (Chars × List Chars)
  | ['-', '-'] :: rest => .ok ([], rest)
  | ('-' :: c :: more) :: rest => do
    match (c :: more).find? fun letter => letter ≠ 'a' && letter ≠ 's' with
    | some letter => throw letter
    | none =>
      let (letters, names) ← whichOptions rest
      return (c :: more ++ letters, names)
  | names => .ok ([], names)

/-- Writes where programs are found. -/
def which : Tool := fun arguments => do
  match whichOptions arguments with
  | .error letter =>
    complain ("Illegal option -".toList ++ [letter])
    complain "Usage: /usr/bin/which [-as] args".toList
    return 2
  | .ok (letters, names) =>
    if names.isEmpty then return 1
    let machine ← get
    let path := (machine.lookup? "PATH".toList).getD Image.standardPath
    forAll names fun name => do
      if name.isEmpty then return false
      let places := if name.contains '/' then [[]] else Image.directories path
      let (paths, _) := Image.commandPaths machine.tree machine.directory name places .notFound
      for found in if letters.contains 'a' then paths else paths.take 1 do
        unless letters.contains 's' do
          let _ ← answer 0 (found ++ ['\n'])
      return !paths.isEmpty

end CounterCatalog.Shell.Tool
