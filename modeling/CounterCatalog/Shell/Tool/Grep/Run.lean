import CounterCatalog.Shell.Tool.Grep.Places
import CounterCatalog.Shell.Tool.Grep.Show

/-!
# Finding lines

`grep` writes the lines of files in which one of some patterns matches, or tells in other ways which they are. Its
status tells whether there were any. Of a file with zeros in it only that is told that something matches.
-/

set_option autoImplicit false

namespace CounterCatalog.Shell.Tool

open Step

namespace Grep

/-! ## Patterns -/

/-- How patterns are written. -/
inductive Kind where
  | basic | extended | fixed | perl
deriving DecidableEq

/-- A pattern, and where it stands if it stands in a file. -/
structure Given where
  /-- The text. -/
  text : Chars
  /-- The file and the line. -/
  place? : Option (Chars × Nat)

/-- The patterns that options and operands give, and the files to be searched; or the file of patterns that cannot be
read. Nothing is given if there is no pattern at all. -/
def givenPatterns (options : Options) :
    Step (Except (Chars × Fault) (Option (List Given × List Chars))) := do
  let lines := fun text : Chars => (Text.splitOn '\n' text).map fun line => (⟨line, none⟩ : Given)
  let found := options.found.filter fun item => item.1 = 'e' || item.1 = 'f'
  if found.isEmpty then
    match options.operands with
    | [] => return .ok none
    | pattern :: files => return .ok (some (lines pattern, files))
  let mut patterns := []
  for (letter, value) in found do
    if letter = 'e' then patterns := patterns ++ lines value
    else
      match ← contentOf value with
      | .ok content =>
        let name := if value = ['-'] then "(standard input)".toList else value
        patterns := patterns ++ (bareLines content).zipIdx.map fun (line, i) => ⟨line, some (name, i + 1)⟩
      | .error fault => return .error (value, fault)
  return .ok (some (patterns, options.operands))

/-- The pattern that stands for a text itself. -/
def literal (text : Chars) : Regex :=
  text.foldr (fun c rest => .seq (.oneOf [c]) rest) .empty

/-- A pattern as it is looked for, with the signs in it that have nothing to repeat; or what is wrong with it. -/
def compile (kind : Kind) (text : Chars) : Except String (Regex × List Chars) :=
  let read := fun dialect : Regex.Dialect =>
    match Regex.parseNoting dialect text with
    | .ok found => .ok found
    | .error flaw => .error flaw.message
  match kind with
  | .fixed => .ok (literal text, [])
  | .perl => (Regex.Perl.parse text).map fun regex => (regex, [])
  | .basic => read .basic
  | .extended => read { Regex.Dialect.basic with extended := true }

/-- Patterns as they are looked for, after warnings; nothing if one of them is faulty, after complaints. -/
def compileAll (kind : Kind) (patterns : List Given) : Step (Option (List Regex)) := do
  let compiled := patterns.map fun given => (given, compile kind given.text)
  let faults := compiled.filterMap fun (given, result) =>
    match result with
    | .error message => some (given, message)
    | .ok _ => none
  if kind = .perl ∧ 1 < patterns.length then
    report "the -P option only supports a single pattern".toList
    return none
  unless faults.isEmpty do
    for (given, message) in faults do
      let place :=
        match given.place? with
        | some (path, line) => if kind = .perl then [] else path ++ [':'] ++ Chars.ofNat line ++ ": ".toList
        | none => []
      report (place ++ message.toList)
    return none
  let found := compiled.filterMap fun (_, result) => result.toOption
  for idle in found.flatMap Prod.snd do
    report ("warning: ".toList ++ idle ++ " at start of expression".toList)
  return some (found.map Prod.fst)

/-- A pattern as Perl writes them which matches only whole words or lines. -/
def bounded (words lines : Bool) (regex : Regex) : Regex :=
  let word := Regex.oneOf Regex.wordChars
  if lines then .seq .lineStart (.seq regex .lineEnd)
  else if words then .seq (.preceded true word) (.seq regex (.followed true word))
  else regex

/-! ## Files -/

/-- What is done with files that are no text. -/
inductive Binary where
  /-- It is only told that something matches. -/
  | told
  /-- They are searched like others. -/
  | text
  /-- Nothing matches in them. -/
  | none
deriving DecidableEq

/-- What is told of a file. -/
inductive Telling where
  /-- The lines. -/
  | lines
  /-- Their number. -/
  | count
  /-- Its name if there are such lines. -/
  | names
  /-- Its name if there are no such lines. -/
  | others
  /-- Nothing. -/
  | nothing
deriving DecidableEq

/-- What is done with files. -/
structure Job where
  /-- What lines are looked for. -/
  search : Search
  /-- What is told of a file. -/
  telling : Telling
  /-- How lines are shown. -/
  showing : Showing
  /-- The names of files are shown. -/
  names : Bool
  /-- The number of lines that are selected at most. -/
  limit? : Option Nat
  /-- What is done with files that are no text. -/
  binary : Binary
  /-- Complaints about files that cannot be read are not made. -/
  silent : Bool

/-- What has been found in a file. -/
inductive Finding where
  /-- Lines have been selected, or none have. -/
  | found (any : Bool)
  /-- The file could not be read. -/
  | failed

/-- Looks for lines in a file, given whether lines have been shown before, and gives what has been found. -/
def Job.run (job : Job) (shown : Bool) (place : Place) : Step Finding := do
  let refuse (reason : String) : Step Finding := do
    unless job.silent do report (place.name ++ ": ".toList ++ reason.toList)
    return .failed
  if job.telling = .lines then
    if ← feedsItself place.path then return ← refuse "input file is also the output"
  let ending := job.showing.ending
  match ← recordsPart ending place.path with
  | .error fault => refuse fault.reason
  | .ok (content, goesOn) =>
    let isBinary := ending = '\n' && job.binary ≠ .text && content.contains 0
    if isBinary ∧ job.binary = .none then return .found false
    let text := Chars.ofBytes content
    let text := if isBinary then text.map fun c => if c = '\x00' then '\n' else c else text
    let items := candidates job.search job.limit? (records ending text)
    let selected := items.filter Candidate.selected
    let any := !selected.isEmpty
    let isEnough := job.limit? = some selected.length ||
      (any && (job.telling matches .nothing | .names | .others))
    let waits := goesOn && !isEnough
    if waits && job.telling ≠ .lines then starve
    let showing := { job.showing with name? := if job.names then some place.name else none }
    if let (some limit, ['-'], some last) := (job.limit?, place.path, selected.getLast?) then
      if selected.length = limit then giveBack (content.length - (last.offset + last.text.length + 1))
    let name : Showing := { showing with name? := some place.name }
    let listed := name.coloured "35" place.name ++ if showing.zeros then ['\x00'] else ['\n']
    match job.telling with
    | .nothing => pure ()
    | .names =>
      if any then
        let _ ← answer 0 listed
    | .others =>
      unless any do
        let _ ← answer 0 listed
    | .count =>
      let _ ← answer 0 (showing.nameThen ':' ++ Chars.ofNat selected.length ++ ['\n'])
    | .lines =>
      if any ∧ isBinary then report (place.name ++ ": binary file matches".toList)
      else if any then
        let _ ← answer 0 (showing.lines job.search shown items)
    if waits then starve
    return .found any

/-! ## Options -/

/-- Explains how the tool is called, and gives the status of a wrong call. -/
def usage : Step Nat := do
  let name := baseName (← get).title
  complain ("Usage: ".toList ++ name ++ " [OPTION]... PATTERNS [FILE]...".toList)
  complain ("Try '".toList ++ name ++ " --help' for more information.".toList)
  return 2

/-- The flags of `grep`. -/
def known : List Flag :=
  taking [('e', "regexp"), ('f', "file"), ('m', "max-count"), ('A', "after-context"), ('B', "before-context"),
    ('C', "context"), ('D', "devices"), ('d', "directories"), ('X', ""), ('ḃ', "binary-files"), ('ı', "include"),
    ('ẋ', "exclude"), ('ḟ', "exclude-from"), ('ḋ', "exclude-dir"), ('ḷ', "label"), ('ġ', "group-separator")] ++
  perhaps [('ċ', "color"), ('ċ', "colour")] ++
  flags [('E', "extended-regexp"), ('F', "fixed-strings"), ('F', "fixed-regexp"), ('G', "basic-regexp"),
    ('P', "perl-regexp"), ('i', "ignore-case"), ('y', ""), ('ṅ', "no-ignore-case"), ('v', "invert-match"),
    ('w', "word-regexp"), ('x', "line-regexp"), ('c', "count"), ('l', "files-with-matches"),
    ('L', "files-without-match"), ('n', "line-number"), ('o', "only-matching"), ('q', "quiet"), ('q', "silent"),
    ('s', "no-messages"), ('h', "no-filename"), ('H', "with-filename"), ('r', "recursive"),
    ('R', "dereference-recursive"), ('b', "byte-offset"), ('a', "text"), ('I', ""), ('U', "binary"),
    ('T', "initial-tab"), ('u', "unix-byte-offsets"), ('ḻ', "line-buffered"), ('z', "null-data"), ('Z', "null"),
    ('ṡ', "no-group-separator")]

/-- A group of letters without the number in it, which becomes an option of its own. -/
def withoutNumber (word : Chars) : List Chars :=
  match word with
  | '-' :: letters =>
    let front := letters.takeWhile fun c => !"efmABCDdX".toList.contains c
    let digits := (front.dropWhile fun c => !c.isDigit).takeWhile Char.isDigit
    let others := (front.filter fun c => !c.isDigit) ++ letters.drop front.length
    if digits.isEmpty then [word]
    else [['-', 'C'], digits] ++ if others.isEmpty then [] else ['-' :: others]
  | word => [word]

/-- A word is an option of which the argument stands in the next word. -/
def takesNext (word : Chars) : Bool :=
  match word with
  | '-' :: '-' :: name =>
    !name.contains '=' && known.any fun flag => flag.takes = .word && name.isPrefixOf flag.name.toList
  | '-' :: letters => (letters.dropWhile fun c => !"efmABCDdX".toList.contains c).length = 1
  | _ => false

/-- The arguments in which numbers have become options. -/
def arguments : List Chars → List Chars
  | [] => []
  | [word] => if isGroup word then withoutNumber word else [word]
  | word :: next :: rest =>
    if word = ['-', '-'] then word :: next :: rest
    else if takesNext word then (if isGroup word then withoutNumber word else [word]) ++ next :: arguments rest
    else (if isGroup word then withoutNumber word else [word]) ++ arguments (next :: rest)
where
  /-- A word is a group of letters for options. -/
  isGroup (word : Chars) : Bool :=
    word.head? = some '-' && word.tail.head? ≠ some '-'

/-- How patterns are written, as options say, or what is wrong with that. -/
def kindOf (options : Options) : Except Chars Kind := do
  let kinds ← options.found.mapM fun (letter, word) =>
    match letter with
    | 'E' => pure (some Kind.extended)
    | 'F' => pure (some .fixed)
    | 'G' => pure (some .basic)
    | 'P' => pure (some .perl)
    | 'X' =>
      match String.ofList word with
      | "grep" => pure (some .basic)
      | "egrep" | "awk" | "gawk" | "posixawk" => pure (some .extended)
      | "fgrep" => pure (some .fixed)
      | "perl" => pure (some .perl)
      | _ => throw ("invalid matcher ".toList ++ word)
    | _ => pure none
  let kinds := (kinds.filterMap id).eraseDups
  if 1 < kinds.length then throw "conflicting matchers specified".toList
  return kinds.headD .basic

/-- What is wrong with the options that take a word, if something is. -/
def mistake? (options : Options) : Option Chars :=
  options.found.findSome? fun (letter, word) =>
    match letter with
    | 'A' | 'B' | 'C' =>
      match bounded? 0 Number.greatest word with
      | .error .invalid | .error .outside => some (word ++ ": invalid context length argument".toList)
      | _ => if word.head? = some '-' then some (word ++ ": invalid context length argument".toList) else none
    | 'm' =>
      match bounded? Number.least Number.greatest word with
      | .error .invalid => some "invalid max count".toList
      | _ => none
    | 'D' =>
      if ["read", "skip"].any fun other => other.toList = word then none
      else some "unknown devices method".toList
    | 'ḃ' =>
      if ["binary", "text", "without-match"].any fun other => other.toList = word then none
      else some "unknown binary-files type".toList
    | _ => none

/-- What is done with directories, as options say; nothing after a complaint about a word that says something else. -/
def directoriesOf : List (Char × Chars) → Directories → Step (Option Directories)
  | [], found => return some found
  | (letter, word) :: rest, found => do
    if letter = 'r' ∨ letter = 'R' then return ← directoriesOf rest .search
    if letter ≠ 'd' then return ← directoriesOf rest found
    let choices := [("read", .read), ("recurse", .search), ("skip", .skip)]
    let fits := choices.filter fun item => word.isPrefixOf item.1.toList
    match (fits.map Prod.snd).eraseDups with
    | [found] => directoriesOf rest found
    | _ =>
      report ("invalid argument ".toList ++ quoted word ++ " for ".toList ++ quoted "--directories".toList)
      complain "Valid arguments are:".toList
      for (name, _) in choices do
        complain ("  - ".toList ++ quoted name.toList)
      let _ ← usage
      return none

/-- The rules for names that options give, in order; or the file of patterns that cannot be read. -/
def rulesOf : List (Char × Chars) → Step (Except (Chars × Fault) (List Rule × List Rule))
  | [] => return .ok ([], [])
  | (letter, word) :: rest => do
    match ← rulesOf rest with
    | .error fault => return .error fault
    | .ok (files, below) =>
      match letter with
      | 'ı' => return .ok (.of true word :: files, below)
      | 'ẋ' => return .ok (.of false word :: files, below)
      | 'ḋ' =>
        let word := (word.reverse.dropWhile fun c => c = '/').reverse
        return .ok (files, .of false word :: below)
      | 'ḟ' =>
        match ← contentOf word with
        | .error fault => return .error (word, fault)
        | .ok content => return .ok ((bareLines content).map (Rule.of false) ++ files, below)
      | _ => return .ok (files, below)

/-- Colours are wanted, if the words for that mean anything. -/
def colours? (options : Options) : Option Bool :=
  match options.value? 'ċ' with
  | none => some false
  | some word =>
    match String.ofList word with
    | "always" | "yes" | "force" => some true
    | "never" | "no" | "none" | "auto" | "tty" | "if-tty" | "" => some false
    | _ => none

/-- What is told of a file, as options say. -/
def tellingOf (options : Options) : Telling :=
  if options.has 'q' then .nothing
  else
    match options.lastOf "lL" with
    | some 'l' => .names
    | some _ => .others
    | none => if options.has 'c' then .count else .lines

/-- How lines are shown, as options say. -/
def showingOf (options : Options) (colours : Bool) : Showing :=
  let size := fun letter : Char =>
    ((options.value? letter).orElse fun _ => options.value? 'C').map Chars.toNat
  { name? := none, zeros := options.has 'Z', numbers := options.has 'n', offsets := options.has 'b'
    tabs := options.has 'T', parts := options.has 'o', colours := colours, before? := size 'B', after? := size 'A'
    separator? :=
      if options.lastOf "ġṡ" = some 'ṡ' then none else some ((options.value? 'ġ').getD ['-', '-'])
    ending := recordEnd options }

/-- Looks for lines in files, and gives the status. -/
def runJob (job : Job) (places : List Place) : Step Nat := do
  let mut any := false
  let mut failed := false
  for place in places do
    match ← job.run any place with
    | .found found => any := any || found
    | .failed => failed := true
    if any ∧ job.telling = .nothing then return 0
  return if failed then 2 else if any then 0 else 1

/-- Looks for patterns, as options say, in files. -/
def look (options : Options) (kind : Kind) (colours : Bool) (patterns : List Given) (files : List Chars) :
    Step Nat := do
  let some regexes ← compileAll kind patterns | return 2
  let some directories ← directoriesOf options.found .read | return 2
  match ← rulesOf options.found with
  | .error (path, fault) =>
    report (path ++ ": ".toList ++ fault.reason.toList)
    return 2
  | .ok (rules, below) =>
    let isNothing := patterns.isEmpty
    let words := options.has 'w' && !isNothing
    let lines := options.has 'x' && !isNothing
    let isPerl := kind = .perl
    let search : Search :=
      { patterns := if isPerl then regexes.map (bounded words lines) else regexes
        folded := options.hasAny "iy" && options.lastOf "iyṅ" ≠ some 'ṅ'
        words := words && !isPerl, lines := lines && !isPerl, inverted := options.has 'v', preferred := isPerl }
    let limit? := (options.value? 'm').bind fun word => if word.head? = some '-' then none else some (Chars.toNat word)
    let telling := tellingOf options
    let matchesNone := if isNothing then !options.has 'v' else
      options.has 'v' && !words && !lines && patterns.all (fun given => given.text.isEmpty) && patterns.length = 1
    if (limit? = some 0 ∨ matchesNone) ∧ !options.has 'L' then return 1
    let choosing : Choosing := ⟨directories, options.has 'R', rules, below⟩
    let places ← placesOf choosing ((options.value? 'ḷ').getD "(standard input)".toList) files
    let names :=
      match options.lastOf "hH" with
      | some 'h' => false
      | some _ => true
      | none => 1 < files.length || (directories = .search && (files.isEmpty || files.any (· ≠ ['-'])))
    let binary :=
      (options.found.filterMap fun (letter, word) =>
        match letter with
        | 'a' => some Binary.text
        | 'I' => some .none
        | 'ḃ' => some (if word.head? = some 't' then .text else if word.head? = some 'w' then .none else .told)
        | _ => none).getLast?.getD .told
    runJob ⟨search, telling, showingOf options colours, names, limit?, binary, options.has 's'⟩ places

end Grep

open Grep in
/-- Looks for lines. -/
def grep : Tool := fun words => do
  match Options.read Grep.known false (Grep.arguments words) with
  | .error stop =>
    stop.answer fun message => do
      report message
      Grep.usage
  | .ok options =>
    let fail (message : Chars) : Step Nat := do
      report message
      return 2
    if options.has 'u' then report "warning: --unix-byte-offsets (-u) is obsolete".toList
    if let some message := Grep.mistake? options then return ← fail message
    match kindOf options, colours? options with
    | .error message, _ => fail message
    | _, none => Grep.usage
    | .ok kind, some colours =>
      match ← givenPatterns options with
      | .error (path, fault) => fail (path ++ ": ".toList ++ fault.reason.toList)
      | .ok none => Grep.usage
      | .ok (some (patterns, files)) => look options kind colours patterns files

end CounterCatalog.Shell.Tool
