import CounterCatalog.Shell.Tool.File.Common

/-!
# Making files

`touch` makes files that do not exist yet, and sees to it that the times of files can be set, which are not kept.
`mktemp` makes a new file or directory with a name that nothing else has.
-/

set_option autoImplicit false

namespace CounterCatalog.Shell.Tool

open Step

namespace Touching

/-- A number of two digits in a text, at a place. -/
def pair (text : Chars) (place : Nat) : Nat :=
  Chars.toNat ((text.drop place).take 2)

/-- A text is a time in digits: month, day, hour and minute, perhaps with a year in front and seconds behind. -/
def isStamp (text : Chars) : Bool :=
  let front := text.takeWhile fun c => c ≠ '.'
  let back := text.drop front.length
  let rest := front.drop (front.length - 8)
  let isIn := fun low high value : Nat => low ≤ value && value ≤ high
  [8, 10, 12].contains front.length && front.all Char.isDigit &&
    (back.isEmpty || (back.length = 3 && back.tail.all Char.isDigit && isIn 0 60 (pair back 1))) &&
    isIn 1 12 (pair rest 0) && isIn 1 31 (pair rest 2) && isIn 0 23 (pair rest 4) && isIn 0 59 (pair rest 6)

/-- The words that may stand in a date: months, days, zones, times from now, and what joins them. -/
def dateWords : List String :=
  ["january", "february", "march", "april", "may", "june", "july", "august", "september", "sept", "october", "november",
   "december", "sunday", "monday", "tuesday", "tues", "wednesday", "wednes", "thursday", "thur", "thurs", "friday",
   "saturday", "am", "pm", "a.m.", "p.m.", "year", "month", "fortnight", "week", "day", "hour", "minute", "min",
   "second", "sec", "tomorrow", "yesterday", "today", "now", "last", "this", "next", "first", "third", "fourth",
   "fifth", "sixth", "seventh", "eighth", "ninth", "tenth", "eleventh", "twelfth", "ago", "gmt", "ut", "utc", "wet",
   "west", "bst", "cet", "cest", "eet", "est", "edt", "cst", "cdt", "mst", "mdt", "pst", "pdt", "dst"]

/-- A word may stand in a date: a letter for a zone, one of the words for that, cut after three letters if that is
a month or a day, or with an s behind it. -/
def isDateWord (word : Chars) : Bool :=
  word.length ≤ 1 || dateWords.zipIdx.any fun (known, place) =>
    word = known.toList || word = known.toList ++ ['s'] || (place < 21 && word = known.toList.take 3)

/-- The words in a date. -/
def wordsIn (text : Chars) : List Chars :=
  let isLetter := fun c : Char => c.isAlpha || c = '.'
  let collect := fun (c : Char) (words : List Chars) =>
    if isLetter c then (match words with | word :: rest => (c.toLower :: word) :: rest | [] => [[c.toLower]])
    else [] :: words
  (text.foldr collect [[]]).filter fun word => word.any Char.isAlpha

/-- A text is a date, as far as the words in it tell. -/
def isDate (text : Chars) : Bool :=
  (wordsIn text).all isDateWord

/-- Makes a file, or finds one. -/
def one (create follow : Bool) (path : Chars) : Step Bool := do
  let machine ← get
  if path = ['-'] then return true
  let found :=
    if follow then machine.tree.locate machine.directory path.bytes else machine.tree.view machine.directory path.bytes
  let setting := "setting times of ".toList ++ quoted path
  match found, create && follow with
  | .ok _, _ => return true
  | .error .notFound, false => if create then cannot setting .notFound else return true
  | .error fault, false => cannot setting fault
  | .error fault, true =>
    match machine.openToWrite path id with
    | .ok (_, machine) =>
      set machine
      return true
    | .error .isADirectory => cannot setting fault
    | .error fault => cannot ("cannot touch ".toList ++ quoted path) fault

/-- The words for which time is set. -/
def timeWords : List (String × Char) :=
  [("atime", 'a'), ("access", 'a'), ("use", 'a'), ("mtime", 'm'), ("modify", 'm')]

end Touching

/-- Makes files that do not exist yet. -/
def touch : Tool := fun arguments =>
  withOptions (taking [('d', "date"), ('t', ""), ('r', "reference"), ('ṫ', "time")] ++
    flags [('a', ""), ('c', "no-create"), ('m', ""), ('f', ""), ('h', "no-dereference")]) arguments fun options => do
    for word in options.values 'ṫ' do
      unless (← choice "--time" Touching.timeWords word).isSome do return 1
    let faulty := fun (letter : Char) (isFine : Chars → Bool) => (options.values letter).find? fun text => !isFine text
    if let some text := (faulty 't' Touching.isStamp).orElse fun _ => faulty 'd' Touching.isDate then
      report ("invalid date format ".toList ++ quoted text)
      return 1
    if options.has 't' && options.hasAny "dr" then
      return ← misused "cannot specify times from more than one source"
    if let some reference := options.value? 'r' then
      let machine ← get
      if let .error fault := machine.tree.locate machine.directory reference.bytes then
        let _ ← cannot ("failed to get attributes of ".toList ++ quoted reference) fault
        return 1
    if options.operands.isEmpty then return ← misused "missing file operand"
    forAll options.operands (Touching.one (!options.has 'c') (!options.has 'h'))

/-- A name with other characters in the place of a number of marks, given a number that nothing else has. -/
def filledIn (front back : Chars) (marks seed : Nat) : Chars :=
  let letters := "abcdefghijklmnopqrstuvwxyzABCDEFGHIJKLMNOPQRSTUVWXYZ0123456789".toList.toArray
  let letter := fun i : Nat => (letters[(seed / (i + 1) + i * 7) % letters.size]?).getD 'a'
  let digits := Chars.ofNat seed
  let fill := if marks ≤ digits.length then digits.drop (digits.length - marks)
    else (List.range (marks - digits.length)).map letter ++ digits
  front ++ fill ++ back

/-- Makes a new file or directory with a name that nothing else has. -/
def mktemp : Tool := fun arguments =>
  withOptions (taking [('p', ""), ('ṡ', "suffix")] ++ perhaps [('ṫ', "tmpdir")] ++ flags [('d', "directory"),
    ('q', "quiet"), ('u', "dry-run"), ('t', "")]) arguments fun options => do
    let fail (message : Chars) : Step Nat := do
      report message
      return 1
    let machine ← get
    if 1 < options.operands.length then return ← misused "too many templates"
    let given := (options.operands.head?).getD "tmp.XXXXXXXXXX".toList
    if options.has 'ṡ' && given.getLast? ≠ some 'X' then
      return ← fail ("with --suffix, template ".toList ++ quoted given ++ " must end in X".toList)
    let template := given ++ (options.value? 'ṡ').getD []
    let suffix := (options.value? 'ṡ').getD
      (if given.contains 'X' then (given.reverse.takeWhile fun c => c ≠ 'X').reverse else [])
    if suffix.contains '/' then
      return ← fail ("invalid suffix ".toList ++ quoted suffix ++ ", contains directory separator".toList)
    let body := template.take (template.length - suffix.length)
    let marks := (body.reverse.takeWhile fun c => c = 'X').length
    if marks < 3 then return ← fail ("too few X's in template ".toList ++ quoted template)
    let setting := (machine.lookup? "TMPDIR".toList).filter fun path => !path.isEmpty
    let said := ((options.found.filter fun item => item.1 = 'p' || item.1 = 'ṫ').getLast?.map Prod.snd).filter
      fun path => !path.isEmpty
    let placed := options.operands.isEmpty || options.hasAny "ptṫ"
    if options.has 't' && template.contains '/' then
      return ← fail ("invalid template, ".toList ++ quoted template ++ ", contains directory separator".toList)
    if placed && template.head? = some '/' then
      return ← fail ("invalid template, ".toList ++ quoted template ++
        "; with --tmpdir, it may not be absolute".toList)
    let order := if options.has 't' then [setting, said] else [said, setting]
    let directory := ((order.filterMap id).head?).getD "/tmp".toList
    let front := body.take (body.length - marks)
    let name := filledIn front suffix marks (machine.tree.nodes.size * 7919 + 1000003)
    let place := fun name : Chars => if placed then within directory name else name
    let path := place name
    let fault? ←
      if options.has 'u' then
        match machine.tree.directory machine.directory (Chars.bytes (dirName path)) with
        | .ok _ => pure none
        | .error fault => pure (if options.has 'd' then some fault else none)
      else edit fun tree =>
        if options.has 'd' then tree.makeDirectory machine.directory path.bytes 0o700
        else
          match tree.openWith machine.directory path.bytes 0o600 id with
          | .ok (_, tree) => .ok tree
          | .error fault => .error fault
    match fault? with
    | none => answer 0 (path ++ ['\n'])
    | some fault =>
      unless options.has 'q' do
        let kind := if options.has 'd' then "directory" else "file"
        let _ ← cannot ("failed to create ".toList ++ kind.toList ++ " via template ".toList ++
          quoted (place template)) fault
      return 1

end CounterCatalog.Shell.Tool
