import CounterCatalog.Shell.Tool.Common

/-!
# Joining lines

`paste` writes lines of files side by side, or all lines of each file in one. Between them stand the delimiters
of a list, which begins anew with each line that is written and goes round when it is used up.
-/

set_option autoImplicit false

namespace CounterCatalog.Shell.Tool

open Step

/-- The delimiters of a list, in which backslashes have a meaning; a zero stands for none. There is no list
that ends with a backslash alone. -/
def delimiters? : Chars → Option (List Chars)
  | [] => some []
  | ['\\'] => none
  | '\\' :: c :: rest =>
    let delimiter : Chars :=
      match c with
      | '0' => []
      | 'b' => ['\x08']
      | 'f' => ['\x0c']
      | 'n' => ['\n']
      | 'r' => ['\r']
      | 't' => ['\t']
      | 'v' => ['\x0b']
      | c => [c]
    (delimiters? rest).map (delimiter :: ·)
  | c :: rest => (delimiters? rest).map ([c] :: ·)

/-- Texts with delimiters between them, the list of which goes round. -/
def joinedBy (delimiters : Array Chars) (texts : List Chars) : Chars :=
  texts.zipIdx.flatMap fun (text, i) =>
    (if i = 0 then [] else (delimiters[(i - 1) % delimiters.size]?).getD []) ++ text

/-- The lines of a file that stand below one another, and whether they go on. -/
abbrev Column := List Chars × Bool

/-- The lines of files that stand side by side, those of standard input shared among the places that it has;
and what cannot be read. -/
def columnsOf (ending : Char) (files : List Chars) : Step (List Column × List (Chars × Fault)) := do
  let places := files.count ['-']
  let mut columns : List Column := []
  let mut faults := []
  let mut place := 0
  let input ← if places = 0 then pure (.ok ([], false)) else recordsPart ending ['-']
  if let .error fault := input then faults := [("-".toList, fault)]
  let (content, goesOn) := input.toOption.getD ([], false)
  let lines := records ending (Chars.ofBytes content)
  for file in files do
    if file = ['-'] then
      let share := place
      columns := ((lines.zipIdx.filter fun item => item.2 % places = share).map Prod.fst, goesOn) :: columns
      place := place + 1
    else
      match ← recordsPart ending file with
      | .ok (content, goesOn) => columns := (records ending (Chars.ofBytes content), goesOn) :: columns
      | .error fault =>
        faults := (file, fault) :: faults
        columns := ([], false) :: columns
  return (columns.reverse, faults.reverse)

/-- The rows of some columns, of which each is as long as the longest; given how many there are. -/
def rowsOf : Nat → List (List Chars) → List (List Chars)
  | 0, _ => []
  | count + 1, columns =>
    columns.map (fun column => column.headD []) :: rowsOf count (columns.map List.tail)

/-- Writes lines of files side by side, or the lines of each file in one line. -/
def paste : Tool := fun arguments =>
  withOptions (taking [('d', "delimiters")] ++ flags [('s', "serial"), ('z', "zero-terminated")]) arguments
    fun options => do
      let files := inputs options.operands
      let ending := recordEnd options
      let list := (options.value? 'd').getD ['\t']
      let some delimiters := delimiters? (if list.isEmpty then ['\\', '0'] else list)
        | do
          report ("delimiter list ends with an unescaped backslash: ".toList ++ list)
          return 1
      let joined := fun texts : List Chars => joinedBy delimiters.toArray texts ++ [ending]
      if options.has 's' then
        let onFault (file : Chars) (fault : Fault) : Step Nat := do
          let _ ← blameFault file fault
          if fault = .isADirectory then
            let _ ← answer 0 [ending]
          return 1
        eachContent options.operands onFault fun content =>
          answer 0 (joined (records ending (Chars.ofBytes content)))
      else
        for file in files do
          if file ≠ ['-'] then
            if let .error fault := (← get).openToRead file then
              if fault ≠ .isADirectory then return ← blameFault file fault
        let (columns, faults) ← columnsOf ending files
        for (file, fault) in faults do
          let _ ← blameFault file fault
        let heights := fun goesOn : Bool =>
          (columns.filter fun column => column.2 == goesOn).map fun column => column.1.length
        let height := ((heights true).min?).getD ((heights false).foldl max 0)
        let rows := rowsOf height (columns.map Prod.fst)
        let status ← answer (if faults.isEmpty then 0 else 1) (rows.flatMap joined)
        if columns.any Prod.snd then starve
        closeInput files "-" status

end CounterCatalog.Shell.Tool
