import CounterCatalog.Shell.Tool.Common

/-!
# The beginnings and ends of files

`head` writes the beginning of each file, and `tail` the end, counted in lines or bytes. Of standard input
`head` takes no more than it has to, as far as that can be given back: of a channel it takes lines in blocks.
-/

set_option autoImplicit false

namespace CounterCatalog.Shell.Tool

open Step

/-- How much of a file is written. -/
structure Extent where
  /-- It is counted in bytes, not in lines. -/
  ofBytes : Bool
  /-- The number of them. -/
  size : Nat
  /-- They are counted from the other end of the file. -/
  fromOther : Bool
  /-- What ends a line. -/
  ending : UInt8

namespace Extent

/-- The pieces of a content that are counted. -/
def recordsOf (ending : UInt8) (content : List UInt8) : List (List UInt8) :=
  let pieces := Text.splitOn ending content
  (pieces.dropLast.map fun line => line ++ [ending]) ++
    (pieces.getLast?.toList.filter fun line => !line.isEmpty)

/-- The number of bytes at the front of a content that make up a number of records. -/
def sizeOf (extent : Extent) (count : Nat) (content : List UInt8) : Nat :=
  if extent.ofBytes then count
  else (((recordsOf extent.ending content).take count).map List.length).foldl Nat.add 0

/-- The number of what is counted in a content. -/
def total (extent : Extent) (content : List UInt8) : Nat :=
  if extent.ofBytes then content.length else (recordsOf extent.ending content).length

/-- The beginning of a content. -/
def first (extent : Extent) (content : List UInt8) : List UInt8 :=
  let count := if extent.fromOther then extent.total content - extent.size else extent.size
  content.take (extent.sizeOf count content)

/-- The end of a content; where it is counted from the beginning, the first one has the number one. -/
def last (extent : Extent) (content : List UInt8) : List UInt8 :=
  let passed := if extent.fromOther then extent.size - 1 else extent.total content - extent.size
  content.drop (extent.sizeOf passed content)

/-- A content holds at least as much as is wanted of its beginning. -/
def isEnough (extent : Extent) (content : List UInt8) : Bool :=
  !extent.fromOther &&
    decide (extent.size ≤ if extent.ofBytes then content.length else content.count extent.ending)

end Extent

/-- An extent as an option gives it, with the sign that stands in front of the number. -/
def readExtent (options : Options) (other : Char) : Except Chars Extent :=
  let ofBytes := options.lastOf "cn" = some 'c'
  let ending := if options.has 'z' then 0 else 0x0A
  let text := (options.value? (if ofBytes then 'c' else 'n')).getD ['1', '0']
  let signed := text.head? = some '-' || text.head? = some other
  let digits := if signed then text.tail else text
  match size? true digits with
  | .ok size => .ok ⟨ofBytes, size, text.head? = some other, ending⟩
  | .error flaw =>
    .error ((if ofBytes then "invalid number of bytes: " else "invalid number of lines: ").toList ++
      quoted digits ++ flaw.ending)

/-- An old way to give the count is a number for an option, with letters behind it; gives the options that stand
for it. -/
def oldExtent? (allowed : String) (word : Chars) : Option (List Chars) :=
  match word with
  | '-' :: c :: rest =>
    let digits := (c :: rest).takeWhile Char.isDigit
    let letters := (c :: rest).drop digits.length
    if digits.isEmpty ∨ !letters.all allowed.toList.contains then none
    else
      let unit := letters.filter "bkm".toList.contains
      let ofBytes := letters.any "bckm".toList.contains
      let others := letters.filter "qvz".toList.contains
      some ([['-', if ofBytes then 'c' else 'n'], digits ++ unit.take 1] ++ others.map fun c => ['-', c])
  | _ => none

/-- The line that stands above a part of one of several files. -/
def heading (name : Chars) : List UInt8 :=
  Chars.bytes ("==> ".toList ++ name ++ " <==\n".toList)

/-- The size of the blocks in which lines are read. -/
def blockSize : Nat := 8192

/-- The number of bytes of standard input that are taken when some of them are used. -/
def takenSize (machine : Machine) (extent : Extent) (used total : Nat) : Nat :=
  match machine.opening? 0 with
  | some (_, ⟨.channel _, _, _, _, _⟩) =>
    if extent.ofBytes then used else min total ((used + blockSize - 1) / blockSize * blockSize)
  | _ => used

/-- All bytes of a file. -/
def wholeContent (file : Chars) : Step (Except Fault (List UInt8 × Bool)) := do
  return (← contentOf file).map fun content => (content, false)

/-- The bytes of a file of which the beginning is wanted, and whether more are needed than there are. -/
def contentForHead (extent : Extent) (file : Chars) : Step (Except Fault (List UInt8 × Bool)) := do
  if extent.fromOther then return ← wholeContent file
  if file ≠ ['-'] then
    if extent.ofBytes then return ← contentUpTo extent.size file
    return (← partOf file).map fun (content, goesOn) => (content, goesOn && !extent.isEnough content)
  let machine ← get
  match machine.remaining 0 with
  | .error fault => return .error fault
  | .ok content =>
    let isEndless := (machine.opening? 0).any fun item => item.2.source matches .device _
    if isEndless ∧ extent.ofBytes ∧ !content.isEmpty then return .ok (List.replicate extent.size 0, false)
    let size := takenSize machine extent (extent.first content).length content.length
    modify fun machine => machine.leaveUnread 0 (min size content.length) (content.drop size)
    return .ok (content, machine.goesOn 0 && !extent.isEnough content)

/-- Writes a part of each of some files; given how a file is read, which part of it is taken, and the complaint
about one that cannot be read. -/
def writeEnds (options : Options) (read : Chars → Step (Except Fault (List UInt8 × Bool)))
    (part : List UInt8 → List UInt8) (complaint : Chars → Fault → Chars) : Step Nat := do
  let files := inputs options.operands
  let titled := ((1 < files.length && !options.has 'q') || options.has 'v') && options.lastOf "qv" ≠ some 'q'
  let mut first := true
  let mut status := 0
  for file in files do
    let name := if file = ['-'] then "standard input".toList else file
    let result ← read file
    let opens := result.isOk || result matches .error .isADirectory || file = ['-']
    if titled && opens then
      let _ ← finish 0 ((if first then [] else [0x0A]) ++ heading name)
      first := false
    match result with
    | .error fault =>
      report (complaint name fault)
      status := 1
    | .ok (content, goesOn) =>
      status := max status (← finish 0 (part content))
      if goesOn then starve
  closeInput files "-" status

/-- The flags that both tools have. -/
def endFlags : List Flag :=
  taking [('c', "bytes"), ('n', "lines")] ++
    flags [('q', "quiet"), ('q', "silent"), ('v', "verbose"), ('z', "zero-terminated")]

/-- Writes the beginnings of files. -/
def head : Tool := fun arguments =>
  let spelled := ((arguments.head?.bind (oldExtent? "clqvzbkm")).map (· ++ arguments.tail)).getD arguments
  withOptions endFlags spelled fun options =>
    orReport (readExtent options '-') fun extent =>
      writeEnds options (contentForHead extent) extent.first fun name fault =>
        let what :=
          match fault with
          | .isADirectory | .badHandle => "error reading ".toList ++ quoted name
          | _ => "cannot open ".toList ++ quoted name ++ " for reading".toList
        what ++ ": ".toList ++ fault.reason.toList

/-- Writes the ends of files. -/
def tail : Tool := fun arguments =>
  let spelled := ((arguments.head?.bind (oldExtent? "clb")).map (· ++ arguments.tail)).getD arguments
  withOptions (endFlags ++ taking [('s', "sleep-interval"), ('ṗ', "pid")] ++ flags [('ṙ', "retry")])
    spelled fun options =>
    orReport (readExtent options '+') fun extent =>
      let read := if extent.fromOther then partOf else wholeContent
      writeEnds options read extent.last fun name fault =>
        let what :=
          match fault with
          | .isADirectory => "error reading ".toList ++ quoted name
          | .badHandle => "cannot fstat ".toList ++ quoted name
          | _ => "cannot open ".toList ++ quoted name ++ " for reading".toList
        what ++ ": ".toList ++ fault.reason.toList

end CounterCatalog.Shell.Tool
