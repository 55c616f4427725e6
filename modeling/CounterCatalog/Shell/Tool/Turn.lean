import CounterCatalog.Shell.Regex.Parser
import CounterCatalog.Shell.Tool.Common

/-!
# Writing in the opposite order

`tac` writes the records of a file from the last to the first, and `rev` the characters of each line. Records are
separated by a text or by what an expression matches, which is looked for from the end of the file on.
-/

set_option autoImplicit false

namespace CounterCatalog.Shell.Tool

open Step

/-- What separates records. -/
inductive Separator where
  /-- A text. -/
  | text (text : Chars)
  /-- A match. -/
  | found (regex : Regex)

namespace Separator

/-- The end of the separator that begins at a place, in a text up to another place. -/
def endAt? (separator : Separator) (text : Array Char) (stop start : Nat) : Option Nat :=
  match separator with
  | .text sign =>
    let after := start + sign.length
    if after ≤ stop ∧ sign.zipIdx.all fun (c, i) => text[start + i]? = some c then some after else none
  | .found regex =>
    (regex.matchAt ⟨text.extract 0 stop, false, false, regex.refersBack⟩ start).map fun found => found.stop.place

/-- The places at which records begin or end, the last one first, given the place up to which they are looked
for. -/
def places (separator : Separator) (before : Bool) (text : Array Char) : Nat → Nat → List Nat
  | 0, _ => []
  | start + 1, stop =>
    match separator.endAt? text stop start with
    | none => places separator before text start stop
    | some after => (if before then start else after) :: places separator before text start start

end Separator

/-- The parts of a text from the last one to the first, given the places between them from the last one on, and
where the last part ends. -/
def partsFrom (text : Array Char) : List Nat → Nat → List Chars
  | [], stop => [(text.extract 0 stop).toList]
  | place :: rest, stop => (text.extract place stop).toList :: partsFrom text rest place

/-- The separator that options give. -/
def separatorOf (options : Options) : Except Chars Separator :=
  let text := (options.value? 's').getD ['\n']
  if options.has 'r' then
    if text.isEmpty then .error "separator cannot be empty".toList
    else
      match Regex.parse .repeating text with
      | .ok regex => .ok (.found regex)
      | .error flaw => .error flaw.message.toList
  else .ok (.text (if text.isEmpty then ['\x00'] else text))

/-- Writes the records of files in the opposite order. -/
def tac : Tool := fun arguments =>
  withOptions (flags [('b', "before"), ('r', "regex")] ++ taking [('s', "separator")]) arguments fun options =>
    orReport (separatorOf options) fun separator =>
      eachContent options.operands
        (fun file fault =>
          match fault with
          | .isADirectory => blame file "read error: Invalid argument"
          | fault => do
            report ("failed to open ".toList ++ quoted file ++ " for reading: ".toList ++
              fault.reason.toList)
            return 1)
        fun content =>
          let text := (Chars.ofBytes content).toArray
          let places := separator.places (options.has 'b') text text.size text.size
          answer 0 (partsFrom text places text.size).flatten

/-- A line with its characters in the opposite order. -/
def turned (line : List UInt8) : List UInt8 :=
  let ended := line.getLast? = some 0x0A
  (if ended then line.dropLast else line).reverse ++ (if ended then [0x0A] else [])

/-- Writes the lines of files with their characters in the opposite order. -/
def rev : Tool := fun arguments =>
  withOptions [] arguments fun options =>
    eachRecords '\n' options.operands
      (fun file fault => do
        complain (baseName (← get).title ++ ": cannot open ".toList ++ file ++ ": ".toList ++
          fault.reason.toList)
        return 1)
      fun content => finish 0 ((linesOf content).flatMap turned)

end CounterCatalog.Shell.Tool
