import CounterCatalog.Shell.Format
import CounterCatalog.Shell.Pattern
import CounterCatalog.Shell.Tool.Common

/-!
# Exchanging characters

`tr` exchanges the characters of one set for those of another, removes characters, and joins runs of a character.
A set is written as a list of parts: characters, ranges, classes, and a character a number of times, perhaps as
often as the other set makes necessary.
-/

set_option autoImplicit false

namespace CounterCatalog.Shell.Tool

open Step

namespace Transliterate

/-- A character of a set as it is written, and whether a backslash stood before it. -/
abbrev Sign := Char × Bool

/-- A part of a set. -/
inductive Part where
  /-- A character. -/
  | one (c : Char)
  /-- The characters from one to another. -/
  | range (low high : Char)
  /-- A class of characters, by its name. -/
  | class (name : Chars)
  /-- The characters that are as good as another. -/
  | like (c : Char)
  /-- A character a number of times; zero means as often as is necessary. -/
  | times (c : Char) (count : Nat)

/-- All characters, one for each byte. -/
def alphabet : Chars :=
  (List.range 256).map Char.ofNat

namespace Part

/-- The characters of a part. -/
def characters : Part → Chars
  | one c | like c => [c]
  | range low high => alphabet.filter fun c => low ≤ c && c ≤ high
  | «class» name => alphabet.filter (isInClass name)
  | times c count => List.replicate count c

/-- It repeats a character as often as is necessary. -/
def isOpen : Part → Bool
  | times _ 0 => true
  | _ => false

/-- It is a class of characters. -/
def isClass : Part → Bool
  | «class» _ => true
  | _ => false

/-- It is the class of small letters, or that of capital ones. -/
def isLetterCase : Part → Bool
  | «class» name => name = "lower".toList || name = "upper".toList
  | _ => false

/-- It stands for the characters that are as good as another. -/
def isLike : Part → Bool
  | like _ => true
  | _ => false

end Part

/-! ## Reading sets -/

/-- The characters of a set as it is written, and whether a backslash at its end means nothing, given at least as
many steps as there are characters. -/
def signsIn : Nat → Chars → List Sign × List Chars
  | 0, _ => ([], [])
  | _, [] => ([], [])
  | _, ['\\'] => ([('\\', false)], ["warning: an unescaped backslash at end of string is not portable".toList])
  | steps + 1, '\\' :: c :: rest =>
    let digits := ((c :: rest).take 3).takeWhile Format.isOctal
    let tooLarge := digits.length = 3 && decide (255 < Arithmetic.valueIn 8 digits)
    let kept := if tooLarge then digits.take 2 else digits
    let warnings :=
      if tooLarge then
        ["warning: the ambiguous octal escape \\".toList ++ digits ++
          " is being\n\tinterpreted as the 2-byte sequence \\0".toList ++ kept ++ ", ".toList ++ digits.drop 2]
      else []
    let (shown, after) :=
      if digits.isEmpty then ((if c = 'e' then 'e' else (Format.control? c).getD c), rest)
      else (Char.ofNat (Arithmetic.valueIn 8 kept), (c :: rest).drop kept.length)
    let (signs, others) := signsIn steps after
    ((shown, true) :: signs, warnings ++ others)
  | steps + 1, c :: rest =>
    let (signs, warnings) := signsIn steps rest
    ((c, false) :: signs, warnings)

/-- A character as it is shown in a complaint. -/
def shown (c : Char) : Chars :=
  if isPrinted c then [c] else escaped c

/-- The names of classes. -/
def classNames : List Chars :=
  ["alnum", "alpha", "blank", "cntrl", "digit", "graph", "lower", "print", "punct", "space", "upper",
    "xdigit"].map String.toList

/-- What stands in front of two signs without backslashes that close it, and what follows them. -/
def closed? (mark : Char) : List Sign → Option (List Sign × List Sign)
  | a :: b :: rest =>
    if a = (mark, false) ∧ b = (']', false) then some ([], rest)
    else (closed? mark (b :: rest)).map fun (front, after) => (a :: front, after)
  | _ => none

/-- What stands behind a star is a number and a closing bracket. -/
def isCount (signs : List Sign) : Bool :=
  signs.head? = some ('*', false) && (signs.tail.dropWhile fun sign => sign.1.isDigit).head? = some (']', false)

/-- A character that is repeated, behind an opening bracket, with what follows; nothing if it is something else. -/
def repeated? (signs : List Sign) : Except Chars (Option (Part × List Sign)) :=
  match signs with
  | (c, _) :: ('*', false) :: rest =>
    let digits := rest.takeWhile fun sign => !sign.2 && sign.1 ≠ ']'
    match rest.drop digits.length with
    | (']', false) :: after =>
      let text := digits.map Prod.fst
      let base := if text.head? = some '0' then 8 else 10
      let count := Arithmetic.valueIn base text
      if text.all (fun c => decide (c.isDigit ∧ Arithmetic.digitValue c < base)) ∧ count ≤ greatestSize then
        .ok (some (.times c count, after))
      else .error ("invalid repeat count ".toList ++ quoted text ++ " in [c*n] construct".toList)
    | _ => .ok none
  | _ => .ok none

/-- A class, or the characters like another, behind an opening bracket and a mark, with what follows; nothing if it
is something else. -/
def named? (mark : Char) (signs : List Sign) : Except Chars (Option (Part × List Sign)) :=
  match closed? mark signs with
  | none => .ok none
  | some ([], _) =>
    .error (if mark = ':' then "missing character class name '[::]'".toList
      else "missing equivalence class character '[==]'".toList)
  | some (inner, after) =>
    let name := inner.map Prod.fst
    if mark = ':' then
      if classNames.contains name then .ok (some (.class name, after))
      else if isCount signs then .ok none
      else .error ("invalid character class ".toList ++ quoted (name.flatMap shown))
    else
      match name with
      | [c] => .ok (some (.like c, after))
      | name =>
        if isCount signs then .ok none
        else .error (name.flatMap shown ++ ": equivalence class operand must be a single character".toList)

/-- What stands between brackets at the front of a set, with what follows; nothing if that is something else. -/
def bracketed? (signs : List Sign) : Except Chars (Option (Part × List Sign)) := do
  match signs with
  | ('[', false) :: rest =>
    let named ←
      match rest with
      | (':', false) :: inner => named? ':' inner
      | ('=', false) :: inner => named? '=' inner
      | _ => pure none
    if named.isSome then return named
    repeated? rest
  | _ => return none

/-- The parts of a set, given at least as many steps as it has characters. -/
def partsIn : Nat → List Sign → Except Chars (List Part)
  | 0, _ => .ok []
  | _, [] => .ok []
  | steps + 1, first :: rest => do
    if 2 ≤ rest.length then
      if let some (part, after) ← bracketed? (first :: rest) then return part :: (← partsIn steps after)
      if let ('-', false) :: last :: after := rest then
        if last.1 < first.1 then
          throw ("range-endpoints of '".toList ++ shown first.1 ++ ['-'] ++ shown last.1 ++
            "' are in reverse collating sequence order".toList)
        return .range first.1 last.1 :: (← partsIn steps after)
    return .one first.1 :: (← partsIn steps rest)

/-- The parts of a set as it is written, with warnings. -/
def partsOf (text : Chars) : List Chars × Except Chars (List Part) :=
  let (signs, warnings) := signsIn (text.length + 1) text
  (warnings, partsIn (signs.length + 1) signs)

/-- The characters of a set. -/
def charactersOf (parts : List Part) : Chars :=
  parts.flatMap Part.characters

/-- The characters that are not in a set. -/
def others (parts : List Part) : Chars :=
  let members := charactersOf parts
  alphabet.filter fun c => !members.contains c

/-! ## Exchanging -/

/-- What is wrong with two classes of letters that do not stand at the same place. -/
def misaligned : Chars := "misaligned [:upper:] and/or [:lower:] construct".toList

/-- The characters that are exchanged for others, in order. Where a class of letters stands in the second set, one
begins in the first at the same place; given what is left of the part that has begun in either set, whether the
letters of the part in the first set have a case, and at least as many steps as there are characters. -/
def pairsIn : Nat → (Chars × Bool) → Chars → List Part → List Part → Except Chars (List (Char × Char))
  | 0, _, _, _, _ => .ok []
  | steps + 1, ([], _), right, part :: first, second =>
    match right, second with
    | [], other :: second =>
      if other.isLetterCase then
        if !part.isLetterCase then .error misaligned
        else
          (pairsIn steps ([], false) [] first second).map fun rest => (part.characters.zip (inCase part other)) ++ rest
      else if other.characters.isEmpty then pairsIn steps ([], false) [] (part :: first) second
      else pairsIn steps (part.characters, part.isLetterCase) other.characters first second
    | right, second => pairsIn steps (part.characters, part.isLetterCase) right first second
  | steps + 1, ([], _), [], [], other :: second =>
    if other.isLetterCase then .error misaligned
    else if other.characters.isEmpty then pairsIn steps ([], false) [] [] second
    else .ok []
  | _, ([], _), _, [], _ => .ok []
  | steps + 1, (a :: left, cased), [], first, other :: second =>
    if other.isLetterCase then .error misaligned
    else pairsIn steps (a :: left, cased) other.characters first second
  | _, (_ :: _, _), [], _, [] => .ok []
  | steps + 1, (a :: left, cased), b :: right, first, second =>
    (pairsIn steps (left, cased) right first second).map fun rest => (a, b) :: rest
where
  /-- The letters that those of one class become when another stands in its place. -/
  inCase (part other : Part) : Chars :=
    match part, other with
    | .class name, .class wanted =>
      if name = wanted then part.characters
      else part.characters.map (if wanted = "upper".toList then Char.toUpper else Char.toLower)
    | part, _ => part.characters

/-- The number of characters of a set, of which those that are repeated as necessary count nothing. -/
def sizeOf (parts : List Part) : Nat :=
  (charactersOf parts).length

/-- A set in which the character that is repeated as often as necessary comes so often. -/
def filled (count : Nat) (parts : List Part) : List Part :=
  parts.map fun part =>
    match part with
    | .times c 0 => .times c count
    | part => part

/-- The last character of a set as often as is necessary, where a class does not come last. -/
def tail? (parts : List Part) : Option Char :=
  match parts.getLast? with
  | some (.one c) | some (.like c) | some (.times c _) | some (.range _ c) => some c
  | _ => none

/-- Texts for what is wrong with two sets. -/
def setFault (message : String) : Except Chars Unit :=
  .error message.toList

/-- The second set as it is used when characters are exchanged, given the size of the first. -/
def second (first parts : List Part) (complements truncates : Bool) : Except Chars (List Part) := do
  let size := if complements then (others first).length else sizeOf first
  let parts := filled (size - sizeOf parts) parts
  if parts.any Part.isLike then setFault "[=c=] expressions may not appear in string2\nwhen translating"
  if parts.any fun part => part.isClass && !part.isLetterCase then
    setFault "when translating, the only character classes that may appear in\nstring2 are 'upper' and 'lower'"
  unless complements do
    let _ ← pairsIn (2 * (sizeOf first + sizeOf parts + first.length + parts.length) + 8) ([], false) [] first parts
  let (size, length) := if complements then (size, sizeOf parts) else weights size (sizeOf parts) parts
  let parts ←
    if truncates ∨ size ≤ length then pure parts
    else if parts.isEmpty ∨ length = 0 then
      throw "when not truncating set1, string2 must be non-empty".toList
    else
      match tail? parts with
      | some c => pure (parts ++ [.times c (size - length)])
      | none =>
        throw ("when translating with string1 longer than string2,\nthe latter string must not end with a " ++
          "character class").toList
  if complements ∧ first.any Part.isClass then
    let all := charactersOf parts
    unless all.length = size ∧ all.eraseDups.length ≤ 1 do
      setFault ("when translating with complemented character classes,\nstring2 must map all characters in the " ++
        "domain to one")
  return parts
where
  /-- The sizes of both sets, where a class of letters in both counts once in each. -/
  weights (size length : Nat) (parts : List Part) : Nat × Nat :=
    let cases := (parts.filter Part.isLetterCase).length
    (size - 25 * cases, length - 25 * cases)

/-- What becomes of each character. -/
def tableOf (first parts : List Part) (complements : Bool) : Array Char :=
  let pairs :=
    if complements then (others first).zip (charactersOf parts)
    else
      (pairsIn (2 * (sizeOf first + sizeOf parts + first.length + parts.length) + 8) ([], false) [] first
        parts).toOption.getD []
  let start := alphabet.toArray
  pairs.foldl (fun table pair => table.setIfInBounds pair.1.toNat pair.2) start

/-- A set as a table that tells for each character whether it is a member. -/
def memberTable (members : Chars) : Array Bool :=
  members.foldl (fun table c => table.setIfInBounds c.toNat true) (Array.replicate 256 false)

/-- A text in which runs of a character of a set count once. -/
def squeeze (members : Array Bool) (text : Chars) : Chars :=
  (text.foldl (fun (state : Chars × Option Char) c =>
    if state.2 = some c ∧ (members[c.toNat]?).getD false then state else (c :: state.1, some c))
    ([], none)).1.reverse

end Transliterate

open Transliterate in
/-- Exchanges, removes or joins characters of a text, given what is done and the sets; or tells what is wrong. -/
def Transliterate.change (options : Options) (first : List Part) (second? : Option (List Part)) :
    Except Chars (Chars → Chars) := do
  let deletes := options.has 'd'
  let squeezes := options.has 's'
  let complements := options.hasAny "cC"
  if first.any Part.isOpen then throw "the [c*] repeat construct may not appear in string1".toList
  let members := memberTable (if complements then others first else charactersOf first)
  let isMember := fun c : Char => (members[c.toNat]?).getD false
  match second? with
  | none => return if deletes then List.filter fun c => !isMember c else squeeze members
  | some parts =>
    if 1 < (parts.filter Part.isOpen).length then
      throw "only one [c*] repeat construct may appear in string2".toList
    if deletes then
      if parts.any Part.isOpen then
        throw "the [c*] construct may appear in string2 only when translating".toList
      let joined := memberTable (charactersOf parts)
      return fun text => squeeze joined (text.filter fun c => !isMember c)
    let parts ← second first parts complements (options.has 't')
    let table := tableOf first parts complements
    let joined := memberTable (charactersOf parts)
    let exchange := List.map fun c : Char => (table[c.toNat]?).getD c
    return if squeezes then squeeze joined ∘ exchange else exchange

open Transliterate in
/-- Exchanges, removes or joins characters. -/
def tr : Tool := fun arguments =>
  match Options.read (flags [('c', "complement"), ('C', ""), ('d', "delete"), ('s', "squeeze-repeats"),
    ('t', "truncate-set1")]) true arguments with
  | .error stop => stop.answer (misusedWith 1)
  | .ok options => do
    let deletes := options.has 'd'
    let squeezes := options.has 's'
    let least := if deletes = squeezes then 2 else 1
    let most := if deletes ∧ squeezes = false then 1 else 2
    let operands := options.operands
    if operands.isEmpty then return ← misused "missing operand"
    if operands.length < least then
      report ("missing operand after ".toList ++ quoted (operands.getLast?.getD []))
      complain (if squeezes then
        "Two strings must be given when both deleting and squeezing repeats.".toList
        else "Two strings must be given when translating.".toList)
      hint
      return 1
    if let some extra := operands[most]? then
      report ("extra operand ".toList ++ quoted extra)
      if operands.length = 2 then
        complain "Only one string may be given when deleting without squeezing repeats.".toList
      hint
      return 1
    let mut sets := []
    for text in operands do
      let (warnings, parts) := partsOf text
      warnings.forM report
      match parts with
      | .error message =>
        report message
        return 1
      | .ok parts => sets := sets ++ [parts]
    orReport (change options (sets.headD []) sets[1]?) fun change => do
      match ← drainPart 0 with
      | .ok (content, goesOn) => do
        let status ← answer 0 (change (Chars.ofBytes content))
        if goesOn then starve
        return status
      | .error fault =>
        report ("read error: ".toList ++ fault.reason.toList)
        return 1

end CounterCatalog.Shell.Tool
