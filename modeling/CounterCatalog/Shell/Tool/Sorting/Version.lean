import CounterCatalog.Shell.Syntax

/-!
# The order of versions

In names with numbers in them, the numbers compare as numbers. Between them letters come before other signs, and a
tilde before everything, even before the end. Endings such as `.tar.gz` count only between names that are the same
without them.
-/

set_option autoImplicit false

namespace CounterCatalog.Shell.Tool.Version

/-- A letter. -/
def isLetter (c : Char) : Bool :=
  ('a' ≤ c && c ≤ 'z') || ('A' ≤ c && c ≤ 'Z')

/-- The rank of the first sign of a text that is no digit. -/
def rank : Chars → Int
  | [] => -1
  | c :: _ =>
    if c.isDigit then 0
    else if isLetter c then c.toNat
    else if c = '~' then -2
    else c.toNat + 256

/-- Compares what stands in front of the first digits, and gives what follows if it is the same; given at least as
many steps as there are characters. -/
def compareSigns : Nat → Chars → Chars → Ordering × Chars × Chars
  | 0, a, b => (.eq, a, b)
  | steps + 1, a, b =>
    let plain := fun text : Chars => text.head?.any fun c => !c.isDigit
    if plain a ∨ plain b then
      match compare (rank a) (rank b) with
      | .eq => compareSigns steps a.tail b.tail
      | other => (other, a, b)
    else (.eq, a, b)

/-- Compares two texts, given at least as many steps as there are characters. -/
def compareIn : Nat → Chars → Chars → Ordering
  | 0, _, _ => .eq
  | steps + 1, a, b =>
    if a.isEmpty ∧ b.isEmpty then .eq
    else
      match compareSigns (a.length + b.length + 1) a b with
      | (.eq, a, b) =>
        let x := a.takeWhile Char.isDigit
        let y := b.takeWhile Char.isDigit
        match compare (Chars.toNat x) (Chars.toNat y) with
        | .eq => compareIn steps (a.drop x.length) (b.drop y.length)
        | other => other
      | (other, _, _) => other

/-- Compares two texts. -/
def compareTexts (a b : Chars) : Ordering :=
  compareIn (a.length + b.length + 1) a b

/-- A text is a row of endings, each of a point, a letter and what belongs to a word; given at least as many steps as
it has characters. -/
def isEnding : Nat → Chars → Bool
  | 0, _ => false
  | _, [] => true
  | steps + 1, '.' :: c :: rest =>
    (isLetter c || c = '~') && isEnding steps (rest.dropWhile fun d => d.isAlphanum || d = '~')
  | _, _ => false

/-- A name without the endings behind its first character. -/
def stem (name : Chars) : Chars :=
  let size := (List.range name.length).find? fun n => n ≠ 0 && isEnding (name.length + 1) (name.drop n)
  name.take (size.getD name.length)

/-- How far in front a name stands that begins with a point: the point alone, two points, other names. -/
def dotRank (name : Chars) : Nat :=
  match name with
  | [] => 0
  | ['.'] => 1
  | ['.', '.'] => 2
  | '.' :: _ => 3
  | _ => 4

/-- How two names compare. -/
def compareNames (a b : Chars) : Ordering :=
  match compare (dotRank a) (dotRank b) with
  | .eq =>
    if dotRank a ≤ 2 then .eq
    else
      match compareTexts (stem a) (stem b) with
      | .eq => compareTexts a b
      | other => other
  | other => other

end CounterCatalog.Shell.Tool.Version
