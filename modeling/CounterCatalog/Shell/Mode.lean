import CounterCatalog.Shell.Syntax

/-!
# Permissions in words

Permissions are given as an octal number, or as changes between commas: for whom, whether something is added, taken
away or set, and what. Where it is not said for whom, everyone is meant, but what new files do not get is kept back.
What is said of a directory leaves its marks for identities alone unless they are mentioned.
-/

set_option autoImplicit false

namespace CounterCatalog.Shell.Mode

/-- All permissions. -/
def all : Nat := 0o7777

/-- The permissions without some of them. -/
def without (mode bits : Nat) : Nat :=
  mode &&& (all ^^^ (bits &&& all))

/-- What a change does. -/
inductive Sign where
  /-- It adds permissions. -/
  | add
  /-- It takes permissions away. -/
  | remove
  /-- It sets permissions. -/
  | set
deriving DecidableEq

/-- The permissions that a change is about. -/
inductive Subject where
  /-- Those that are given. -/
  | given
  /-- Those that are given, and to execute if that is allowed to anyone, or for a directory. -/
  | executing
  /-- Those that a class of users has, for everyone. -/
  | copied
deriving DecidableEq

/-- A change of permissions. -/
structure Change where
  /-- What it does. -/
  sign : Sign
  /-- What it is about. -/
  subject : Subject
  /-- The permissions that can be affected; none if that has been left open. -/
  affected : Nat
  /-- The permissions that are given. -/
  value : Nat
  /-- The permissions that are mentioned. -/
  mentioned : Nat

/-- What a character does, if it stands in front of permissions. -/
def Sign.of? : Char → Option Sign
  | '+' => some add
  | '-' => some remove
  | '=' => some set
  | _ => none

/-- The permissions that can be given to a class of users. -/
def classBits : Char → Nat
  | 'u' => 0o4700
  | 'g' => 0o2070
  | 'o' => 0o1007
  | 'a' => all
  | _ => 0

/-- The permissions that a letter stands for. -/
def letterBits : Char → Nat
  | 'r' => 0o444
  | 'w' => 0o222
  | 'x' => 0o111
  | 's' => 0o6000
  | 't' => 0o1000
  | _ => 0

/-- The permissions of a class of users among all. -/
def shareBits : Char → Nat
  | 'u' => 0o700
  | 'g' => 0o070
  | _ => 0o007

/-- A digit of an octal number. -/
def isOctal (c : Char) : Bool :=
  '0' ≤ c && c ≤ '7'

/-- An octal number that stands for permissions. -/
def octal? (digits : Chars) : Option Nat :=
  let value := digits.foldl (fun value c => value * 8 + (c.toNat - '0'.toNat)) 0
  if value ≤ all then some value else none

/-- Bits that are not none, or else others. -/
def orElse (bits others : Nat) : Nat :=
  if bits = 0 then others else bits

/-- The changes for some classes of users, given at least as many steps as there are characters. -/
def actions? : Nat → Nat → Chars → Option (List Change)
  | 0, _, _ => none
  | _, _, [] => some []
  | steps + 1, affected, c :: rest => do
    let sign ← Sign.of? c
    let digits := rest.takeWhile isOctal
    if !digits.isEmpty then
      let value ← octal? digits
      if affected ≠ 0 ∨ digits.length ≠ rest.length then failure
      return [⟨sign, .given, all, value, all⟩]
    match rest with
    | 'u' :: after | 'g' :: after | 'o' :: after =>
      let value := shareBits (rest.headD 'u')
      let mentioned := if affected = 0 then value else affected &&& value
      return ⟨sign, .copied, affected, value, mentioned⟩ :: (← actions? steps affected after)
    | _ =>
      let letters := rest.takeWhile fun c => "rwxXst".toList.contains c
      let value := (letters.map letterBits).foldl Nat.lor 0
      let mentioned := if affected = 0 then value else affected &&& value
      let subject := if letters.contains 'X' then Subject.executing else .given
      return ⟨sign, subject, affected, value, mentioned⟩ :: (← actions? steps affected (rest.drop letters.length))

/-- The changes between two commas. -/
def part? (text : Chars) : Option (List Change) :=
  let classes := text.takeWhile fun c => ['u', 'g', 'o', 'a'].contains c
  let rest := text.drop classes.length
  if rest.isEmpty then none
  else actions? (rest.length + 1) ((classes.map classBits).foldl Nat.lor 0) rest

/-- The parts of a text between commas. -/
def parts (text : Chars) : List Chars :=
  let collect := fun (c : Char) (state : Chars × List Chars) =>
    if c = ',' then ([], state.1 :: state.2) else (c :: state.1, state.2)
  let (first, rest) := text.foldr collect ([], [])
  first :: rest

/-- The changes that a text asks for: an octal number sets permissions. -/
def parse? (text : Chars) : Option (List Change) := do
  if (text.head?).any isOctal then
    if !text.all isOctal then failure
    let value ← octal? text
    return [⟨.set, .given, all, value, if text.length < 5 then (value &&& 0o7000) ||| 0o777 else all⟩]
  return (← (parts text).mapM part?).flatten

/-- The changes that make permissions what others are. -/
def same (mode : Nat) : List Change :=
  [⟨.set, .given, all, mode, all⟩]

/-- The permissions to do something, for everyone if anyone in a share of permissions has them. -/
def spread (share : Nat) : Nat :=
  let of := fun bits : Nat => if share &&& bits = 0 then 0 else bits
  of 0o444 ||| of 0o222 ||| of 0o111

/-- The permissions that a change makes of others, given those that are kept back, and those that it decides
about. -/
def Change.apply (change : Change) (directory : Bool) (mask mode : Nat) : Nat × Nat :=
  let omitted := if directory then without 0o6000 change.mentioned else 0
  let value :=
    match change.subject with
    | .given => change.value
    | .executing => change.value ||| if directory || mode &&& 0o111 ≠ 0 then 0o111 else 0
    | .copied => change.value &&& mode ||| spread (change.value &&& mode)
  let value := without (value &&& orElse change.affected (without all mask)) omitted
  match change.sign with
  | .add => (mode ||| value, value)
  | .remove => (without mode value, value)
  | .set =>
    let kept := (if change.affected = 0 then 0 else without all change.affected) ||| omitted
    (mode &&& kept ||| value, without all kept)

/-- The permissions that changes make of others, given those that are kept back. -/
def adjust (directory : Bool) (mask : Nat) (changes : List Change) (mode : Nat) : Nat :=
  changes.foldl (fun mode change => (change.apply directory mask mode).1) mode

/-- The permissions that changes decide about. -/
def decided (directory : Bool) (mask : Nat) (changes : List Change) (mode : Nat) : Nat :=
  (changes.foldl (fun state change =>
    let (mode, bits) := change.apply directory mask state.1
    (mode, state.2 ||| bits)) (mode, 0)).2

/-- The permissions of a new directory for which changes are asked: it is made with those that result from them, but
without those to write for others if any for identities or for keeping files are among them; what has been decided
about is put right after that. -/
def ofNewDirectory (mask : Nat) (changes : List Change) : Nat :=
  let mode := adjust true mask changes 0o777
  let bits := decided true mask changes 0o777
  if bits &&& 0o6000 = 0 ∧ mode &&& 0o1000 = 0 then mode
  else
    let made := without mode 0o6022
    if (made ^^^ mode) &&& bits = 0 then made else mode ||| without made bits

/-- The letters of permissions. -/
def letters (mode : Nat) : Chars :=
  let three := fun (bits : Nat) (special : Bool) (mark : Char) =>
    [if bits &&& 4 ≠ 0 then 'r' else '-', if bits &&& 2 ≠ 0 then 'w' else '-',
      if special then (if bits &&& 1 ≠ 0 then mark else mark.toUpper)
      else if bits &&& 1 ≠ 0 then 'x' else '-']
  three (mode / 64 % 8) (mode &&& 0o4000 ≠ 0) 's' ++ three (mode / 8 % 8) (mode &&& 0o2000 ≠ 0) 's' ++
    three (mode % 8) (mode &&& 0o1000 ≠ 0) 't'

/-- Permissions in octal digits, four at least. -/
def digits (mode : Nat) : Chars :=
  let text := Nat.toDigits 8 mode
  List.replicate (4 - text.length) '0' ++ text

end CounterCatalog.Shell.Mode
