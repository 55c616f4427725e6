import CounterCatalog.Shell.Tool.File.Common

/-!
# Telling about files

`stat` writes what is known about files in a format, in which signs stand for values. Times and devices are not
kept, so their signs stand for nothing in particular.
-/

set_option autoImplicit false

namespace CounterCatalog.Shell.Tool

open Step

/-- The size of a node as it is shown. -/
def sizeOfNode : Node → Nat
  | .file content _ => content.length
  | .directory _ _ _ => 4096
  | .link target => target.length
  | _ => 0

/-- The number of blocks of a node, of a thousand bytes each. -/
def blocksOf (node : Node) : Nat :=
  match node with
  | .file content _ => (content.length + 4095) / 4096 * 4
  | .directory _ _ _ => 4
  | _ => 0

namespace Status

/-- The number for the kind of a node, with its permissions. -/
def rawMode (node : Node) : Nat :=
  let kind :=
    match node with
    | .directory _ _ _ => 0o040000
    | .link _ => 0o120000
    | .device _ => 0o020000
    | .stream _ => 0o010000
    | .file _ _ | .program _ => 0o100000
  kind + Tree.modeOf node

/-- How a value is placed: signs, the least width, and the greatest number of characters. -/
structure Field where
  /-- The signs. -/
  signs : Chars
  /-- The least width. -/
  width : Nat
  /-- The number of digits at least, or of characters at most. -/
  precision? : Option Nat

/-- A value in its place. -/
def Field.place (field : Field) (zeros : Bool) (text : Chars) : Chars :=
  let lack := field.width - text.length
  if field.signs.contains '-' then text ++ List.replicate lack ' '
  else if zeros && field.signs.contains '0' && field.precision?.isNone then List.replicate lack '0' ++ text
  else List.replicate lack ' ' ++ text

/-- A text in its place. -/
def Field.text (field : Field) (text : Chars) : Chars :=
  field.place false (field.precision?.elim text text.take)

/-- A number in its place, in digits of a base. -/
def Field.number (field : Field) (base value : Nat) : Chars :=
  let digits := Nat.toDigits base value
  let digits := List.replicate ((field.precision?.getD 0) - digits.length) '0' ++ digits
  let front :=
    if field.signs.contains '#' then (if base = 8 then ['0'] else if base = 16 then ['0', 'x'] else []) else []
  let lack := field.width - (front.length + digits.length)
  if field.signs.contains '0' && !field.signs.contains '-' && field.precision?.isNone then
    front ++ List.replicate lack '0' ++ digits
  else field.place false (front ++ digits)

/-- The numbers of a device: its kind's, and its own among those of its kind. -/
def deviceNumbers : Node → Nat × Nat
  | .device .null => (1, 3)
  | .device .zero => (1, 5)
  | .device .full => (1, 7)
  | .device .terminal => (5, 0)
  | _ => (0, 0)

/-- The value of a sign, in its place, given how names are quoted. -/
def value (machine : Machine) (quote : Chars → Chars) (path : Chars) (handle : Handle) (node : Node) (field : Field)
    (sign : Char) : Chars :=
  let number := field.number
  let (major, minor) := deviceNumbers node
  match sign with
  | 'n' => field.text path
  | 'N' =>
    field.text <|
      match node with
      | .link target => quote path ++ " -> ".toList ++ quote (Chars.ofBytes target)
      | _ => quote path
  | 's' => number 10 (sizeOfNode node)
  | 'a' => number 8 (Tree.modeOf node)
  | 'A' => field.text (kindLetter node :: Mode.letters (Tree.modeOf node))
  | 'f' => number 16 (rawMode node)
  | 'F' => field.text (kindWords node).toList
  | 'i' => number 10 (handle + 1)
  | 'h' => number 10 (nameCount machine.tree handle node)
  | 'u' | 'g' => number 10 0
  | 'U' | 'G' => field.text "root".toList
  | 'b' => number 10 (blocksOf node * 2)
  | 'B' => number 10 512
  | 'o' => number 10 4096
  | 't' => number 16 major
  | 'T' => number 16 minor
  | 'r' => number 10 (major * 256 + minor)
  | 'R' => number 16 (major * 256 + minor)
  | 'm' => field.text ['/']
  | 'X' | 'Y' | 'Z' | 'W' | 'd' => number 10 0
  | 'D' => number 16 0
  | 'w' | 'x' | 'y' | 'z' => field.text ['-']
  | _ => ['?']

/-- The character for a letter behind a backslash, if that means anything. -/
def escape? : Char → Option Char
  | 'a' => some '\x07'
  | 'b' => some '\x08'
  | 'e' => some '\x1b'
  | 'f' => some '\x0c'
  | 'n' => some '\n'
  | 'r' => some '\r'
  | 't' => some '\t'
  | 'v' => some '\x0b'
  | '"' => some '\x22'
  | '\\' => some '\\'
  | _ => none

/-- The value of a digit. -/
def digitOf (c : Char) : Nat :=
  if c.isDigit then c.toNat - 48 else c.toLower.toNat - 87

/-- What comes of a part of a format. -/
inductive Piece where
  /-- A text that is written. -/
  | text (text : Chars)
  /-- Something to complain about. -/
  | warning (message : String)
  /-- A sign that cannot stand there, with which all ends. -/
  | faulty (sign : Chars)

/-- The pieces of a format, given at least as many steps as it has characters, and whether backslashes mean
anything. -/
def filled (value : Field → Char → Chars) (escapes : Bool) : Nat → Chars → List Piece
  | 0, _ | _, [] => []
  | steps + 1, '%' :: rest =>
    let signs := rest.takeWhile fun c => "'-+ #0".toList.contains c
    let rest := rest.drop signs.length
    let width := rest.takeWhile Char.isDigit
    let rest := rest.drop width.length
    let (precision?, point, rest) :=
      match rest with
      | '.' :: more =>
        let digits := more.takeWhile Char.isDigit
        (some (Chars.toNat digits), '.' :: digits, more.drop digits.length)
      | rest => (none, [], rest)
    let between := signs ++ width ++ point
    match rest, between with
    | [], [] => [.text ['%']]
    | [], _ => [.faulty ('%' :: between)]
    | '%' :: rest, [] => .text ['%'] :: filled value escapes steps rest
    | '%' :: _, _ => [.faulty ('%' :: between ++ ['%'])]
    | c :: rest, _ => .text (value ⟨signs, Chars.toNat width, precision?⟩ c) :: filled value escapes steps rest
  | steps + 1, '\\' :: rest =>
    if !escapes then .text ['\\'] :: filled value escapes steps rest
    else
      let octal := (rest.take 3).takeWhile fun c => '0' ≤ c && c ≤ '7'
      let isHex := fun c : Char => c.isDigit || ('a' ≤ c.toLower && c.toLower ≤ 'f')
      let byte := fun (base : Nat) (digits : Chars) =>
        Char.ofNat ((digits.foldl (fun value c => value * base + digitOf c) 0) % 256)
      let unknown := fun c : Char => Piece.warning (String.ofList ("unrecognized escape '\\".toList ++ [c, '\x27']))
      match rest with
      | [] => [.warning "backslash at end of format", .text ['\\']]
      | 'x' :: more =>
        let digits := (more.take 2).takeWhile isHex
        if digits.isEmpty then unknown 'x' :: .text ['\\', 'x'] :: filled value escapes steps more
        else .text [byte 16 digits] :: filled value escapes steps (more.drop digits.length)
      | c :: more =>
        if !octal.isEmpty then .text [byte 8 octal] :: filled value escapes steps (rest.drop octal.length)
        else
          match escape? c with
          | some c => .text [c] :: filled value escapes steps more
          | none => unknown c :: .text [c] :: filled value escapes steps more
  | steps + 1, c :: rest => .text [c] :: filled value escapes steps rest

/-- Writes the pieces of a format, and gives whether that has been possible. -/
def tell : List Piece → Step Bool
  | [] => return true
  | .text text :: rest => do
    if (← answer 0 text) ≠ 0 then return false
    tell rest
  | .warning message :: rest => do
    report ("warning: ".toList ++ message.toList)
    tell rest
  | .faulty sign :: _ => refuse (quoted sign ++ ": invalid directive".toList)

/-- Pieces with the texts joined that follow one another. -/
def joined : List Piece → List Piece
  | [] => []
  | piece :: rest =>
    match piece, joined rest with
    | .text front, .text back :: others => .text (front ++ back) :: others
    | piece, others => piece :: others

/-- The form in which files are told about where nothing is said about that. -/
def standard (node : Node) : Chars :=
  let device := match node with | .device _ => " Device type: %t,%T\n".toList | _ => ['\n']
  let name := "  File: %N\n".toList
  let size := "  Size: %-10s\tBlocks: %-10b IO Block: %-6o %F\n".toList
  let links := match node with | .device _ => "%-5h" | _ => "%h"
  let place := "Device: 0,0\tInode: %-11i Links: ".toList ++ links.toList ++ device
  let owner := "Access: (%04a/%10.10A)  Uid: (%5u/%8U)   Gid: (%5g/%8G)\n".toList
  let times := "Access: -\nModify: -\nChange: -\n Birth: -\n".toList
  name ++ size ++ place ++ owner ++ times

/-- The brief form. -/
def terse : Chars := "%n %s %b %f %u %g 0 %i %h %t %T 0 0 0 0 %o\n".toList

end Status

/-- Writes what is known about files, in a format. -/
def stat : Tool := fun arguments =>
  withOptions (taking [('c', "format"), ('ṗ', "printf"), ('ċ', "cached")] ++ flags [('L', "dereference"),
    ('f', "file-system"), ('t', "terse")]) arguments fun options => do
    if options.operands.isEmpty then return ← misused "missing operand"
    let given := (options.found.filter fun item => item.1 = 'c' || item.1 = 'ṗ').getLast?
    let escapes := given.any fun item => item.1 = 'ṗ'
    forAll options.operands fun path => do
      let machine ← get
      let found :=
        if path = ['-'] then
          match machine.opening? 0 with
          | some (_, ⟨.file handle, _, _, _, _⟩) | some (_, ⟨.directory handle, _, _, _, _⟩) =>
            match machine.tree.get? handle with
            | some node => .ok (handle, node)
            | none => .error Fault.badHandle
          | some (_, ⟨.device device, _, _, _, _⟩) => .ok (0, .device device)
          | some _ => .ok (0, .stream 0)
          | none => .error Fault.badHandle
        else if options.has 'L' then machine.tree.locate machine.directory path.bytes
        else machine.tree.view machine.directory path.bytes
      match found with
      | .error fault =>
        if path = ['-'] then cannot "cannot stat standard input".toList fault
        else cannot ("cannot statx ".toList ++ quoted path) fault
      | .ok (handle, node) =>
        let format :=
          (given.map Prod.snd).getD (if options.has 't' then Status.terse else Status.standard node)
        let value := Status.value machine (if given.isSome then quoted else id) path handle node
        let ending := if given.isSome && !escapes then [Status.Piece.text ['\n']] else []
        Status.tell (Status.joined (Status.filled value escapes format.length format ++ ending))

end CounterCatalog.Shell.Tool
