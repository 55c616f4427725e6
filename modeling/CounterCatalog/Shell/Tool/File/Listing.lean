import CounterCatalog.Shell.Pattern
import CounterCatalog.Shell.Tool.File.Status
import CounterCatalog.Shell.Tool.Sorting.Version

/-!
# Listing directories

`ls` shows files first and then directories, all in the order of their names, one in a line, side by side, or with
what is known about them. Owners and times are not kept, so the long form shows the same ones for everything.
-/

set_option autoImplicit false

namespace CounterCatalog.Shell.Tool

open Step

namespace DirectoryListing

/-- How entries stand together. -/
inductive Layout where
  /-- One in a line. -/
  | lines
  /-- One in a line, with what is known about it. -/
  | long
  /-- In columns, one below the other. -/
  | columns
  /-- In columns, one beside the other. -/
  | rows
  /-- One behind the other. -/
  | commas
deriving DecidableEq

/-- The order in which entries stand. -/
inductive Order where
  /-- By their names. -/
  | name
  /-- By their endings. -/
  | ending
  /-- By their sizes. -/
  | size
  /-- By their times. -/
  | time
  /-- By the numbers in their names. -/
  | version
  /-- By the lengths of their names. -/
  | width
  /-- As they come. -/
  | none
deriving DecidableEq

/-- What stands behind a name for the kind of a file. -/
inductive Signs where
  /-- Nothing. -/
  | none
  /-- A slash behind directories. -/
  | slash
  /-- A sign for all but files that can be run. -/
  | kinds
  /-- A sign for all. -/
  | all
deriving DecidableEq

/-- How characters of names are shown that could be misunderstood. -/
inductive Quoting where
  /-- As they are. -/
  | literal
  /-- As a shell takes them. -/
  | shell
  /-- As a shell takes them, always in quotes. -/
  | shellAlways
  /-- With backslashes, in double quotes. -/
  | c
  /-- With backslashes. -/
  | escape
deriving DecidableEq

/-- How directories are listed. -/
structure Wish where
  /-- How entries stand together. -/
  layout : Layout
  /-- In which order. -/
  order : Order
  /-- In the opposite order. -/
  backward : Bool
  /-- Directories come first. -/
  directoriesFirst : Bool
  /-- Names with a dot in front are shown. -/
  hidden : Bool
  /-- The directory itself and the one above it are shown. -/
  dots : Bool
  /-- The patterns of names that are not shown. -/
  ignored : List (List Matcher)
  /-- What stands behind names. -/
  signs : Signs
  /-- How characters are shown. -/
  quoting : Quoting
  /-- Characters that do not show are shown as question marks. -/
  masks : Bool
  /-- Numbers of files are shown. -/
  numbers : Bool
  /-- Numbers of blocks are shown. -/
  blocks : Bool
  /-- Owners are shown. -/
  owners : Bool
  /-- Groups are shown. -/
  groups : Bool
  /-- They are shown as numbers. -/
  numeric : Bool
  /-- Directories are listed as files. -/
  flat : Bool
  /-- Directories in directories are listed too. -/
  deep : Bool
  /-- Links are followed. -/
  follows : Bool
  /-- Links that are named are followed. -/
  followsNamed : Bool
  /-- The width of a line; none if it has no end. -/
  width : Nat
  /-- The width between places that tabs lead to. -/
  tab : Nat
  /-- What ends a line. -/
  ending : Char

/-- A file that is shown. -/
structure Entry where
  /-- Its name. -/
  name : Chars
  /-- What it is known by. -/
  handle : Handle
  /-- What it is. -/
  node : Node
  /-- What it leads to, if it is a link that leads anywhere. -/
  target? : Option Node

/-- The pattern that a text is. -/
def patternOf (text : Chars) : List Matcher :=
  Matcher.ofGlyphs (Glyph.settled (text.map Glyph.expanded))

/-- A character with a backslash, if it needs that. -/
def backslashed (blanks : Bool) (c : Char) : Chars :=
  if c = '\\' ∨ (blanks = false ∧ c = '"') ∨ (blanks ∧ c = ' ') then ['\\', c]
  else if isPrinted c then [c] else escaped c

/-- A name as it is shown. -/
def Wish.shown (wish : Wish) (name : Chars) : Chars :=
  let text :=
    match wish.quoting with
    | .literal => name
    | .shell => shellWord name
    | .shellAlways => quoted name
    | .c => ['"'] ++ name.flatMap (backslashed false) ++ ['"']
    | .escape => name.flatMap (backslashed true)
  if wish.masks then text.map fun c => if isPrinted c then c else '?' else text

/-- The sign behind a name. -/
def Signs.behind (signs : Signs) (node : Node) : Chars :=
  match signs, node with
  | .none, _ => []
  | _, .directory _ _ _ => ['/']
  | .slash, _ => []
  | _, .link _ => ['@']
  | _, .stream _ => ['|']
  | .all, .file _ mode => if Node.runs mode then ['*'] else []
  | .all, .program _ => ['*']
  | _, _ => []

/-- The widths of the columns in which numbers stand. -/
structure Widths where
  /-- The numbers of files. -/
  handles : Nat
  /-- The numbers of blocks. -/
  blocks : Nat
  /-- The numbers of names. -/
  names : Nat
  /-- The sizes. -/
  sizes : Nat

/-- The widths of the columns for some entries. -/
def Widths.ofEntries (tree : Tree) (entries : List Entry) : Widths :=
  let widest := fun numbers : List Nat => (numbers.map fun n => (Chars.ofNat n).length).foldl max 1
  { handles := widest (entries.map fun entry => entry.handle + 1)
    blocks := widest (entries.map fun entry => blocksOf entry.node)
    names := widest (entries.map fun entry => nameCount tree entry.handle entry.node)
    sizes := widest (entries.map fun entry => sizeOfNode entry.node) }

/-- The numbers in front of a name; they stand in columns unless all is in one line. -/
def Wish.numbersOf (wish : Wish) (widths : Widths) (entry : Entry) : Chars :=
  let placed := fun (width : Nat) (n : Nat) =>
    padded (if wish.layout = .commas then 0 else width) (Chars.ofNat n) ++ [' ']
  (if wish.numbers then placed widths.handles (entry.handle + 1) else []) ++
    if wish.blocks then placed widths.blocks (blocksOf entry.node) else []

/-- A name with what stands around it. -/
def Wish.brief (wish : Wish) (widths : Widths) (entry : Entry) : Chars :=
  wish.numbersOf widths entry ++ wish.shown entry.name ++ wish.signs.behind entry.node

/-- A name with what is known about the file. -/
def Wish.full (wish : Wish) (tree : Tree) (widths : Widths) (entry : Entry) : Chars :=
  let person := if wish.numeric then "0 ".toList else "root ".toList
  let behind :=
    match entry.node with
    | .link text =>
      " -> ".toList ++ wish.shown (Chars.ofBytes text) ++
        (match entry.target? with | some node => wish.signs.behind node | none => [])
    | node => wish.signs.behind node
  wish.numbersOf widths entry ++ [kindLetter entry.node] ++ Mode.letters (Tree.modeOf entry.node) ++ [' '] ++
    padded widths.names (Chars.ofNat (nameCount tree entry.handle entry.node)) ++ [' '] ++
    (if wish.owners then person else []) ++ (if wish.groups then person else []) ++
    padded widths.sizes (Chars.ofNat (sizeOfNode entry.node)) ++ " Jan  1 00:00 ".toList ++ wish.shown entry.name ++
    behind

/-! ## Columns -/

/-- The column in which an entry stands. -/
def columnOf (down : Bool) (count columns place : Nat) : Nat :=
  if down then place / ((count + columns - 1) / columns) else place % columns

/-- The widths of a number of columns. -/
def widthsFor (down : Bool) (lengths : List Nat) (columns : Nat) : List Nat :=
  (List.range columns).map fun column =>
    let inside := (lengths.zipIdx.filter fun item => columnOf down lengths.length columns item.2 = column).map Prod.fst
    (inside.map fun length => length + if column + 1 = columns then 0 else 2).foldl max 3

/-- The widths of as many columns as fit into a line. -/
def fitting (down : Bool) (width : Nat) (lengths : List Nat) : Nat → List Nat
  | 0 => []
  | columns + 1 =>
    let widths := widthsFor down lengths (columns + 1)
    if columns = 0 ∨ Number.total widths < width then widths else fitting down width lengths columns

/-- What leads from one place in a line to another one: tabs where they lead far enough, and blanks. -/
def gap (tab : Nat) : Nat → Nat → Nat → Chars
  | 0, _, _ => []
  | steps + 1, from_, upTo =>
    if upTo ≤ from_ then []
    else if tab ≠ 0 ∧ (from_ + 1) / tab < upTo / tab then '\t' :: gap tab steps (from_ + tab - from_ % tab) upTo
    else ' ' :: gap tab steps (from_ + 1) upTo

/-- A line of names in columns, from a place in the line on. -/
def lineOf (tab : Nat) : Nat → List Chars → List Nat → Chars
  | _, [], _ => []
  | _, [name], _ => name
  | place, name :: rest, width :: widths =>
    name ++ gap tab width (place + name.length) (place + width) ++ lineOf tab (place + width) rest widths
  | place, name :: rest, [] => name ++ lineOf tab place rest []

/-- Names in columns. -/
def inColumns (wish : Wish) (down : Bool) (names : List Chars) : Chars :=
  let lengths := names.map List.length
  let most := (wish.width + 2) / 3
  let widths := fitting down wish.width lengths (min most names.length)
  let columns := widths.length
  let height := (names.length + columns - 1) / columns
  let indexed := names.zipIdx
  (List.range height).flatMap fun row =>
    let line := (indexed.filter fun item => if down then item.2 % height = row else item.2 / columns = row).map Prod.fst
    lineOf wish.tab 0 line widths ++ [wish.ending]

/-- Names one behind the other, with the places in the line where they begin. -/
def inSeries (wish : Wish) (sign : Chars) : Nat → List Chars → Chars
  | _, [] => []
  | place, name :: rest =>
    let fits := wish.width = 0 ∨ place + name.length + 2 < wish.width
    let front := sign ++ (if fits then [' '] else [wish.ending])
    let start := if fits then place + 2 else 0
    front ++ name ++ inSeries wish sign (start + name.length) rest

/-- Entries as they are listed. -/
def Wish.text (wish : Wish) (tree : Tree) (entries : List Entry) : Chars :=
  let widths := Widths.ofEntries tree entries
  let names := entries.map (wish.brief widths)
  let series := fun sign : Chars =>
    match names with
    | [] => []
    | name :: rest => name ++ inSeries wish sign name.length rest ++ [wish.ending]
  match wish.layout with
  | .lines => names.flatMap fun name => name ++ [wish.ending]
  | .long => entries.flatMap fun entry => wish.full tree widths entry ++ [wish.ending]
  | .commas => series [',']
  | .columns => if wish.width = 0 then series [' '] else if names.isEmpty then [] else inColumns wish true names
  | .rows => if wish.width = 0 then series [' '] else if names.isEmpty then [] else inColumns wish false names

/-! ## Order -/

/-- The ending of a name, from its last dot on. -/
def endingOf (name : Chars) : Chars :=
  if name.contains '.' then '.' :: (name.reverse.takeWhile fun c => c ≠ '.').reverse else []

/-- Entries in the order in which they are listed. -/
def Wish.sorted (wish : Wish) (entries : List Entry) : List Entry :=
  let byName := entries.mergeSort fun a b => Chars.isBefore a.name b.name
  let sorted :=
    match wish.order with
    | .none => entries
    | .name => byName
    | .ending => byName.mergeSort fun a b => Chars.isBefore (endingOf a.name) (endingOf b.name)
    | .size => byName.mergeSort fun a b => decide (sizeOfNode b.node ≤ sizeOfNode a.node)
    | .time => byName.mergeSort fun a b => decide (b.handle ≤ a.handle)
    | .version => byName.mergeSort fun a b => Version.compareNames a.name b.name != .gt
    | .width => byName.mergeSort fun a b => decide ((wish.shown a.name).length ≤ (wish.shown b.name).length)
  let turned := if wish.backward && wish.order ≠ .none then sorted.reverse else sorted
  if !wish.directoriesFirst then turned
  else
    let isFirst := fun entry : Entry => entry.node.isDirectory || entry.target?.any Node.isDirectory
    turned.filter isFirst ++ turned.filter fun entry => !isFirst entry

/-- The entries of a directory that are listed. -/
def Wish.entriesOf (wish : Wish) (machine : Machine) (handle : Handle) : List Entry :=
  let item? := fun (name : Chars) (handle above : Handle) =>
    (machine.tree.get? handle).map fun node =>
      let target? := (machine.tree.locate above name.bytes).toOption
      match wish.follows, target? with
      | true, some (other, node) => Entry.mk name other node none
      | _, _ => Entry.mk name handle node (target?.map Prod.snd)
  let all := (machine.tree.entries handle).filterMap fun item => item? (Chars.ofBytes item.1) item.2 handle
  let shown := all.filter fun entry =>
    (wish.hidden || entry.name.head? ≠ some '.') &&
      !wish.ignored.any fun pattern =>
        Matcher.matchesAll pattern entry.name && (entry.name.head? ≠ some '.' || pattern.head? = some (.one '.'))
  let dots :=
    if wish.dots then
      (item? ['.'] handle handle).toList ++ (item? ['.', '.'] (machine.tree.above handle) handle).toList
    else []
  wish.sorted (dots ++ shown)

/-- What is listed for a directory, and for those below it where that is asked for, at most as deep as
given. -/
def Wish.directory (wish : Wish) (machine : Machine) : Nat → Bool → Chars → Handle → Chars
  | 0, _, _, _ => []
  | depth + 1, titled, path, handle =>
    let entries := wish.entriesOf machine handle
    let title := if titled then wish.shown path ++ [':', '\n'] else []
    let blocks := Number.total (entries.map fun entry => blocksOf entry.node)
    let total :=
      if wish.layout = .long || wish.blocks then "total ".toList ++ Chars.ofNat blocks ++ ['\n'] else []
    let below :=
      if wish.deep then
        entries.flatMap fun entry =>
          if entry.node.isDirectory ∧ entry.name ≠ ['.'] ∧ entry.name ≠ ['.', '.'] then
            '\n' :: wish.directory machine depth true (within path entry.name) entry.handle
          else []
      else []
    title ++ total ++ wish.text machine.tree entries ++ below

/-! ## Options -/

/-- The flags of `ls`. -/
def known : List Flag :=
  taking [('I', "ignore"), ('w', "width"), ('T', "tabsize"), ('ḣ', "hide"), ('ṡ', "sort"), ('ṫ', "time"), ('ḟ', "format"),
    ('ı', "indicator-style"), ('ṙ', "quoting-style"), ('ṁ', "time-style"), ('ḃ', "block-size")] ++
  perhaps [('ċ', "color"), ('ḱ', "classify"), ('ẏ', "hyperlink")] ++
  flags [('a', "all"), ('A', "almost-all"), ('b', "escape"), ('B', "ignore-backups"), ('c', ""), ('C', ""),
    ('d', "directory"), ('D', "dired"), ('f', ""), ('F', ""), ('g', ""), ('G', "no-group"), ('h', "human-readable"),
    ('H', "dereference-command-line"), ('i', "inode"), ('k', "kibibytes"), ('l', ""), ('L', "dereference"), ('m', ""),
    ('n', "numeric-uid-gid"), ('N', "literal"), ('o', ""), ('p', ""), ('q', "hide-control-chars"), ('Q', "quote-name"),
    ('r', "reverse"), ('R', "recursive"), ('s', "size"), ('S', ""), ('t', ""), ('u', ""), ('U', ""), ('v', ""), ('x', ""),
    ('X', ""), ('Z', "context"), ('1', ""), ('ż', "zero"), ('ġ', "group-directories-first"), ('ẋ', "si"),
    ('ḟ', "full-time"), ('ȧ', "author"), ('ṕ', "file-type"), ('ṅ', "show-control-chars"),
    ('ḋ', "dereference-command-line-symlink-to-dir")]

/-- The words for orders. -/
def orderWords : List (String × Order) :=
  [("none", .none), ("time", .time), ("size", .size), ("extension", .ending), ("version", .version), ("width", .width)]

/-- The words for ways in which entries stand together. -/
def layoutWords : List (String × Layout) :=
  [("verbose", .long), ("long", .long), ("commas", .commas), ("horizontal", .rows), ("across", .rows),
   ("vertical", .columns), ("single-column", .lines)]

/-- The words for signs. -/
def signWords : List (String × Signs) :=
  [("none", .none), ("slash", .slash), ("file-type", .kinds), ("classify", .all)]

/-- The words for ways to show characters. -/
def quotingWords : List (String × Quoting) :=
  [("literal", .literal), ("shell", .shell), ("shell-always", .shellAlways), ("shell-escape", .shell),
   ("shell-escape-always", .shellAlways), ("c", .c), ("escape", .escape), ("locale", .c), ("clocale", .c)]

/-- The words for when something is done: always, never, or on a terminal. -/
def whenWords : List (String × Option Bool) :=
  [("always", some true), ("yes", some true), ("force", some true), ("never", some false), ("no", some false),
   ("none", some false), ("auto", none), ("tty", none), ("if-tty", none)]

/-- What a letter among the options changes; nothing after a complaint about its argument. -/
def Wish.with (wish : Wish) (letter : Char) (word : Chars) : Step (Option Wish) := do
  match letter with
  | 'a' => return some { wish with hidden := true, dots := true }
  | 'A' => return some { wish with hidden := true, dots := false }
  | 'b' => return some { wish with quoting := .escape }
  | 'B' => return some { wish with ignored := wish.ignored ++ [patternOf "*~".toList, patternOf ".*~".toList] }
  | 'C' => return some { wish with layout := .columns }
  | 'd' => return some { wish with flat := true }
  | 'f' =>
    return some { wish with
      hidden := true, dots := true, order := .none, blocks := false
      layout := if wish.layout = .long then .lines else wish.layout }
  | 'F' => return some { wish with signs := .all }
  | 'ḱ' =>
    if word.isEmpty then return some { wish with signs := .all }
    return (← choice "--classify" whenWords word).map fun wanted =>
      if wanted = some true then { wish with signs := .all } else wish
  | 'ċ' =>
    if word.isEmpty then return some wish
    return (← choice "--color" whenWords word).map fun _ => wish
  | 'p' => return some { wish with signs := .slash }
  | 'ṕ' => return some { wish with signs := .kinds }
  | 'g' => return some { wish with layout := .long, owners := false }
  | 'o' => return some { wish with layout := .long, groups := false }
  | 'G' => return some { wish with groups := false }
  | 'n' => return some { wish with layout := .long, numeric := true }
  | 'l' => return some { wish with layout := .long }
  | 'H' => return some { wish with followsNamed := true }
  | 'L' => return some { wish with follows := true, followsNamed := true }
  | 'i' => return some { wish with numbers := true }
  | 's' => return some { wish with blocks := true }
  | 'm' => return some { wish with layout := .commas }
  | 'x' => return some { wish with layout := .rows }
  | '1' => return some (if wish.layout = .long then wish else { wish with layout := .lines })
  | 'N' => return some { wish with quoting := .literal }
  | 'Q' => return some { wish with quoting := .c }
  | 'q' => return some { wish with masks := true }
  | 'ṅ' => return some { wish with masks := false }
  | 'r' => return some { wish with backward := true }
  | 'R' => return some { wish with deep := true }
  | 'S' => return some { wish with order := .size }
  | 't' => return some { wish with order := .time }
  | 'U' => return some { wish with order := .none }
  | 'v' => return some { wish with order := .version }
  | 'X' => return some { wish with order := .ending }
  | 'ż' => return some { wish with ending := '\x00', layout := if wish.layout = .long then .long else .lines }
  | 'ġ' => return some { wish with directoriesFirst := true }
  | 'I' => return some { wish with ignored := wish.ignored ++ [patternOf word] }
  | 'ḣ' =>
    return some (if wish.hidden then wish else { wish with ignored := wish.ignored ++ [patternOf word] })
  | 'w' =>
    match size? false word with
    | .ok width => return some { wish with width := width }
    | .error _ =>
      report ("invalid line width: ".toList ++ quoted word)
      return none
  | 'T' =>
    match size? false word with
    | .ok width => return some { wish with tab := width }
    | .error _ =>
      report ("invalid tab size: ".toList ++ quoted word)
      return none
  | 'ṡ' => return (← choice "--sort" orderWords word).map fun order => { wish with order := order }
  | 'ḟ' =>
    if word.isEmpty then return some { wish with layout := .long }
    return (← choice "--format" layoutWords word).map fun layout => { wish with layout := layout }
  | 'ı' => return (← choice "--indicator-style" signWords word).map fun signs => { wish with signs := signs }
  | 'ṙ' => return (← choice "--quoting-style" quotingWords word).map fun quoting => { wish with quoting := quoting }
  | _ => return some wish

/-- What all options ask for. -/
def Wish.withAll (wish : Wish) : List (Char × Chars) → Step (Option Wish)
  | [] => return some wish
  | (letter, word) :: rest => do
    let some wish ← wish.with letter word | return none
    wish.withAll rest

end DirectoryListing

open DirectoryListing in
/-- Lists directories and files. -/
def ls : Tool := fun arguments =>
  match Options.read known false arguments with
  | .error stop => stop.answer (misusedWith 2)
  | .ok options => do
    let start : Wish :=
      { layout := .lines, order := .name, backward := false, directoriesFirst := false, hidden := false, dots := false
        ignored := [], signs := .none, quoting := .literal, masks := false, numbers := false, blocks := false
        owners := true, groups := true, numeric := false, flat := false, deep := false, follows := false
        followsNamed := false, width := 80, tab := 8, ending := '\n' }
    let some wish ← start.withAll options.found | return 2
    let paths := if options.operands.isEmpty then [['.']] else options.operands
    let found ← paths.mapM fun path => do
      let machine ← get
      let whole := machine.tree.locate machine.directory path.bytes
      let bare := machine.tree.view machine.directory path.bytes
      let intoDirectory := !wish.flat && wish.signs ≠ .all && wish.layout ≠ .long &&
        whole.toOption.any fun item => item.2.isDirectory
      let target? := whole.toOption.map Prod.snd
      match if wish.followsNamed || intoDirectory then whole else bare with
      | .ok (handle, node) => return some (Entry.mk path handle node target?)
      | .error fault =>
        let _ ← cannot ("cannot access ".toList ++ quoted path) fault
        return none
    let machine ← get
    let known := wish.sorted (found.filterMap id)
    let isListed := fun entry : Entry => entry.node.isDirectory && !wish.flat
    let files := known.filter fun entry => !isListed entry
    let directories := known.filter isListed
    let titled := 1 < paths.length || wish.deep
    let parts := directories.map fun entry =>
      wish.directory machine (machine.tree.nodes.size + 1) titled entry.name entry.handle
    let first := if files.isEmpty then [] else [wish.text machine.tree files]
    answer (if found.all Option.isSome then 0 else 2) (['\n'].intercalate (first ++ parts))

end CounterCatalog.Shell.Tool
