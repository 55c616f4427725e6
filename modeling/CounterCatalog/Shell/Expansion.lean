import CounterCatalog.Shell.Arithmetic
import CounterCatalog.Shell.Field
import CounterCatalog.Shell.Glob

/-!
# Expanding words

A word is expanded to glyphs, part by part. Where a command takes words, the glyphs are then divided into
fields, and each field may stand for several paths; everywhere else they make one text. Statements inside a
word are run by a function that is given.
-/

set_option autoImplicit false

namespace CounterCatalog.Shell

/-- The way the statements inside a word are run: it gives what they write. -/
abbrev Substitute := Statement → Step (List UInt8)

/-- What a parameter stands for. -/
inductive Value where
  /-- A text. -/
  | text (text : Chars)
  /-- All arguments; `apart` tells whether quotes leave them apart. -/
  | arguments (apart : Bool)

namespace Machine

/-- What arguments are joined by where they make one text. -/
def joint (machine : Machine) : Chars :=
  match machine.lookup? "IFS".toList with
  | none => [' ']
  | some separators => separators.take 1

/-- The characters that separate fields. -/
def separators (machine : Machine) : Chars :=
  (machine.lookup? "IFS".toList).getD standardSeparators

/-- All arguments as one text. -/
def joined (machine : Machine) : Chars :=
  machine.joint.intercalate machine.arguments

/-- What a parameter stands for, if it is set. -/
def parameter? (machine : Machine) (name : Chars) : Option Value :=
  match name with
  | ['@'] => some (.arguments true)
  | ['*'] => some (.arguments false)
  | ['#'] => some (.text (Chars.ofNat machine.arguments.length))
  | ['?'] => some (.text (Chars.ofNat machine.status))
  | ['$'] => some (.text (Chars.ofNat machine.shellProcess))
  | ['!'] => machine.lastJob?.map fun job => .text (Chars.ofNat job)
  | ['-'] => some (.text machine.options)
  | name =>
    if Chars.isNumber name then
      match Chars.toNat name with
      | 0 => some (.text machine.title)
      | n + 1 => (machine.arguments[n]?).map .text
    else (machine.lookup? name).map .text

/-- A parameter's value as one text. -/
def textOf (machine : Machine) : Value → Chars
  | .text text => text
  | .arguments _ => machine.joined

end Machine

namespace Expansion

/-- Where a word stands. -/
structure Mode where
  /-- It will be divided into fields. -/
  divided : Bool
  /-- A tilde may follow a colon. -/
  colons : Bool
  /-- Characters that stand for themselves may separate fields, because the word stands in for a value. -/
  inner : Bool

/-- The glyphs of a text that an expansion puts in. -/
def glyphsOf (quoted : Bool) (text : Chars) : List Glyph :=
  text.map (if quoted then .quoted else .expanded)

/-- The glyphs of texts that are fields of their own. -/
def glyphsOfAll (quoted : Bool) (texts : List Chars) : List Glyph :=
  if quoted then [Glyph.cut].intercalate (texts.map fun text => .mark :: glyphsOf true text)
  else [Glyph.gap].intercalate (texts.map (glyphsOf false))

/-- All arguments are fields of their own: between quotes where those leave them apart, and outside of quotes
where the separators have been set. -/
def keepsApart (machine : Machine) (mode : Mode) (quoted : Bool) : Value → Bool
  | .text _ => false
  | .arguments apart =>
    mode.divided && if quoted then apart else (machine.lookup? "IFS".toList).isSome

/-- The glyphs of a parameter's value. -/
def ofValue (machine : Machine) (mode : Mode) (quoted : Bool) (value : Value) : List Glyph :=
  if keepsApart machine mode quoted value then glyphsOfAll quoted machine.arguments
  else glyphsOf quoted (machine.textOf value)

/-- The glyphs of a parameter's value without what a pattern matches at one end of it. -/
def ofTrimmed (machine : Machine) (mode : Mode) (quoted front longest : Bool) (pattern : List Matcher)
    (value : Value) : List Glyph :=
  if keepsApart machine mode quoted value then
    glyphsOfAll quoted (Matcher.trimAll pattern front longest machine.arguments)
  else glyphsOf quoted (Matcher.trim pattern front longest (machine.textOf value))

/-- The directories of users whose names may follow a tilde. -/
def homes : List (String × String) :=
  [("root", "/root"), ("daemon", "/usr/sbin"), ("bin", "/bin"), ("sys", "/dev"),
   ("nobody", "/nonexistent")]

/-- The directory that a tilde before a name stands for. -/
def home? (machine : Machine) (name : Chars) : Option Chars :=
  if name.isEmpty then machine.lookup? "HOME".toList
  else (homes.find? fun item => item.1.toList = name).map fun item => item.2.toList

/-- A piece of a text that stands for itself, in which a tilde may come first; `whole` means that nothing
follows which could belong to the name after the tilde. -/
def tilde (machine : Machine) (mode : Mode) (whole : Bool) (piece : Chars) : List Glyph :=
  let plain := piece.map (if mode.inner then Glyph.expanded else .plain)
  match piece with
  | '~' :: rest =>
    let name := rest.takeWhile fun c => c ≠ '/'
    if name.length = rest.length ∧ whole = false then plain
    else
      match home? machine name with
      | none => plain
      | some home => glyphsOf true home ++ plain.drop (name.length + 1)
  | _ => plain

/-- A text that stands for itself, with tildes in it; `first` means that a tilde may come first, and `last`
that the word ends with the text. -/
def literal (machine : Machine) (mode : Mode) (first last : Bool) (text : Chars) : List Glyph :=
  let plain := text.map (if mode.inner then Glyph.expanded else .plain)
  if mode.colons then
    match Text.splitOn ':' text with
    | [] => plain
    | piece :: pieces =>
      let count := pieces.length
      let start :=
        if first then tilde machine mode (last || count ≠ 0) piece
        else piece.map (if mode.inner then Glyph.expanded else .plain)
      start ++ (pieces.zipIdx.flatMap fun (piece, index) =>
        .plain ':' :: tilde machine mode (last || index + 1 ≠ count) piece)
  else if first then tilde machine mode last text
  else plain

/-- What a statement writes, without the line ends at its end. -/
def withoutEnd (bytes : List UInt8) : Chars :=
  let text := Chars.ofBytes (bytes.filter fun byte => byte ≠ 0)
  (text.reverse.dropWhile fun c => c = '\n').reverse

/-- The complaint about a parameter that is not set. -/
def notSet {α : Type} (name : Chars) (ending : String) : Step α :=
  Step.fail (name ++ ": parameter not set".toList ++ ending.toList)

/-- A parameter's value, if it is set, and not empty where that counts too. -/
def setValue? (name : Chars) (orEmpty : Bool) : Step (Option Value) := do
  let machine ← get
  return (machine.parameter? name).filter fun value => !(orEmpty && (machine.textOf value).isEmpty)

/-- A parameter's value; one that is not set is empty, or a fault if the shell is to see it so. -/
def valueOf (name : Chars) : Step Value := do
  let machine ← get
  match machine.parameter? name with
  | some value => return value
  | none => if machine.has 'u' then notSet name "" else return .text []

mutual

/-- The glyphs of a word; `first` means that nothing of it has been expanded yet. -/
def word (run : Substitute) (mode : Mode) (first : Bool) : List Part → Step (List Glyph)
  | [] => return []
  | .literal text false :: rest => do
    let glyphs := literal (← get) mode first rest.isEmpty text
    return glyphs ++ (← word run mode false rest)
  | part :: rest => do
    let glyphs ← partGlyphs run mode part
    return glyphs ++ (← word run mode false rest)

/-- The glyphs of a part of a word, other than characters in which tildes may stand. -/
def partGlyphs (run : Substitute) (mode : Mode) : Part → Step (List Glyph)
  | .literal text quoted => return if text.isEmpty then [.mark] else glyphsOf quoted text
  | .parameter name use quoted => useGlyphs run mode name quoted use
  | .output body quoted => do return glyphsOf quoted (withoutEnd (← run body))
  | .number expression quoted => do
    let text := Glyph.text (← word run ⟨false, false, false⟩ false expression)
    return glyphsOf quoted (Chars.ofInt (← Arithmetic.evaluate text).toInt)

/-- The glyphs of what is made of a parameter. -/
def useGlyphs (run : Substitute) (mode : Mode) (name : Chars) (quoted : Bool) :
    Use → Step (List Glyph)
  | .value => do
    let value ← valueOf name
    return ofValue (← get) mode quoted value
  | .length => do
    let value ← valueOf name
    return glyphsOf quoted (Chars.ofNat ((← get).textOf value).length)
  | .fallback orEmpty other => do
    match ← setValue? name orEmpty with
    | some value => return ofValue (← get) mode quoted value
    | none => word run { mode with inner := mode.divided && !quoted } true other
  | .alternative orEmpty other => do
    match ← setValue? name orEmpty with
    | some _ => word run { mode with inner := mode.divided && !quoted } true other
    | none => return []
  | .assign orEmpty other => do
    match ← setValue? name orEmpty with
    | some value => return ofValue (← get) mode quoted value
    | none =>
      let text := Glyph.text (← word run ⟨false, false, false⟩ true other)
      unless Chars.isName name do Step.fail (name ++ ": bad variable name".toList)
      Step.assign name text
      return ofValue (← get) mode quoted (← valueOf name)
  | .demand orEmpty other => do
    match ← setValue? name orEmpty with
    | some value => return ofValue (← get) mode quoted value
    | none =>
      if other.isEmpty then notSet name (if orEmpty then " or null" else "")
      let text := Glyph.text (← word run ⟨false, false, false⟩ true other)
      Step.fail (name ++ ": ".toList ++ text)
  | .trim front longest pattern => do
    let value ← valueOf name
    if ((← get).parameter? name).isNone then return []
    let matchers := Matcher.ofGlyphs (← word run ⟨false, false, false⟩ true pattern)
    return ofTrimmed (← get) mode quoted front longest matchers value
  | .meaningless => Step.fail "Bad substitution".toList

end

/-- The fields of a word, each with what it stands for among the paths. -/
def fields (run : Substitute) (parts : Word) : Step (List Chars) := do
  let glyphs ← word run ⟨true, false, false⟩ true parts
  let machine ← get
  let fields := Glyph.fields machine.separators glyphs
  if machine.has 'f' then return fields.map Glyph.text
  return fields.flatMap (Glob.expand machine.tree machine.directory)

/-- A word as one text. -/
def text (run : Substitute) (parts : Word) : Step Chars := do
  return Glyph.text (← word run ⟨false, false, false⟩ true parts)

/-- A word as the value of a variable. -/
def value (run : Substitute) (parts : Word) : Step Chars := do
  return Glyph.text (← word run ⟨false, true, false⟩ true parts)

/-- A word as a pattern. -/
def pattern (run : Substitute) (parts : Word) : Step (List Matcher) := do
  return Matcher.ofGlyphs (← word run ⟨false, false, false⟩ true parts)

end Expansion

end CounterCatalog.Shell
