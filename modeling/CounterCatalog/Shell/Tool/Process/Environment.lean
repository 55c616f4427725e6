import CounterCatalog.Shell.Search
import CounterCatalog.Shell.Signal
import CounterCatalog.Shell.Tool.Common

/-!
# Tools for the environment

`printenv` writes what a process gets from its parent, and `env` changes it for another program, whose arguments may
stand in one text; `nohup` runs a program that does not end when nobody listens to it any more.
-/

set_option autoImplicit false

namespace CounterCatalog.Shell

/-- The way a tool goes on as another program. -/
abbrev Become := Image → Step Unit

namespace Tool

open Step

/-- The environment of the process, item by item. -/
def environmentText (machine : Machine) (ending : Char) : Chars :=
  machine.exports.flatMap fun item => item.1 ++ ['='] ++ item.2 ++ [ending]

/-- What ends the items that a tool for the environment writes. -/
def itemEnd (options : Options) : Char :=
  if options.has '0' then '\x00' else '\n'

/-- Writes values of the environment. -/
def printenv : Tool := fun arguments =>
  match Options.read (flags [('0', "null")]) true arguments with
  | .error stop => stop.answer (misusedWith 2)
  | .ok options => do
    let machine ← get
    if options.operands.isEmpty then return ← answer 0 (environmentText machine (itemEnd options))
    let value? := fun name : Chars => if name.contains '=' then none else machine.lookup? name
    let values := options.operands.map value?
    answer (if values.all Option.isSome then 0 else 1)
      ((values.filterMap id).flatMap fun value => value ++ [itemEnd options])

/-- Goes on as a program that is searched for; if there is none, complains with words in front of its name. -/
def become (go : Become) (problem : String) (words : List Chars) : Step Nat := do
  let machine ← get
  match words with
  | [] => return 0
  | name :: arguments =>
    match Image.find machine.tree machine.directory (machine.lookup? "PATH".toList) name arguments with
    | .ok image =>
      go image
      return (← get).status
    | .error .badFormat =>
      go ⟨"sh", "/bin/sh".toList, name :: arguments⟩
      return (← get).status
    | .error fault =>
      report (problem.toList ++ quoted name ++ ": ".toList ++ fault.reason.toList)
      return if fault = .notFound then 127 else 126

/-! ## Arguments in one text -/

namespace Splitting

/-- Where the text stands that is taken apart. -/
inductive Quote where
  /-- Outside quotes. -/
  | none
  /-- Between single quotes. -/
  | single
  /-- Between double quotes. -/
  | double
deriving DecidableEq

/-- A text that is being taken apart. -/
structure State where
  /-- The words that are complete, the last one first. -/
  words : List Chars
  /-- The word that has begun, the last character first. -/
  word? : Option Chars
  /-- The quotes around the text. -/
  quote : Quote

namespace State

/-- A character belongs to the word. -/
def add (state : State) (text : Chars) : State :=
  { state with word? := some (text.reverse ++ state.word?.getD []) }

/-- The word is complete. -/
def cut (state : State) : State :=
  match state.word? with
  | some word => { state with words := word.reverse :: state.words, word? := none }
  | none => state

/-- The words. -/
def result (state : State) : List Chars :=
  state.cut.words.reverse

end State

/-- The character for a letter behind a backslash. -/
def escape? : Char → Option Char
  | 'f' => some '\x0c'
  | 'n' => some '\n'
  | 'r' => some '\r'
  | 't' => some '\t'
  | 'v' => some '\x0b'
  | c => if ['\\', '"', '#', '$', '\x27'].contains c then some c else none

/-- A text taken apart into words, given at least as many steps as it has characters; or what is wrong with it. -/
def split (lookup : Chars → Option Chars) : Nat → State → Chars → Except Chars (List Chars)
  | 0, state, _ | _, state, [] =>
    if state.quote = .none then .ok state.result else .error "no terminating quote in -S string".toList
  | steps + 1, state, '\\' :: rest =>
    match state.quote, rest with
    | .single, c :: more =>
      if c = '\\' ∨ c = '\x27' then split lookup steps (state.add [c]) more
      else split lookup steps (state.add ['\\']) rest
    | .none, '_' :: more => split lookup steps state.cut more
    | .double, '_' :: more => split lookup steps (state.add [' ']) more
    | .none, 'c' :: _ => .ok state.result
    | .double, 'c' :: _ => .error "'\\c' must not appear in double-quoted -S string".toList
    | _, c :: more =>
      match escape? c with
      | some c => split lookup steps (state.add [c]) more
      | none => .error ("invalid sequence '\\".toList ++ [c] ++ "' in -S".toList)
    | _, [] => .error "invalid backslash at end of string in -S".toList
  | steps + 1, state, '$' :: rest =>
    if state.quote = .single then split lookup steps (state.add ['$']) rest
    else
      match rest with
      | '\x7b' :: more =>
        let name := more.takeWhile Chars.isNameChar
        match more.drop name.length with
        | '\x7d' :: after =>
          if Chars.isName name then
            let state := if state.quote = .none then { state with word? := some (state.word?.getD []) } else state
            split lookup steps (state.add ((lookup name).getD [])) after
          else .error ("only $\x7bVARNAME\x7d expansion is supported, error at: ".toList ++ '$' :: rest)
        | _ => .error ("only $\x7bVARNAME\x7d expansion is supported, error at: ".toList ++ '$' :: rest)
      | _ => .error ("only $\x7bVARNAME\x7d expansion is supported, error at: ".toList ++ '$' :: rest)
  | steps + 1, state, c :: rest =>
    match state.quote with
    | .single =>
      if c = '\x27' then split lookup steps { state.add [] with quote := .none } rest
      else split lookup steps (state.add [c]) rest
    | .double =>
      if c = '"' then split lookup steps { state.add [] with quote := .none } rest
      else split lookup steps (state.add [c]) rest
    | .none =>
      if c = '\x27' then split lookup steps { state.add [] with quote := .single } rest
      else if c = '"' then split lookup steps { state.add [] with quote := .double } rest
      else if c = ' ' ∨ ('\t' ≤ c ∧ c ≤ '\r') then split lookup steps state.cut rest
      else if c = '#' ∧ state.word?.isNone then .ok state.result
      else split lookup steps (state.add [c]) rest

end Splitting

/-! ## Programs -/

/-- The flags of `env`. -/
def environmentFlags : List Flag :=
  taking [('u', "unset"), ('C', "chdir"), ('S', "split-string")] ++
    perhaps [('ġ', "ignore-signal"), ('ḃ', "block-signal"), ('ḋ', "default-signal")] ++
    flags [('i', "ignore-environment"), ('0', "null"), ('v', "debug"), ('ḷ', "list-signal-handling")]

/-- Arguments of which one that has to be taken apart is replaced by what it consists of, given how often that may
happen. -/
def spread (lookup : Chars → Option Chars) : Nat → List Chars → Except Chars (List Chars)
  | 0, words => .ok words
  | _, [] => .ok []
  | steps + 1, word :: rest =>
    let goOn := fun (front : List Chars) (text : Chars) (rest : List Chars) => do
      let words ← Splitting.split lookup (text.length + 1) ⟨[], none, .none⟩ text
      spread lookup steps (front ++ words ++ rest)
    let letters := word.drop 1
    let flags := letters.takeWhile fun c => c = 'i' || c = 'v' || c = '0'
    if word.head? ≠ some '-' ∨ word = ['-'] ∨ word = ['-', '-'] then .ok (word :: rest)
    else if "--split-string=".toList.isPrefixOf word then goOn [] (word.drop 15) rest
    else
      match letters.drop flags.length, rest with
      | 'S' :: text, rest =>
        let front := if flags.isEmpty then [] else ['-' :: flags]
        match text, rest with
        | [], text :: rest => goOn front text rest
        | [], [] => .ok [word]
        | text, rest => goOn front text rest
      | _, value :: rest =>
        if word = ['-', 'u'] ∨ word = ['-', 'C'] then do return word :: value :: (← spread lookup steps rest)
        else do return word :: (← spread lookup steps (value :: rest))
      | _, [] => .ok [word]

/-- Runs a program with another environment, or shows the environment. -/
def env (go : Become) : Tool := fun arguments => do
  let fail (message : Chars) : Step Nat := do
    report message
    return 125
  match spread (← get).lookup? (arguments.length + 64) arguments with
  | .error message => fail message
  | .ok arguments =>
    match Options.read environmentFlags true arguments with
    | .error stop => stop.answer (misusedWith 125)
    | .ok options =>
      let bare := options.operands.head? = some ['-']
      let operands := if bare then options.operands.tail else options.operands
      let debug (text : Chars) : Step Unit := do if options.has 'v' then complain text
      let settings := operands.takeWhile fun word => word.contains '='
      let words := operands.drop settings.length
      if options.has '0' && !words.isEmpty then
        report "cannot specify --null (-0) with command".toList
        hint
        return 125
      if options.has 'C' && words.isEmpty then
        report "must specify command with --chdir (-C)".toList
        hint
        return 125
      if bare ∨ options.has 'i' then
        debug "cleaning environ".toList
        modify fun machine => { machine with values := [] }
      for (letter, word) in options.found do
        if letter = 'u' then
          if word.isEmpty ∨ word.contains '=' then
            return ← fail ("cannot unset ".toList ++ quoted word ++ ": Invalid argument".toList)
          debug ("unset:    ".toList ++ word)
          modify fun machine => machine.dropVariable word
        if letter = 'ġ' then
          let signals := (Text.splitOn ',' word).filterMap Signal.number?
          modify fun machine => { machine with ignored := signals ++ machine.ignored }
      for setting in settings do
        let name := setting.takeWhile fun c => c ≠ '='
        debug ("setenv:   ".toList ++ setting)
        modify fun machine => machine.setVariable name ⟨some (setting.drop (name.length + 1)), true, false⟩
      if words.isEmpty then return ← answer 0 (environmentText (← get) (itemEnd options))
      if let some path := options.value? 'C' then
        debug ("chdir:    ".toList ++ quoted path)
        let machine ← get
        match machine.tree.directory machine.directory path.bytes with
        | .ok directory => set { machine with directory := directory }
        | .error fault =>
          return ← fail ("cannot change directory to ".toList ++ quoted path ++ ": ".toList ++ fault.reason.toList)
      if options.has 'v' then
        debug ("executing: ".toList ++ words.headD [])
        for (word, place) in words.zipIdx do
          debug ("   arg[".toList ++ Chars.ofNat place ++ "]= ".toList ++ quoted word)
      let status ← become go "" words
      if status = 127 ∧ (words.headD []).contains ' ' then
        report "use -[v]S to pass options in shebang lines".toList
      return status

/-- Runs a program that does not end when nobody listens to it any more. -/
def nohup (go : Become) : Tool := fun arguments =>
  match Options.read [] true arguments with
  | .error stop => stop.answer (misusedWith 125)
  | .ok options => do
    if options.operands.isEmpty then return ← misusedWith 125 "missing operand".toList
    modify fun machine => { machine with ignored := 1 :: machine.ignored }
    become go "failed to run command " options.operands

end Tool

end CounterCatalog.Shell
