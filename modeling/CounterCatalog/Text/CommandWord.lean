/-!
# Commands as one line

A command is shown as one line of words that a shell would split into the command again. A word is left
bare unless it is empty or holds a character with a meaning to the shell; else it stands between single
quotes, where a single quote of its own is written as quote, backslash, quote, quote.
-/

set_option autoImplicit false

namespace CounterCatalog.Text.CommandWord

/-- The single quote. -/
def quoteMark : Char := '\x27'

/-- The characters that make a word need quotes. -/
def special : List Char :=
  ['|', '&', ';', '<', '>', '(', ')', '$', '\x60', '\\', '\x22', ' ', '\t', '\n', quoteMark, '*', '?',
   '[', '#', '~', '=', '%']

/-- A word may be left bare when it is not empty and holds no special character. -/
def isBare (word : List Char) : Bool :=
  !word.isEmpty && word.all fun c => !special.contains c

/-- A character as it is written between single quotes. -/
def quoteChar (c : Char) : List Char :=
  if c = quoteMark then [quoteMark, '\\', quoteMark, quoteMark] else [c]

/-- A word as it stands in a command line. -/
def quoteChars (word : List Char) : List Char :=
  if isBare word then word else quoteMark :: word.flatMap quoteChar ++ [quoteMark]

/-- A word as it stands in a command line. -/
def quote (word : String) : String :=
  String.ofList (quoteChars word.toList)

/-- The words of a command as one line, with a space between any two. -/
def join (words : List String) : String :=
  " ".intercalate (words.map quote)

end CounterCatalog.Text.CommandWord
