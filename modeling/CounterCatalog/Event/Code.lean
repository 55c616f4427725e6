import CounterCatalog.Event.Label

/-!
# Event codes

Asked about a label, the encoding tool answers with a line `Codes : 0x53003c` if it knows the label. The
code is the text from `0x` to the last hexadecimal digit of the run, taken verbatim, at the leftmost
place where such a line stands.
-/

set_option autoImplicit false

namespace CounterCatalog.Event

open Text

/-- The code that the text begins with, after the word that announces it. -/
def codeHere? (text : List Char) : Option (List Char) := do
  let text ← dropWord? "Codes".toList text
  let text ← dropColon? text
  let text ← dropWord? "0x".toList text
  let (digits, _) ← takeRun? isHexDigit text
  pure ('0' :: 'x' :: digits)

/-- The code in an answer of the encoding tool, if it gives one. -/
def codeChars? (answer : List Char) : Option (List Char) :=
  firstSite codeHere? answer

/-- The code in an answer of the encoding tool, if it gives one. -/
def code? (answer : String) : Option String :=
  (codeChars? answer.toList).map String.ofList

end CounterCatalog.Event
