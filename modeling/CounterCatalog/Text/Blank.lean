/-!
# White space

The characters that separate words and fields: the Unicode property `White_Space`, twenty-five
characters in all. `trimBlank` removes them from both ends of a text and nowhere else.
-/

set_option autoImplicit false

namespace CounterCatalog.Text

/-- A character is blank exactly when it has the Unicode property `White_Space`. -/
def isBlank (c : Char) : Bool :=
  let n := c.toNat
  (0x09 ≤ n && n ≤ 0x0D) || n == 0x20 || n == 0x85 || n == 0xA0 || n == 0x1680 ||
    (0x2000 ≤ n && n ≤ 0x200A) || n == 0x2028 || n == 0x2029 || n == 0x202F || n == 0x205F ||
    n == 0x3000

/-- The text without the blanks at its front. -/
def trimFront (text : List Char) : List Char :=
  text.dropWhile isBlank

/-- The text without the blanks at its back. -/
def trimBack (text : List Char) : List Char :=
  (text.reverse.dropWhile isBlank).reverse

/-- The text without the blanks at either end. -/
def trimBlank (text : List Char) : List Char :=
  trimBack (trimFront text)

end CounterCatalog.Text
