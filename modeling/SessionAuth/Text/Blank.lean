/-!
# Blanks

A blank is a character with the Unicode property `White_Space`: the controls from tab to
carriage return, the space, the next-line control, and the spaces and separators of the
scripts beyond.

## Main definitions

* `Text.isBlank` — a character is a blank
* `Text.dropBlanks`, `Text.trimEnd`, `Text.trim` — a text without its outer blanks
-/

namespace SessionAuth.Text

/-- Whether a character is a blank. -/
def isBlank (c : Char) : Bool :=
  let n := c.toNat
  (9 ≤ n && n ≤ 13) || n = 0x20 || n = 0x85 || n = 0xA0 || n = 0x1680 ||
    (0x2000 ≤ n && n ≤ 0x200A) || n = 0x2028 || n = 0x2029 || n = 0x202F || n = 0x205F ||
    n = 0x3000

/-- A text without the blanks it starts with. -/
def dropBlanks (text : List Char) : List Char := text.dropWhile isBlank

/-- A text without the blanks it ends with. -/
def trimEnd (text : List Char) : List Char := (text.reverse.dropWhile isBlank).reverse

/-- A text without its outer blanks. -/
def trim (text : List Char) : List Char := trimEnd (dropBlanks text)

end SessionAuth.Text
