import ContractAudit.Text.Basic

/-!
# Blank characters

A character is blank when Unicode calls it white space, and so are the four information separators
U+001C to U+001F.  The zero width space U+200B and the byte order mark U+FEFF are not.

* `isBlank` -- the class;
* `trim` -- a text without the blanks at its two ends;
* `isBlankText` -- nothing but blanks, the empty text included.
-/

namespace ContractAudit.Text

/-- White space, and the information separators. -/
def isBlank (c : Char) : Bool :=
  let n := c.toNat
  (decide (0x09 ≤ n) && decide (n ≤ 0x0D)) || (decide (0x1C ≤ n) && decide (n ≤ 0x20))
    || n == 0x85 || n == 0xA0 || n == 0x1680 || (decide (0x2000 ≤ n) && decide (n ≤ 0x200A))
    || n == 0x2028 || n == 0x2029 || n == 0x202F || n == 0x205F || n == 0x3000

/-- The text without the blanks at its end. -/
def trimRight (s : Text) : Text :=
  (s.reverse.dropWhile isBlank).reverse

/-- The text without the blanks at its two ends. -/
def trim (s : Text) : Text :=
  trimRight (s.dropWhile isBlank)

/-- Nothing but blanks. -/
def isBlankText (s : Text) : Bool :=
  s.all isBlank

end ContractAudit.Text
