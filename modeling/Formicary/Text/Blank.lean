/-!
# Blank characters

The characters that count as white space in brain and world sources, and the operation that
removes them from both ends of a text.
-/

namespace Formicary.Text

/-- The characters with the property White_Space: the controls from tab to carriage return, the
space, the next-line control, and the space and separator characters beyond ASCII. Zero-width
spaces and the information separators are not among them. -/
def isBlank (c : Char) : Bool :=
  let n := c.toNat
  (0x9 ≤ n && n ≤ 0xD) || n == 0x20 || n == 0x85 || n == 0xA0 || n == 0x1680 ||
    (0x2000 ≤ n && n ≤ 0x200A) || n == 0x2028 || n == 0x2029 || n == 0x202F || n == 0x205F ||
    n == 0x3000

/-- Remove the blanks at the end of a text. -/
def trimEnd (s : List Char) : List Char := (s.reverse.dropWhile isBlank).reverse

/-- Remove the blanks at both ends of a text. -/
def trim (s : List Char) : List Char := trimEnd (s.dropWhile isBlank)

end Formicary.Text
