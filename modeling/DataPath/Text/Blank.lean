/-!
# Blank characters

A label may be written with blank space around it.  *Blank* is the white-space
property of the Unicode character database: twenty-five code points, of which
only six are ASCII.  Look-alikes without the property (the zero-width space, the
word joiner, the Mongolian vowel separator, the information separators) are not
blank and stay part of the text.

`trim` removes the blanks at both ends and nothing else.  It works on lists of
characters, so that its three laws are laws of `dropWhile`: what is removed in
front is blank, what is removed behind is blank, and what remains neither begins
nor ends with a blank.
-/

namespace DataPath.Text

/-- The code points with the white-space property. -/
def isBlank (c : Char) : Bool :=
  let n := c.toNat
  (9 ≤ n && n ≤ 13) || n == 0x20 || n == 0x85 || n == 0xA0 || n == 0x1680 ||
    (0x2000 ≤ n && n ≤ 0x200A) || n == 0x2028 || n == 0x2029 || n == 0x202F ||
    n == 0x205F || n == 0x3000

/-- The text without the blanks it begins with. -/
def trimLeft (cs : List Char) : List Char := cs.dropWhile isBlank

/-- The text without the blanks it ends with. -/
def trimRight (cs : List Char) : List Char := (trimLeft cs.reverse).reverse

/-- The text without the blanks at its two ends. -/
def trim (cs : List Char) : List Char := trimRight (trimLeft cs)

end DataPath.Text
