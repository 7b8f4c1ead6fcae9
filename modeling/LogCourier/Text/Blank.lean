/-! Blank characters have the white-space property, and trimming removes them from both ends. -/

namespace LogCourier

/-- The code points with the white-space property. -/
def isBlank (c : Char) : Bool :=
  let code := c.toNat
  -- Controls and the ASCII space, then no-break, ogham, the typographic spaces and separators.
  (9 ≤ code && code ≤ 13) || code == 32 || code == 0x85 || code == 0xa0 || code == 0x1680 ||
    (0x2000 ≤ code && code ≤ 0x200a) || code == 0x2028 || code == 0x2029 || code == 0x202f ||
    code == 0x205f || code == 0x3000

/-- A text without the blanks at its end. -/
def trimEnd (text : List Char) : List Char :=
  (text.reverse.dropWhile isBlank).reverse

/-- A text without the blanks at its two ends. -/
def trimBlanks (text : List Char) : List Char :=
  trimEnd (text.dropWhile isBlank)

/-- A text that holds nothing but blanks. -/
def isBlankText (text : String) : Bool :=
  (trimBlanks text.toList).isEmpty

end LogCourier
