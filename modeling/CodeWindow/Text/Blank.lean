/-! Blank characters: the white space of general text, which is trimmed from both ends of a number,
and the five ASCII blanks that may stand anywhere in a text of hexadecimal bytes. -/

namespace CodeWindow.Text

/-- White space of general text: the ASCII controls from tab to carriage return, the space, and the
space and line separators beyond ASCII. -/
def isBlank (c : Char) : Bool :=
  let n := c.toNat
  (0x9 ≤ n && n ≤ 0xD) || n == 0x20 || n == 0x85 || n == 0xA0 || n == 0x1680 ||
    (0x2000 ≤ n && n ≤ 0x200A) || n == 0x2028 || n == 0x2029 || n == 0x202F || n == 0x205F ||
    n == 0x3000

/-- The ASCII blanks: space, tab, line feed, form feed and carriage return. -/
def isAsciiBlank (byte : UInt8) : Bool :=
  byte == 0x20 || byte == 0x9 || byte == 0xA || byte == 0xC || byte == 0xD

/-- A text without the blanks at its two ends. -/
def trim (text : List Char) : List Char :=
  ((text.dropWhile isBlank).reverse.dropWhile isBlank).reverse

end CodeWindow.Text
