/-! The white space of texts, the Unicode property `White_Space`, and trimming by it. -/

namespace ValueHistory.Text

/-- Whether a character is white space. The list is the whole property: tab to carriage return,
space, next line, no-break space and the typographic spaces and separators.
-/
def isBlank (c : Char) : Bool :=
  let code := c.toNat
  (9 ≤ code && code ≤ 13) || code == 0x20 || code == 0x85 || code == 0xA0 || code == 0x1680
    || (0x2000 ≤ code && code ≤ 0x200A) || code == 0x2028 || code == 0x2029 || code == 0x202F
    || code == 0x205F || code == 0x3000

/-- A text without the white space at its two ends. -/
def trim (text : List Char) : List Char :=
  ((text.dropWhile isBlank).reverse.dropWhile isBlank).reverse

end ValueHistory.Text
