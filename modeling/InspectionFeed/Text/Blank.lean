/-
White space, as Unicode gives it: the characters whose bidirectional class
is a separator or that are space separators. Zero-width characters are not
among them, so a text that only looks empty is not blank.

`trim` drops white space from both ends of a text and nothing inside it;
`isBlankText` says that nothing would be left.
-/

namespace InspectionFeed.Text

/-- White space: the tab to the carriage return, the four separators before
the space, the space, next line, and the spaces outside ASCII. -/
def isBlank (c : Char) : Bool :=
  let n := c.toNat
  (9 ≤ n && n ≤ 13) || (28 ≤ n && n ≤ 32) || n == 0x85 || n == 0xA0 || n == 0x1680 ||
    (0x2000 ≤ n && n ≤ 0x200A) || n == 0x2028 || n == 0x2029 || n == 0x202F || n == 0x205F ||
    n == 0x3000

/-- The characters of a text without the white space at its end. -/
def trimEndChars (cs : List Char) : List Char :=
  (cs.reverse.dropWhile isBlank).reverse

/-- The characters of a text without the white space at both ends. -/
def trimChars (cs : List Char) : List Char :=
  trimEndChars (cs.dropWhile isBlank)

/-- A text without the white space at both ends. -/
def trim (s : String) : String :=
  .ofList (trimChars s.toList)

/-- Every character is white space; the empty text is blank. -/
def isBlankText (s : String) : Bool :=
  s.toList.all isBlank

end InspectionFeed.Text
