import GuardedInstall.Text.Ranges

/-!
# White space

White space is the Unicode property together with the four information
separators U+001C to U+001F. The module also holds trimming, and the part of
the property that line breaks belong to.
-/

namespace GuardedInstall.Text

/-- The code points of white space. -/
def blankRanges : Ranges :=
  [(0x09, 0x0D), (0x1C, 0x20), (0x85, 0x85), (0xA0, 0xA0), (0x1680, 0x1680),
    (0x2000, 0x200A), (0x2028, 0x2029), (0x202F, 0x202F), (0x205F, 0x205F),
    (0x3000, 0x3000)]

/-- Whether a character is white space. -/
def isBlank (c : Char) : Bool :=
  blankRanges.contains c.toNat

theorem ascending_blankRanges : blankRanges.ascending = true := by
  decide

/-- Whether a character ends a line: the line feed and its relatives, of which
the carriage return is one. -/
def isLineBreak (c : Char) : Bool :=
  Ranges.contains [(0x0A, 0x0D), (0x1C, 0x1E), (0x85, 0x85), (0x2028, 0x2029)] c.toNat

/-- Drop the characters that satisfy a test from both ends. -/
def trimBoth (drop : Char → Bool) (text : List Char) : List Char :=
  ((text.dropWhile drop).reverse.dropWhile drop).reverse

/-- Drop the characters that satisfy a test from the end. -/
def trimEnd (drop : Char → Bool) (text : List Char) : List Char :=
  (text.reverse.dropWhile drop).reverse

/-- Drop white space from both ends. -/
def trim (text : List Char) : List Char :=
  trimBoth isBlank text

end GuardedInstall.Text
