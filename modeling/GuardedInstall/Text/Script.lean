import GuardedInstall.Text.Ranges

/-!
# Scripts

The scripts on which the place of some signs in a label depends. The tables are
for the characters of labels.
-/

namespace GuardedInstall.Text

/-- The code points of Greek characters. -/
def greekRanges : Ranges :=
  [(0x371, 0x3E1), (0x3F3, 0x3FC), (0x1D26, 0x1D2A), (0x1F00, 0x1FF6), (0xAB65, 0xAB65)]

/-- The code points of Hebrew characters. -/
def hebrewRanges : Ranges :=
  [(0x591, 0x5F4), (0xFB1E, 0xFB1E)]

/-- The code points of Hiragana characters. -/
def hiraganaRanges : Ranges :=
  [(0x3041, 0x3096), (0x309D, 0x309E), (0x1B001, 0x1B11F), (0x1B150, 0x1B152)]

/-- The code points of Katakana characters. -/
def katakanaRanges : Ranges :=
  [(0x30A1, 0x30FA), (0x30FD, 0x30FE), (0x31F0, 0x31FF), (0x1AFF0, 0x1B000), (0x1B120, 0x1B122),
   (0x1B164, 0x1B167)]

/-- The code points of Han characters. -/
def hanRanges : Ranges :=
  [(0x3005, 0x3005), (0x3007, 0x3007), (0x3400, 0x9FFF), (0xFA0E, 0xFA29), (0x16FE3, 0x16FE3),
   (0x16FF0, 0x16FF1), (0x20000, 0x3134A)]

/-- Whether a character is Greek. -/
def isGreek (c : Char) : Bool :=
  greekRanges.contains c.toNat

/-- Whether a character is Hebrew. -/
def isHebrew (c : Char) : Bool :=
  hebrewRanges.contains c.toNat

/-- Whether a character belongs to one of the scripts of Japanese. -/
def isJapanese (c : Char) : Bool :=
  hiraganaRanges.contains c.toNat || katakanaRanges.contains c.toNat ||
    hanRanges.contains c.toNat

end GuardedInstall.Text
