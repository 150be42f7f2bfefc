import GuardedInstall.Text.Composition
import GuardedInstall.Text.Direction
import GuardedInstall.Text.Joining
import GuardedInstall.Text.LabelChar
import GuardedInstall.Text.Mark
import GuardedInstall.Text.Punycode
import GuardedInstall.Text.Script

/-!
# Labels of names

A label of a host name beyond ASCII holds letters, marks, digits and hyphens. It
is composed and begins with no mark; hyphens stand only where they cannot be
taken for a label that was written in ASCII; some signs need the right
neighbours; and a label that is written from right to left keeps to that
direction. The module checks labels and writes them in ASCII.
-/

namespace GuardedInstall.Analysis.Label

/-- What stands in front of a label that was written in ASCII. -/
def asciiMark : List Char := "xn--".toList

/-- Whether hyphens stand in a label only where they may. -/
def hyphensFit (label : List Char) : Bool :=
  label.head? != some '-' && label.getLast? != some '-' &&
    (label.drop 2).take 2 != ['-', '-']

/-- The class of the marks that take the vowel from a letter. -/
def vowelKillerClass : Nat := 9

/-- Whether the last character before a place takes the vowel from its letter.
The characters come with the last one first. -/
def afterVowelKiller (before : List Char) : Bool :=
  before.head?.any fun c => Text.combiningClass c == vowelKillerClass

/-- Whether letters on both sides of a place join over it. The characters before
it come with the last one first. -/
def joinsOver (before after : List Char) : Bool :=
  ((before.dropWhile Text.isTransparent).head?.any Text.joinsAfter) &&
    ((after.dropWhile Text.isTransparent).head?.any Text.joinsBefore)

/-- Whether a character is a digit of Arabic. -/
def isArabicDigit (c : Char) : Bool :=
  '\u0660' ≤ c && c ≤ '\u0669'

/-- Whether a character is one of the other form of these digits. -/
def isExtendedDigit (c : Char) : Bool :=
  '\u06f0' ≤ c && c ≤ '\u06f9'

/-- Whether a character may stand at its place. The characters before it come
with the last one first. -/
def fits (before : List Char) (c : Char) (after : List Char) : Bool :=
  if c = '\u200c' then afterVowelKiller before || joinsOver before after
  else if c = '\u200d' then afterVowelKiller before
  else if c = '\u00b7' then before.head? == some 'l' && after.head? == some 'l'
  else if c = '\u0375' then after.head?.any Text.isGreek
  else if c = '\u05f3' ∨ c = '\u05f4' then before.head?.any Text.isHebrew
  else if c = '\u30fb' then (before ++ after).any Text.isJapanese
  else if isArabicDigit c then !(before ++ after).any isExtendedDigit
  else if isExtendedDigit c then !(before ++ after).any isArabicDigit
  else Text.isLabelChar c

/-- Whether every character of a text may stand at its place, given what comes
before the text with its last character first. -/
def allFit (before : List Char) : List Char → Bool
  | [] => true
  | c :: after => fits before c after && allFit (c :: before) after

/-- Whether a direction goes to the left. -/
def goesLeft (direction : Text.Direction) : Bool :=
  direction == .right || direction == .arabic || direction == .arabicDigit

/-- Whether the directions of a label agree. A label with a character that is
written from right to left begins with such a letter, has no letter of the other
direction and digits of one kind only, and ends in a letter or a digit, apart
from marks. -/
def directionsAgree (directions : List Text.Direction) : Bool :=
  !directions.any goesLeft ||
    (directions.head?.any fun first => first == .right || first == .arabic) &&
      !directions.contains .left &&
      !(directions.contains .digit && directions.contains .arabicDigit) &&
      ((directions.filter (· != .mark)).getLast?.any fun last => last != .neutral)

/-- Whether a text is a label. -/
def isLabel (text : List Char) : Bool :=
  text != [] && hyphensFit text && !text.head?.any Text.isMark && allFit [] text &&
    Text.isComposed text && directionsAgree (text.map Text.direction)

/-- Whether a text is the rest of a label that was written in ASCII, after its
mark. -/
def isWritten (text : List Char) : Bool :=
  text != [] && text.getLast? != some '-' && (Text.Punycode.decode? text).any isLabel

/-- The greatest length of a label in ASCII. -/
def lengthLimit : Nat := 63

/-- The ASCII form of a label. A label that is in ASCII already stays. -/
def toAscii? (label : List Char) : Option (List Char) :=
  let isPlain := label.all fun c => c.toNat < 0x80
  let isFit :=
    if isPlain && asciiMark.isPrefixOf label then isWritten (label.drop asciiMark.length)
    else isLabel label
  let written := if isPlain then label else asciiMark ++ Text.Punycode.encode label
  if isFit && written.length ≤ lengthLimit then some written else none

end GuardedInstall.Analysis.Label
