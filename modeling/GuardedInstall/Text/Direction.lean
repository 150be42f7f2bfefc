import GuardedInstall.Text.Mark

/-!
# Directions

The direction in which a character is written, or what it counts as between
characters that have one. The tables are for the characters of labels.
-/

namespace GuardedInstall.Text

/-- The direction of a character. -/
inductive Direction where
  /-- Written from left to right. -/
  | left
  /-- Written from right to left. -/
  | right
  /-- Written from right to left, as the letters of Arabic are. -/
  | arabic
  /-- A digit, of those that all scripts share. -/
  | digit
  /-- A digit of Arabic. -/
  | arabicDigit
  /-- A mark, which goes with the character before it. -/
  | mark
  /-- No direction. -/
  | neutral
  deriving DecidableEq, Repr

/-- The code points of characters that are written from right to left. -/
def rightRanges : Ranges :=
  [(0x5D0, 0x5F4), (0x7C0, 0x7EA), (0x7F4, 0x7F5), (0x800, 0x815), (0x81A, 0x81A), (0x824, 0x824),
   (0x828, 0x828), (0x840, 0x858), (0x10800, 0x10A00), (0x10A10, 0x10A35), (0x10A60, 0x10AE4),
   (0x10B00, 0x10CF2), (0x10E80, 0x10EA9), (0x10EB0, 0x10F27), (0x10F70, 0x10F81),
   (0x10FB0, 0x10FF6), (0x1E800, 0x1E8C4), (0x1E922, 0x1E943), (0x1E94B, 0x1E959)]

/-- The code points of characters that are written as the letters of Arabic. -/
def arabicRanges : Ranges :=
  [(0x620, 0x64A), (0x66E, 0x66F), (0x671, 0x6D5), (0x6E5, 0x6E6), (0x6EE, 0x6EF), (0x6FA, 0x710),
   (0x712, 0x72F), (0x74D, 0x7A5), (0x7B1, 0x7B1), (0x860, 0x88E), (0x8A0, 0x8C9), (0xFE73, 0xFE73),
   (0x10D00, 0x10D23), (0x10F30, 0x10F45)]

/-- The code points of characters without a direction. -/
def neutralRanges : Ranges :=
  [(0x2D, 0x2D), (0xB7, 0xB7), (0x2B9, 0x2BA), (0x2C6, 0x2CF), (0x2EC, 0x2EC), (0x375, 0x375),
   (0x200C, 0x200D), (0x2E2F, 0x2E2F), (0x30FB, 0x30FB), (0xA67F, 0xA67F), (0xA717, 0xA71F),
   (0xA788, 0xA788)]

/-- The code points of digits that all scripts share. -/
def digitRanges : Ranges :=
  [(0x30, 0x39), (0x6F0, 0x6F9)]

/-- The code points of digits of Arabic. -/
def arabicDigitRanges : Ranges :=
  [(0x660, 0x669), (0x10D30, 0x10D39)]

/-- The direction of a character. -/
def direction (c : Char) : Direction :=
  if digitRanges.contains c.toNat then .digit
  else if neutralRanges.contains c.toNat then .neutral
  else if isNonspacing c then .mark
  else if arabicDigitRanges.contains c.toNat then .arabicDigit
  else if rightRanges.contains c.toNat then .right
  else if arabicRanges.contains c.toNat then .arabic
  else .left

end GuardedInstall.Text
