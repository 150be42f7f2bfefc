/-!
# Halves of pairs

Some formats write a character beyond the first plane as two code units, and let
one half of such a pair stand alone. A half is no character; a text holds it as
the code point that lies a fixed distance above its number, so that one type of
text serves all formats. The distance leads into a plane in which no character
is assigned and none is for private use: no character of any script, no sign and
no private character is taken for a half. What a text cannot hold beside the
halves are the code points from U+DD800 to U+DDFFF, which are no characters yet.
-/

namespace GuardedInstall.Text.Half

/-- The distance from the number of a half to the code point that holds it. -/
def distance : Nat := 0xD0000

/-- Whether a number is that of a first half. -/
def isHigh (unit : Nat) : Bool := 0xD800 ≤ unit && unit < 0xDC00

/-- Whether a number is that of a second half. -/
def isLow (unit : Nat) : Bool := 0xDC00 ≤ unit && unit < 0xE000

/-- Whether a number is that of a half. -/
def isUnit (unit : Nat) : Bool := isHigh unit || isLow unit

/-- The character with a number, or the one that holds a half. -/
def ofCode (code : Nat) : Char :=
  Char.ofNat (if isUnit code then distance + code else code)

/-- The number of the half that a character holds. -/
def unit? (c : Char) : Option Nat :=
  if isUnit (c.toNat - distance) then some (c.toNat - distance) else none

/-- Whether a character holds a half. -/
def isHalf (c : Char) : Bool :=
  (unit? c).isSome

/-- The number of a character, or of the half that it holds. -/
def code (c : Char) : Nat :=
  (unit? c).getD c.toNat

/-- The numbers of the characters of a text, and of the halves that it holds. -/
def codes (text : String) : List Nat :=
  text.toList.map code

/-- The character of the two halves of a pair. -/
def joined (high low : Nat) : Char :=
  Char.ofNat (0x10000 + (high - 0xD800) * 0x400 + (low - 0xDC00))

/-- The number of a character is that of a half that it holds, or its own. -/
theorem code_cases (c : Char) :
    (isUnit (code c) = true ∧ c.toNat = distance + code c) ∨
      (isUnit (code c) = false ∧ c.toNat = code c ∧ code c < 0x110000) := by
  have valid : c.toNat < 0xD800 ∨ 0xDFFF < c.toNat ∧ c.toNat < 0x110000 := c.valid
  by_cases holds : isUnit (c.toNat - distance) = true
  · left
    have number : code c = c.toNat - distance := by
      rw [code, unit?, if_pos holds, Option.getD_some]
    rw [number]
    refine ⟨holds, ?_⟩
    simp only [isUnit, isHigh, isLow, Bool.or_eq_true, Bool.and_eq_true, decide_eq_true_eq]
      at holds
    omega
  · right
    have number : code c = c.toNat := by
      rw [code, unit?, if_neg holds, Option.getD_none]
    rw [number]
    refine ⟨?_, rfl, ?_⟩
    · simp only [isUnit, isHigh, isLow, Bool.or_eq_false_iff, Bool.and_eq_false_iff,
        decide_eq_false_iff_not]
      omega
    · omega

theorem ofCode_code (c : Char) : ofCode (code c) = c := by
  rcases code_cases c with ⟨unit, number⟩ | ⟨noUnit, number, -⟩
  · rw [ofCode, if_pos unit, ← number, Char.ofNat_toNat]
  · rw [ofCode, if_neg (by simp [noUnit]), ← number, Char.ofNat_toNat]

end GuardedInstall.Text.Half
