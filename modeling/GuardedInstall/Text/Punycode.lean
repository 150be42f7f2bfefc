/-!
# Labels in ASCII

A text with characters beyond ASCII is written in ASCII: its ASCII characters
first, then, for each further character in the order of the code points, the
distance from the one before, counted over all places at which a character
could be put in. A distance is a number in base 36 whose digits have thresholds;
the thresholds follow the sizes of the distances so far. What is written can be
read again.
-/

namespace GuardedInstall.Text.Punycode

/-- The base of the digits. -/
def base : Nat := 36

/-- The digit of a value below the base: a letter, or a decimal digit. -/
def digit (value : Nat) : Char :=
  if value < 26 then Char.ofNat (97 + value) else Char.ofNat (22 + value)

/-- The threshold of the digit at a position, given the bias. -/
def threshold (bias position : Nat) : Nat :=
  if position ≤ bias then 1 else if bias + 26 ≤ position then 26 else position - bias

theorem one_le_threshold (bias position : Nat) : 1 ≤ threshold bias position := by
  unfold threshold
  split
  · exact Nat.le_refl 1
  · split
    · decide
    · omega

/-- The digits of a distance from a position on. The last digit is the one below
its threshold. -/
def digitsFrom (bias position distance : Nat) : List Char :=
  let least := threshold bias position
  if distance < least then [digit distance]
  else
    digit (least + (distance - least) % (base - least)) ::
      digitsFrom bias (position + base) ((distance - least) / (base - least))
termination_by distance
decreasing_by
  have positive := one_le_threshold bias position
  calc
    (distance - threshold bias position) / (base - threshold bias position) ≤
        distance - threshold bias position := Nat.div_le_self _ _
    _ < distance := by omega

/-- Bring a distance below 456, and count what was divided away. -/
def scale (distance count : Nat) : Nat × Nat :=
  if 455 < distance then scale (distance / 35) (count + base) else (distance, count)
termination_by distance
decreasing_by exact Nat.div_lt_self (by omega) (by decide)

/-- The bias after a distance. -/
def adapt (distance written : Nat) (isFirst : Bool) : Nat :=
  let halved := if isFirst then distance / 700 else distance / 2
  let (scaled, count) := scale (halved + halved / written) 0
  count + base * scaled / (scaled + 38)

/-- What has been written so far: the digits, the distance since the last
character, the bias, and the number of characters written. -/
structure Progress where
  digits : List Char
  distance : Nat
  bias : Nat
  written : Nat

/-- Pass over one place of the text while a code point is being written. -/
def visit (basic code : Nat) (progress : Progress) (c : Char) : Progress :=
  if c.toNat < code then { progress with distance := progress.distance + 1 }
  else if c.toNat = code then
    { digits := progress.digits ++ digitsFrom progress.bias base progress.distance
      distance := 0
      bias := adapt progress.distance (progress.written + 1) (progress.written == basic)
      written := progress.written + 1 }
  else progress

/-- Write the given code points, in ascending order, from a code point on. -/
def writeFrom (text : List Char) (basic : Nat) :
    (next : Nat) → List Nat → Progress → Progress
  | _, [], progress => progress
  | next, code :: later, progress =>
      let start :=
        { progress with
          distance := progress.distance + (code - next) * (progress.written + 1) }
      let done := text.foldl (visit basic code) start
      writeFrom text basic (code + 1) later { done with distance := done.distance + 1 }

/-- Put a code point in its place, unless it is there already. -/
def insertCode (code : Nat) : List Nat → List Nat
  | [] => [code]
  | next :: rest =>
      if code < next then code :: next :: rest
      else if code = next then next :: rest
      else next :: insertCode code rest

/-- The ASCII form of a text. -/
def encode (text : List Char) : List Char :=
  let isBasic (c : Char) : Bool := c.toNat < 0x80
  let basic := text.filter isBasic
  let codes := ((text.filter (!isBasic ·)).map Char.toNat).foldr insertCode []
  let progress := writeFrom text basic.length 0x80 codes ⟨[], 0, 72, basic.length⟩
  basic ++ (if basic = [] then [] else ['-']) ++ progress.digits

/-- The value of a digit, in either case. -/
def digitValue? (c : Char) : Option Nat :=
  if c.isDigit then some (c.toNat - 22)
  else if c.isLower then some (c.toNat - 97)
  else if c.isUpper then some (c.toNat - 65)
  else none

/-- The distance that digits write from a position on, and what follows them. The
weight is that of the first digit. -/
def distance? (bias position weight : Nat) : List Char → Option (Nat × List Char)
  | [] => none
  | c :: rest => do
      let value ← digitValue? c
      let least := threshold bias position
      if value < least then pure (value * weight, rest)
      else
        let (later, rest) ← distance? bias (position + base) (weight * (base - least)) rest
        pure (value * weight + later, rest)

/-- Read distances and put in their characters. The place and the code point are
those from which the next distance counts. Every distance takes a digit, so the
number of digits bounds the number of steps. -/
def readFrom (isFirst : Bool) (bias code place : Nat) (text : List Char) :
    Nat → List Char → Option (List Char)
  | _, [] => some text
  | 0, _ => none
  | steps + 1, digits => do
      let (distance, rest) ← distance? bias base 1 digits
      let size := text.length + 1
      let code := code + (place + distance) / size
      let place := (place + distance) % size
      if code.isValidChar then
        let text := text.take place ++ Char.ofNat code :: text.drop place
        readFrom false (adapt distance size isFirst) code (place + 1) text steps rest
      else none

/-- The text whose ASCII form is given. -/
def decode? (written : List Char) : Option (List Char) :=
  let digits := (written.reverse.takeWhile (· != '-')).reverse
  let basic := written.take (written.length - digits.length - 1)
  readFrom true 72 0x80 0 basic digits.length digits

end GuardedInstall.Text.Punycode
