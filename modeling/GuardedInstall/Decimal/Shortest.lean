/-!
# The fewest digits that read back

A finite binary number is written with the fewest decimal digits that no
neighbour would claim. The reals that round to the number form an interval,
whose ends belong to it exactly when the mantissa is even. The digits are
searched for on the decimal grids of one digit, two digits, and so on: the
first grid with a point in the interval wins, and of two points the nearer.
-/

namespace GuardedInstall.Decimal

/-- A finite non-negative binary number, `mantissa * 2 ^ exponent`. -/
structure Binary where
  mantissa : Nat
  exponent : Int
  /-- The gap to the number below is half the gap to the number above. -/
  narrowBelow : Bool

/-- A decimal number, `digits * 10 ^ exponent`. -/
structure Scaled where
  digits : Nat
  exponent : Int
  deriving DecidableEq, Repr

/-- The magnitude that the bits of a finite double stand for. -/
def Binary.ofBits (bits : UInt64) : Binary :=
  let field := ((bits >>> 52) &&& 0x7FF).toNat
  let fraction := (bits &&& 0xFFFFFFFFFFFFF).toNat
  if field = 0 then ⟨fraction, -1074, false⟩
  else ⟨0x10000000000000 + fraction, (field : Int) - 1075, fraction == 0 && 1 < field⟩

/-- The power of a base. A negative exponent counts as zero. -/
def power (base : Nat) (exponent : Int) : Nat :=
  Nat.pow base exponent.toNat

/-- Compare `a * 10 ^ i` with `b * 2 ^ j`. -/
def compareScaled (a : Nat) (i : Int) (b : Nat) (j : Int) : Ordering :=
  compare (a * power 10 i * power 2 (-j)) (b * power 2 j * power 10 (-i))

/-- Whether a decimal lies among the reals that round to a binary number. -/
def Binary.claims (x : Binary) (d : Scaled) : Bool :=
  let below := if x.narrowBelow then 4 * x.mantissa - 1 else 4 * x.mantissa - 2
  let above := 4 * x.mantissa + 2
  let closed := x.mantissa % 2 == 0
  let low := compareScaled d.digits d.exponent below (x.exponent - 2)
  let high := compareScaled d.digits d.exponent above (x.exponent - 2)
  (low == .gt || (closed && low == .eq)) && (high == .lt || (closed && high == .eq))

/-- The greatest integer `n` with `n * 10 ^ scale` at most the binary number. -/
def Binary.floorAt (x : Binary) (scale : Int) : Nat :=
  (x.mantissa * power 2 x.exponent * power 10 (-scale)) /
    (power 10 scale * power 2 (-x.exponent))

/-- The nearer of two neighbouring grid points, an exact tie going to the even
one. -/
def Binary.nearer (x : Binary) (low : Nat) (scale : Int) : Nat :=
  match compareScaled (2 * low + 1) scale (2 * x.mantissa) x.exponent with
  | .lt => low + 1
  | .gt => low
  | .eq => if low % 2 = 0 then low else low + 1

/-- The point of a decimal grid that stands for the binary number, if either
neighbour does. -/
def Binary.onGrid (x : Binary) (scale : Int) : Option Scaled :=
  let low := x.floorAt scale
  match x.claims ⟨low, scale⟩, x.claims ⟨low + 1, scale⟩ with
  | true, true => some ⟨x.nearer low scale, scale⟩
  | true, false => some ⟨low, scale⟩
  | false, true => some ⟨low + 1, scale⟩
  | false, false => none

/-- The least power of ten above a positive binary number. The logarithm of the
mantissa gives an estimate from below that is at most two steps short. -/
def Binary.magnitude (x : Binary) : Int :=
  let estimate := ((x.mantissa.log2 : Int) + x.exponent) * 30103 / 100000 - 1
  let steps := (List.range 4).find? fun (step : Nat) =>
    compareScaled 1 (estimate + (step : Int)) x.mantissa x.exponent == .gt
  estimate + ((steps.getD 4 : Nat) : Int)

/-- Move the trailing zeros of the digits into the exponent. -/
def Scaled.strip : Nat → Scaled → Scaled
  | 0, d => d
  | fuel + 1, d =>
      if d.digits ≠ 0 ∧ d.digits % 10 = 0 then strip fuel ⟨d.digits / 10, d.exponent + 1⟩
      else d

/-- The exact decimal value of a binary number. -/
def Binary.exact (x : Binary) : Scaled :=
  if x.exponent < 0 then ⟨x.mantissa * power 5 (-x.exponent), x.exponent⟩
  else ⟨x.mantissa * power 2 x.exponent, 0⟩

/-- The shortest decimal that reads back to a positive binary number. Seventeen
digits always suffice; the exact value stands behind them. -/
def Binary.shortest (x : Binary) : Scaled :=
  let magnitude := x.magnitude
  let found := (List.range 17).findSome? fun (index : Nat) =>
    x.onGrid (magnitude - ((index : Int) + 1))
  (found.getD x.exact).strip 20

end GuardedInstall.Decimal
