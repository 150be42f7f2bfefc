import GuardedInstall.Decimal.Shortest

/-!
# How a number is written

A floating-point number is written with the fewest digits that identify it,
positionally between 0.0001 and 10 to the sixteenth, and outside of that with a
signed exponent of at least two digits. A whole number keeps a point and a
zero, so that it can be told from an integer.
-/

namespace GuardedInstall.Decimal

/-- The decimal digits of a natural number. -/
def digitsOf (n : Nat) : List Char :=
  Nat.toDigits 10 n

/-- An integer in decimal. -/
def integerText (n : Int) : List Char :=
  if n < 0 then '-' :: digitsOf n.natAbs else digitsOf n.natAbs

/-- Digits with a point inside, after or before them. The point stands behind
the first `place` digits, where `place` may be beyond either end. -/
def positional (digits : List Char) (place : Int) : List Char :=
  if place ≤ 0 then '0' :: '.' :: List.replicate (-place).toNat '0' ++ digits
  else if digits.length ≤ place.toNat then
    digits ++ List.replicate (place.toNat - digits.length) '0' ++ ['.', '0']
  else digits.take place.toNat ++ '.' :: digits.drop place.toNat

/-- Digits with one of them before the point, and the exponent of ten. -/
def scientific (digits : List Char) (exponent : Int) : List Char :=
  let leading := match digits with
    | first :: second :: rest => first :: '.' :: second :: rest
    | short => short
  let magnitude := digitsOf exponent.natAbs
  let padded := if magnitude.length < 2 then '0' :: magnitude else magnitude
  leading ++ 'e' :: (if exponent < 0 then '-' else '+') :: padded

/-- Lay out a positive decimal. -/
def Scaled.layout (d : Scaled) : List Char :=
  let digits := digitsOf d.digits
  let place := (digits.length : Int) + d.exponent
  if -4 < place ∧ place ≤ 16 then positional digits place
  else scientific digits (place - 1)

/-- The text of a floating-point number. -/
def realText (x : Float) : List Char :=
  if x.isNaN then "nan".toList
  else
    let sign := if x.toBits >>> 63 == 1 then ['-'] else []
    let size :=
      if x.isInf then "inf".toList
      else
        let binary := Binary.ofBits (x.toBits &&& 0x7FFFFFFFFFFFFFFF)
        if binary.mantissa = 0 then "0.0".toList else binary.shortest.layout
    sign ++ size

/-- The whole part of a finite floating-point number. -/
def wholePart (x : Float) : Int :=
  let binary := Binary.ofBits (x.toBits &&& 0x7FFFFFFFFFFFFFFF)
  let size := binary.mantissa * power 2 binary.exponent / power 2 (-binary.exponent)
  if x.toBits >>> 63 == 1 then -(size : Int) else size

/-- The floating-point number nearest to an integer, unless it is too large to
have one. -/
def realOfInteger? (n : Int) : Option Float :=
  let size := Float.ofScientific n.natAbs false 0
  if size.isInf then none else some (if n < 0 then -size else size)

end GuardedInstall.Decimal
