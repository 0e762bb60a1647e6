import TableReport.Number.Binary64
/-!
# Rounding to the nearest number

The binary64 number nearest to a ratio of natural numbers, a tie going to the even significand. Since
the patterns of positive numbers are consecutive, the pattern is the rounded quotient plus an offset
for the power of two it is counted in.
-/
namespace TableReport

/-- The integer nearest to a quotient, a tie going to the even one. -/
def roundQuotient (n d : Nat) : Nat :=
  let q := n / d
  let r := n % d
  if 2 * r < d then q else if d < 2 * r then q + 1 else q + q % 2

namespace Binary64

/-- The exponent of the power of two just below a positive ratio. -/
def floorLog2 (n d : Nat) : Int :=
  let guess : Int := (Nat.log2 n : Int) - Nat.log2 d
  let reached :=
    if 0 ≤ guess then d * Nat.pow 2 guess.toNat ≤ n else d ≤ n * Nat.pow 2 (-guess).toNat
  if reached then guess else guess - 1

/-- The magnitude of the number nearest to a ratio with positive denominator. -/
def nearestMagnitude (n d : Nat) : Nat :=
  if n = 0 then 0
  else
    let unit := max (floorLog2 n d - 52) (-1074)
    let steps :=
      if 0 ≤ unit then roundQuotient n (d * Nat.pow 2 unit.toNat)
      else roundQuotient (n * Nat.pow 2 (-unit).toNat) d
    min ((unit + 1074).toNat * Nat.pow 2 52 + steps) infinityMagnitude

def ofNat (n : Nat) : Binary64 :=
  ofMagnitude false (nearestMagnitude n 1)

def ofInt (i : Int) : Binary64 :=
  ofMagnitude (i < 0) (nearestMagnitude i.natAbs 1)

def ofInt64 (i : Int64) : Binary64 := ofInt i.toInt

/-- The number nearest to a natural number times a power of ten. Beyond the range of finite numbers
the power is not computed. -/
def ofDecimal (negative : Bool) (n : Nat) (scale : Int) : Binary64 :=
  let places : Int := (Nat.toDigits 10 n).length
  if n = 0 then ofMagnitude negative 0
  else if scale + places > 400 then infinity negative
  else if scale + places < -400 then ofMagnitude negative 0
  else if 0 ≤ scale then ofMagnitude negative (nearestMagnitude (n * Nat.pow 10 scale.toNat) 1)
  else ofMagnitude negative (nearestMagnitude n (Nat.pow 10 (-scale).toNat))

/-- A number rounded to an integer, a half away from zero; the sign stays. -/
def round (x : Binary64) : Binary64 :=
  if x.isFinite then ofMagnitude x.isNegative (nearestMagnitude x.wholeNearest 1) else x

instance : NatCast Binary64 := ⟨ofNat⟩

/-- A finite number rounded to two decimal places, a half away from zero. -/
def roundToCents (x : Binary64) : Binary64 :=
  if x.isFinite then (x * ofNat 100).round / ofNat 100 else x

end Binary64

end TableReport
