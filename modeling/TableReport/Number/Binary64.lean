import TableReport.Number.Range
/-!
# Double-precision numbers

A number is its bit pattern, so equality is identity of patterns and the total order on patterns is an
order on integers. Sums, products, quotients and roots are those of IEEE 754.
-/
namespace TableReport

/-- A binary64 number, kept as its bit pattern. -/
structure Binary64 where
  bits : UInt64
deriving DecidableEq

namespace Binary64

/-- The magnitude of infinity; larger ones belong to NaN. -/
def infinityMagnitude : Nat := 2047 * Nat.pow 2 52

/-- The pattern without its sign bit. -/
def magnitude (x : Binary64) : Nat :=
  x.bits.toNat % Nat.pow 2 63

def isNegative (x : Binary64) : Bool :=
  Nat.pow 2 63 ≤ x.bits.toNat

/-- The number with a given sign and magnitude. -/
def ofMagnitude (negative : Bool) (m : Nat) : Binary64 :=
  ⟨UInt64.ofNat (if negative then Nat.pow 2 63 + m else m)⟩

def isNaN (x : Binary64) : Bool :=
  infinityMagnitude < x.magnitude

def isFinite (x : Binary64) : Bool :=
  x.magnitude < infinityMagnitude

def isZero (x : Binary64) : Bool :=
  x.magnitude == 0

/-- The NaN that stands for all of them. -/
def nan : Binary64 := ofMagnitude false (4095 * Nat.pow 2 51)

def infinity (negative : Bool) : Binary64 := ofMagnitude negative infinityMagnitude

def neg (x : Binary64) : Binary64 := ofMagnitude (!x.isNegative) x.magnitude

def abs (x : Binary64) : Binary64 := ofMagnitude false x.magnitude

/-- The place of a pattern in the total order: negative numbers first, then positive ones, each zero
and each NaN at its own place. -/
def rank (x : Binary64) : Int :=
  if x.isNegative then -(x.magnitude : Int) - 1 else x.magnitude

def totalOrder (x y : Binary64) : Ordering :=
  compare x.rank y.rank

/-- The magnitude with its sign; both zeros have the same. -/
def signedMagnitude (x : Binary64) : Int :=
  if x.isNegative then -(x.magnitude : Int) else x.magnitude

/-- The numeric order: the zeros are equal, and NaN is not comparable with anything. -/
def order? (x y : Binary64) : Option Ordering :=
  if x.isNaN || y.isNaN then none else some (compare x.signedMagnitude y.signedMagnitude)

def less (x y : Binary64) : Bool := x.order? y == some .lt

/-- A finite number is its significand times two to its exponent, up to the sign. -/
def significand (x : Binary64) : Nat :=
  let fraction := x.magnitude % Nat.pow 2 52
  if x.magnitude < Nat.pow 2 52 then fraction else Nat.pow 2 52 + fraction

/-- The power of two that goes with the significand. -/
def exponent (x : Binary64) : Int :=
  if x.magnitude < Nat.pow 2 52 then -1074 else (x.magnitude / Nat.pow 2 52 : Nat) - 1075

/-- The part of the absolute value of a finite number that is a natural number. -/
def wholePart (x : Binary64) : Nat :=
  if 0 ≤ x.exponent then x.significand * Nat.pow 2 x.exponent.toNat
  else x.significand / Nat.pow 2 (-x.exponent).toNat

def isWhole (x : Binary64) : Bool :=
  x.isFinite && (0 ≤ x.exponent || x.significand % Nat.pow 2 (-x.exponent).toNat == 0)

/-- The least integer that is not below the absolute value of a finite number. -/
def wholeAbove (x : Binary64) : Nat :=
  if x.isWhole then x.wholePart else x.wholePart + 1

/-- The absolute value of a finite number rounded to an integer, a half upwards. -/
def wholeNearest (x : Binary64) : Nat :=
  if 0 ≤ x.exponent then x.wholePart
  else (2 * x.significand + Nat.pow 2 (-x.exponent).toNat) / Nat.pow 2 ((-x.exponent).toNat + 1)

/-- The integer with the sign of a number and a given absolute value. -/
def withSign (x : Binary64) (n : Nat) : Int :=
  if x.isNegative then -(n : Int) else n

/-- An integer cut to the range of 64-bit integers. -/
def clampInt64 (i : Int) : Int64 :=
  Int64.ofInt (max lowestInt64 (min highestInt64 i))

/-- The 64-bit integer nearest to a number towards zero; NaN gives zero, and what is out of range gives
the end of the range. -/
def truncate (x : Binary64) : Int64 :=
  if x.isNaN then 0
  else if x.isFinite then clampInt64 (x.withSign x.wholePart)
  else if x.isNegative then Int64.minValue else Int64.maxValue

def toFloat (x : Binary64) : Float := Float.ofBits x.bits

def ofFloat (f : Float) : Binary64 := ⟨f.toBits⟩

def add (x y : Binary64) : Binary64 := ofFloat (x.toFloat + y.toFloat)

def sub (x y : Binary64) : Binary64 := ofFloat (x.toFloat - y.toFloat)

def mul (x y : Binary64) : Binary64 := ofFloat (x.toFloat * y.toFloat)

def div (x y : Binary64) : Binary64 := ofFloat (x.toFloat / y.toFloat)

def sqrt (x : Binary64) : Binary64 := ofFloat x.toFloat.sqrt

instance : Zero Binary64 := ⟨ofMagnitude false 0⟩
instance : Neg Binary64 := ⟨neg⟩
instance : Add Binary64 := ⟨add⟩
instance : Sub Binary64 := ⟨sub⟩
instance : Mul Binary64 := ⟨mul⟩
instance : Div Binary64 := ⟨div⟩

/-- A number with negative zero folded into zero and every NaN into one. -/
def canonical (x : Binary64) : Binary64 :=
  if x.isNaN then nan else if x.isZero then 0 else x

end Binary64

end TableReport
