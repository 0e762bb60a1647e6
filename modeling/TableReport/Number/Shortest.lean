import TableReport.Number.Binary64
/-!
# Shortest decimal digits

The fewest decimal digits that read back to the same number, and of those the nearest to it. A decimal
grid with a given number of digits is tried by the two grid points around the number; the grid with
the fewest digits that holds a point of the rounding interval decides.
-/
namespace TableReport

/-- Which of two equally near decimals is taken. -/
inductive Tie where
  | up
  | even
deriving DecidableEq, Repr

/-- A natural number times a power of ten. -/
structure Decimal where
  digits : Nat
  scale : Int
deriving DecidableEq, Repr

namespace Decimal

def text (d : Decimal) : List Char := Nat.toDigits 10 d.digits

/-- The power of ten of the first digit. -/
def leading (d : Decimal) : Int := d.scale + d.text.length - 1

end Decimal

namespace Binary64

/-- The reals that round to a number, counted in quarters of its last place: the ends, the number
itself, and whether the ends belong. -/
structure Interval where
  low : Nat
  middle : Nat
  high : Nat
  closed : Bool

/-- The interval around a finite nonzero number. Below a power of two the next number is only half a
step away. -/
def interval (x : Binary64) : Interval :=
  let m := x.significand
  let halfStep := x.magnitude % Nat.pow 2 52 == 0 && Nat.pow 2 53 ≤ x.magnitude
  ⟨4 * m - (if halfStep then 1 else 2), 4 * m, 4 * m + 2, m % 2 == 0⟩

/-- The least integer `k` such that the ratio is below ten to the `k`, for ratios in the range of finite
numbers. -/
def decimalPlaces (n d : Nat) (log2 : Int) : Int :=
  let reaches (k : Int) : Bool :=
    if 0 ≤ k then d * Nat.pow 10 k.toNat ≤ n else d ≤ n * Nat.pow 10 (-k).toNat
  let guess := (log2 * 30103).fdiv 100000
  if reaches (guess + 1) then guess + 2 else if reaches guess then guess + 1 else guess

/-- The point of a decimal grid to show for the interval, if the grid has one in it. -/
def gridPoint? (tie : Tie) (i : Interval) (num den : Nat) : Option Nat :=
  let inside (c : Nat) : Bool :=
    if i.closed then i.low * num ≤ c * den && c * den ≤ i.high * num
    else i.low * num < c * den && c * den < i.high * num
  let below := i.middle * num / den
  let above := below + 1
  match inside below, inside above with
  | false, false => none
  | true, false => some below
  | false, true => some above
  | true, true =>
    let down := i.middle * num - below * den
    let up := above * den - i.middle * num
    if down < up then some below
    else if up < down then some above
    else match tie with
      | .up => some above
      | .even => some (if below % 2 == 0 then below else above)

/-- The shortest decimal that reads back to the absolute value of a finite nonzero number. -/
def shortest (tie : Tie) (x : Binary64) : Decimal :=
  let i := x.interval
  let e := x.exponent - 2
  let a := Nat.pow 2 e.toNat
  let d := Nat.pow 2 (-e).toNat
  let places := decimalPlaces (i.middle * a) d (Nat.log2 i.middle + e)
  let attempt (count : Nat) : Option Decimal :=
    let scale := places - count
    (gridPoint? tie i (a * Nat.pow 10 (-scale).toNat) (d * Nat.pow 10 scale.toNat)).map fun c =>
      if c = Nat.pow 10 count then ⟨1, places⟩ else ⟨c, scale⟩
  ((List.range 17).findSome? fun n => attempt (n + 1)).getD ⟨0, 0⟩

end Binary64

end TableReport
