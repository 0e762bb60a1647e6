import TableReport.Number.Nearest
/-!
# Percentiles

Linear interpolation between the two closest ranks of an ascending list, and the quartiles found by it. The
rule is written for any arithmetic, so that it can be read over exact numbers as well as over binary64 ones.
-/
namespace TableReport

/-- Rounding to a position in a list; what is below zero gives zero. -/
class Rounding (α : Type) where
  floor : α → Nat
  ceil : α → Nat

/-- Positions have 64 bits; what is beyond them gives the last one. -/
instance : Rounding Binary64 where
  floor x := if x.isNegative || x.isNaN then 0 else min x.wholePart highestWord
  ceil x := if x.isNegative || x.isNaN then 0 else min x.wholeAbove highestWord

def interpolate {α : Type} [Add α] [Sub α] [Mul α] [NatCast α] (a b share : α) : α :=
  a * (((1 : Nat) : α) - share) + b * share

def percentile {α : Type} [Add α] [Sub α] [Mul α] [NatCast α] [Rounding α] (sorted : List α) (q : α) :
    Option α :=
  match sorted with
  | [] => none
  | [x] => some x
  | _ =>
    let position := q * ((sorted.length - 1 : Nat) : α)
    let lower := Rounding.floor position
    let upper := Rounding.ceil position
    if lower = upper then sorted[lower]?
    else do
      let a ← sorted[lower]?
      let b ← sorted[upper]?
      some (interpolate a b (position - (lower : α)))

/-- The ends of an ascending list and the quartiles between them. -/
structure Quartiles (α : Type) where
  min : Option α
  lower : Option α
  median : Option α
  upper : Option α
  max : Option α

def Quartiles.ofSorted {α : Type} [Add α] [Sub α] [Mul α] [Div α] [NatCast α] [Rounding α]
    (sorted : List α) : Quartiles α :=
  let share (percent : Nat) : α := (percent : α) / ((100 : Nat) : α)
  { min := sorted.head?
    lower := percentile sorted (share 25)
    median := percentile sorted (share 50)
    upper := percentile sorted (share 75)
    max := sorted.getLast? }

end TableReport
