import TableReport.Table.Basic
/-!
# Correlation of two columns

The coefficient of Pearson over the rows where both columns have a number, and what it is called.
-/
namespace TableReport

/-- Sums of products of the deviations from the means. -/
structure Moments (α : Type) where
  covariance : α
  varianceX : α
  varianceY : α
deriving DecidableEq

/-- The mean of a list, which is not empty; the sum starts at the zero that adding anything leaves. -/
def average {α : Type} [Zero α] [Neg α] [Add α] [Div α] [NatCast α] (xs : List α) : α :=
  xs.foldl (· + ·) (-0) / (xs.length : α)

/-- The moments with one more pair, given the means. -/
def Moments.add {α : Type} [Add α] [Sub α] [Mul α] (meanX meanY : α) (m : Moments α) (p : α × α) :
    Moments α :=
  let dx := p.1 - meanX
  let dy := p.2 - meanY
  ⟨m.covariance + dx * dy, m.varianceX + dx * dx, m.varianceY + dy * dy⟩

def Moments.ofPairs {α : Type} [Zero α] [Neg α] [Add α] [Sub α] [Mul α] [Div α] [NatCast α]
    (pairs : List (α × α)) : Moments α :=
  let meanX := average (pairs.map Prod.fst)
  let meanY := average (pairs.map Prod.snd)
  pairs.foldl (Moments.add meanX meanY) ⟨0, 0, 0⟩

inductive Interpretation where
  | undefined
  | strongPositive
  | strongNegative
  | weak
  | moderate
deriving DecidableEq, Repr

namespace Interpretation

def label : Interpretation → String
  | .undefined => "undefined"
  | .strongPositive => "strong positive"
  | .strongNegative => "strong negative"
  | .weak => "weak"
  | .moderate => "moderate"

/-- Beyond seven tenths a coefficient is strong, and within three tenths it is weak. -/
def ofCoefficient? : Option Binary64 → Interpretation
  | none => .undefined
  | some r =>
    let strong := Binary64.ofDecimal false 7 (-1)
    if strong.less r then .strongPositive
    else if r.less (-strong) then .strongNegative
    else if r.abs.less (Binary64.ofDecimal false 3 (-1)) then .weak
    else .moderate

end Interpretation

/-- A coefficient and what it is called. It is absent with fewer than two pairs, and when a side does not
vary. -/
structure Correlation where
  coefficient : Option Binary64
  interpretation : Interpretation
deriving DecidableEq

/-- What a coefficient needs of numbers besides their arithmetic. -/
class Measured (α : Type) where
  sqrt : α → α
  isZero : α → Bool
  isFinite : α → Bool
  less : α → α → Bool

instance : Measured Binary64 := ⟨Binary64.sqrt, Binary64.isZero, Binary64.isFinite, Binary64.less⟩

namespace Correlation

def clampToUnit {α : Type} [Neg α] [NatCast α] [Measured α] (x : α) : α :=
  let one : α := ((1 : Nat) : α)
  if Measured.less x (-one) then -one else if Measured.less one x then one else x

def coefficient? {α : Type} [Neg α] [Mul α] [Div α] [NatCast α] [Measured α] (m : Moments α) : Option α :=
  let scale := Measured.sqrt (m.varianceX * m.varianceY)
  if Measured.isZero scale || !Measured.isFinite scale then none
  else
    let r := clampToUnit (m.covariance / scale)
    if Measured.isFinite r then some r else none

/-- The coefficient of pairs, of which there have to be two. -/
def coefficientOf? {α : Type} [Zero α] [Neg α] [Add α] [Sub α] [Mul α] [Div α] [NatCast α] [Measured α]
    (pairs : List (α × α)) : Option α :=
  if pairs.length < 2 then none else coefficient? (Moments.ofPairs pairs)

def ofPairs (pairs : List (Binary64 × Binary64)) : Correlation :=
  let r := coefficientOf? pairs
  ⟨r, Interpretation.ofCoefficient? r⟩

end Correlation

/-- The number of a cell, if it has one and it is not NaN. -/
def Cell.comparable? (c : Cell) : Option Binary64 :=
  c.number?.filter (!·.isNaN)

namespace Table

/-- The pairs of numbers in two columns, from the rows that have both. -/
def pairs (t : Table) (x y : Nat) : List (Binary64 × Binary64) :=
  t.rows.filterMap fun row => do
    let a ← (row.cell x).comparable?
    let b ← (row.cell y).comparable?
    some (a, b)

def correlate (t : Table) (x y : Nat) : Correlation := .ofPairs (t.pairs x y)

end Table

end TableReport
