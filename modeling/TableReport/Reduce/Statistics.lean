import TableReport.Reduce.Percentile
import TableReport.Reduce.Sorting
import TableReport.Reduce.Total
/-!
# Descriptive statistics of a column
-/
namespace TableReport

/-- The statistics of a numeric column; what needs values is absent without them. -/
structure Statistics where
  count : Nat
  mean : Option Binary64
  /-- The standard deviation of a sample; it needs two values. -/
  deviation : Option Binary64
  min : Option Binary64
  lowerQuartile : Option Binary64
  median : Option Binary64
  upperQuartile : Option Binary64
  max : Option Binary64
deriving DecidableEq

def sortNumbers (xs : List Binary64) : List Binary64 :=
  sortBy Binary64.totalOrder xs

/-- The standard deviation of a sample around a mean. -/
def sampleDeviation (mean : Binary64) (xs : List Binary64) : Binary64 :=
  let squares := xs.foldl (fun sum x => sum + (x - mean) * (x - mean)) (-0)
  (squares / Binary64.ofNat (xs.length - 1)).sqrt

def Statistics.ofNumbers (mean : Option Binary64) (xs : List Binary64) : Statistics :=
  let quartiles := Quartiles.ofSorted (sortNumbers xs)
  { count := xs.length
    mean := mean
    deviation := if 1 < xs.length then mean.map (sampleDeviation · xs) else none
    min := quartiles.min
    lowerQuartile := quartiles.lower
    median := quartiles.median
    upperQuartile := quartiles.upper
    max := quartiles.max }

def Table.numbers (t : Table) (i : Nat) : List Binary64 :=
  ((t.column i).filterMap Cell.number?).filter (!·.isNaN)

def Table.describe (t : Table) (i : Nat) : Except ColumnError Statistics :=
  (t.mean i).map fun m => .ofNumbers m (t.numbers i)

end TableReport
