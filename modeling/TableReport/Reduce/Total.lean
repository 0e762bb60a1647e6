import TableReport.Table.Error
/-!
# Totals and extremes of a column

Integer columns are added exactly, and only the final total has to be a 64-bit integer; all other
columns are added as binary64 numbers from left to right.
-/
namespace TableReport

inductive Total where
  | int (sum : Int)
  | float (sum : Binary64)
deriving DecidableEq

namespace Total

def start : ColumnType → Total
  | .int64 => .int 0
  | _ => .float 0

/-- The total with one more cell; a cell that is missing or does not suit the total is passed over. -/
def add : Total → Cell → Total
  | .int sum, .int v => .int (sum + v.toInt)
  | .float sum, .float v => if v.isNaN then .float sum else .float (sum + v)
  | .float sum, .int v => .float (sum + Binary64.ofInt64 v)
  | total, _ => total

def finish (column : String) : Total → Except ColumnError Cell
  | .int sum => if fitsInt64 sum then .ok (.int (Int64.ofInt sum)) else .error (.overflow column)
  | .float sum => .ok (.float sum)

def ofCells (type : ColumnType) (cells : List Cell) : Total :=
  cells.foldl add (start type)

end Total

namespace Table

def total (t : Table) (i : Nat) : Except ColumnError Cell :=
  (Total.ofCells (t.typeAt i) (t.column i)).finish (t.nameAt i)

/-- The total of a column as a number; zero without values. -/
def sum (t : Table) (i : Nat) : Except ColumnError Binary64 :=
  (t.total i).map fun c => c.number?.getD 0

def count (t : Table) (i : Nat) : Nat := (t.present i).length

/-- The total divided by the number of present cells, if there are any. -/
def mean (t : Table) (i : Nat) : Except ColumnError (Option Binary64) :=
  if t.count i = 0 then .ok none
  else (t.sum i).map fun s => some (s / Binary64.ofNat (t.count i))

/-- The first of the cells for which no later one is further in a direction. -/
def extreme (further : Ordering) : List Cell → Option Cell
  | [] => none
  | c :: rest =>
    some (rest.foldl (fun best d => if d.order? best = some further then d else best) c)

end Table

inductive Reduction where
  | count
  | countPresent
  | sum
  | min
  | max
  | mean
deriving DecidableEq, Repr

namespace Reduction

/-- The operation that a reduction is called in messages. -/
def name : Reduction → String
  | .count => "count"
  | .countPresent => "count_non_null"
  | .sum => "sum"
  | .min => "min"
  | .max => "max"
  | .mean => "mean"

def all : List Reduction := [.count, .countPresent, .sum, .min, .max, .mean]

end Reduction

def Cell.ofCount (n : Nat) : Cell := .int (Int64.ofNat n)

/-- A column, given by name, reduced to a cell; sums and means need a numeric column. -/
def Table.reduce (t : Table) (column : String) (reduction : Reduction) : Except ColumnError Cell := do
  let i ← t.schema.lookUp .plain column
  match reduction with
  | .count => .ok (.ofCount t.size)
  | .countPresent => .ok (.ofCount (t.count i))
  | .min => .ok ((Table.extreme .lt (t.present i)).getD .null)
  | .max => .ok ((Table.extreme .gt (t.present i)).getD .null)
  | .sum =>
    if (t.typeAt i).isNumeric then t.total i
    else .error (.notNumeric column (t.typeAt i) reduction.name)
  | .mean =>
    if (t.typeAt i).isNumeric then (t.mean i).map fun m => (m.map Cell.float).getD .null
    else .error (.notNumeric column (t.typeAt i) reduction.name)

end TableReport
