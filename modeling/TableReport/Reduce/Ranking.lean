import TableReport.Reduce.Sorting
import TableReport.Table.Basic
/-!
# Ranking rows by a column
-/
namespace TableReport

/-- Which rows come first in a ranking. -/
inductive Direction where
  | descending
  | ascending
deriving DecidableEq, Repr

def Direction.order : Direction → Cell → Cell → Ordering
  | .ascending, a, b => a.order b
  | .descending, a, b => (a.order b).swap

namespace Table

def rowsWith (t : Table) (i : Nat) : List Row := t.rows.filter fun row => !(row.cell i).isMissing

/-- Rows in the order of a column; rows that tie keep their order. -/
def sortRows (direction : Direction) (i : Nat) (rows : List Row) : List Row :=
  sortBy (fun a b => direction.order (a.cell i) (b.cell i)) rows

/-- The first rows in the order of a column; rows without a value there are left out. -/
def rank (t : Table) (i n : Nat) (direction : Direction) : List Row :=
  (sortRows direction i (t.rowsWith i)).take n

end Table

end TableReport
