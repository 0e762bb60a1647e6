import TableReport.Table.Basic
/-!
# Distinct values and repeated rows

Cells are told apart by their keys: null is one value, every NaN is one, and the zeros are one.
-/
namespace TableReport

/-- The number of distinct values of a column and the first of them. -/
structure DistinctValues where
  count : Nat
  values : List Cell
deriving DecidableEq

/-- The cells whose key is neither in the list nor that of an earlier cell. -/
def firstSeen : List Cell → List Cell → List Cell
  | _, [] => []
  | seen, c :: rest =>
    if seen.contains c.key then firstSeen seen rest else c :: firstSeen (c.key :: seen) rest

/-- Rows that have a twin: their number and the first of them. -/
structure RepeatedRows where
  count : Nat
  sample : List Row
deriving DecidableEq

def Row.keys (columns : List Nat) (row : Row) : List Cell := columns.map fun i => (row.cell i).key

namespace Table

/-- The distinct values of a column in the order in which they are first seen. -/
def unique (t : Table) (i limit : Nat) : DistinctValues :=
  let values := firstSeen [] (t.column i)
  ⟨values.length, values.take limit⟩

/-- The columns to compare rows by: the given ones, or all. -/
def comparedColumns (t : Table) (columns : List Nat) : List Nat :=
  if columns.isEmpty then List.range t.schema.width else columns

/-- The rows that agree with another row on the given columns, or on all when none are given. -/
def repeated (t : Table) (columns : List Nat) : List Row :=
  let columns := t.comparedColumns columns
  let keys := t.rows.map (Row.keys columns)
  t.rows.filter fun row => 1 < keys.count (row.keys columns)

def duplicates (t : Table) (columns : List Nat) (sample : Nat) : RepeatedRows :=
  let rows := t.repeated columns
  ⟨rows.length, rows.take sample⟩

end Table

end TableReport
