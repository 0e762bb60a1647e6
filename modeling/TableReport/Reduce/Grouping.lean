import TableReport.Reduce.Sorting
import TableReport.Reduce.Total
/-!
# Totals by group

Rows are sorted by their key, and each run of equal keys is one group. Rows without a key are dropped,
and negative zero joins the group of zero.
-/
namespace TableReport

/-- The total of the rows that share a key. -/
structure Group where
  key : Cell
  total : Cell
deriving DecidableEq

namespace Group

/-- The key and the value of each row that has a key. -/
def entries (t : Table) (key value : Nat) : List (Cell × Cell) :=
  t.rows.filterMap fun row =>
    if (row.cell key).isMissing then none else some ((row.cell key).key, row.cell value)

/-- Entries in the order of their keys; equal keys keep the order of their rows. -/
def sortEntries (entries : List (Cell × Cell)) : List (Cell × Cell) :=
  sortBy (fun a b => a.1.order b.1) entries

/-- The runs of equal keys, each with the total of its values: the run that has begun, and those
after it. -/
def runs (type : ColumnType) (key : Cell) (total : Total) :
    List (Cell × Cell) → List (Cell × Total)
  | [] => [(key, total)]
  | (k, v) :: rest =>
    if key.order? k = some .eq then runs type key (total.add v) rest
    else (key, total) :: runs type k ((Total.start type).add v) rest

/-- The runs of equal keys in sorted entries. -/
def partition (type : ColumnType) : List (Cell × Cell) → List (Cell × Total)
  | [] => []
  | (k, v) :: rest => runs type k ((Total.start type).add v) rest

end Group

/-- The totals of one column by the values of another, in the order of the keys. -/
def Table.groupSum (t : Table) (key value : Nat) : Except ColumnError (List Group) :=
  (Group.partition (t.typeAt value) (Group.sortEntries (Group.entries t key value))).mapM
    fun (k, total) => (total.finish (t.nameAt value)).map (Group.mk k)

end TableReport
