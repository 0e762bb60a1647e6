import TableReport.Condition.Basic
import TableReport.Table.Cell
/-!
# Comparing cells in conditions

The order in which conditions compare cells: integers exactly, mixed numbers numerically, texts by
code points. A null side differs from everything and a NaN from every number; cells of different kinds
satisfy no comparison at all.
-/
namespace TableReport

inductive Relation where
  /-- Two values of one kind, in an order. -/
  | ordered (o : Ordering)
  /-- A side has no value, or is not comparable with any number. -/
  | unequal
  /-- Values of different kinds. -/
  | unrelated
deriving DecidableEq, Repr

namespace Relation

/-- The relation of two numbers, NaN being comparable with none. -/
def ofNumbers (a b : Binary64) : Relation :=
  match a.order? b with
  | some o => .ordered o
  | none => .unequal

def ofCells : Cell → Cell → Relation
  | .null, _ => .unequal
  | _, .null => .unequal
  | .int a, .int b => .ordered (compare a.toInt b.toInt)
  | .int a, .float b => ofNumbers (Binary64.ofInt64 a) b
  | .float a, .int b => ofNumbers a (Binary64.ofInt64 b)
  | .float a, .float b => ofNumbers a b
  | .text a, .text b => .ordered (compare a b)
  | .bool a, .bool b => .ordered (Cell.boolOrder a b)
  | .dateTime a, .dateTime b => .ordered (a.order b)
  | _, _ => .unrelated

def satisfies (op : Comparison) : Relation → Bool
  | .ordered o => op.holds o
  | .unequal => op == .ne
  | .unrelated => false

end Relation

def Comparison.between (op : Comparison) (a b : Cell) : Bool :=
  (Relation.ofCells a b).satisfies op

end TableReport
