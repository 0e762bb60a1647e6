import TableReport.Table.Cell
/-!
# What source values look like

Every value that is not missing is of one kind, and the kinds in a column determine the narrowest type
that holds all of its values.
-/
namespace TableReport

/-- What a value looks like. -/
inductive CellKind where
  /-- An integer of 64 bits. -/
  | int
  /-- Any other number. -/
  | float
  | bool
  /-- A date, or a date with a time. -/
  | dateTime
  /-- Anything else. -/
  | text
deriving DecidableEq, Repr

/-- The narrowest type that holds values of all the kinds; without any kinds, the type without
values. -/
def ColumnType.ofKinds (kinds : List CellKind) : ColumnType :=
  let seen (kind : CellKind) : Bool := kinds.contains kind
  match seen .int || seen .float, seen .bool, seen .dateTime, seen .text with
  | false, false, false, false => .null
  | true, false, false, false => if seen .float then .float64 else .int64
  | false, true, false, false => .bool
  | false, false, true, false => .dateTime
  | _, _, _, _ => .utf8

end TableReport
