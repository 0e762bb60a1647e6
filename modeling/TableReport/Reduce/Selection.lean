import TableReport.Condition.Predicate
/-!
# Rows that satisfy a condition
-/
namespace TableReport

/-- How many rows a condition selects, and the first of them. -/
structure Selection where
  matching : Nat
  total : Nat
  /-- The share of matching rows in percent; zero for no rows. -/
  percentage : Binary64
  sample : List Row
deriving DecidableEq

def percentOf (matching total : Nat) : Binary64 :=
  if total = 0 then 0
  else Binary64.ofNat matching / Binary64.ofNat total * Binary64.ofNat 100

def Table.select (t : Table) (p : Predicate) (sample : Nat) : Selection :=
  let rows := (t.filter (p.test ·)).rows
  ⟨rows.length, t.size, percentOf rows.length t.size, rows.take sample⟩

end TableReport
