import TableReport.Calendar.Reading
import TableReport.Condition.Compare
import TableReport.Condition.Parser
import TableReport.Table.Basic
/-!
# Conditions on the rows of a schema

A condition is bound to a schema by replacing the names in it by positions; everything that can be
wrong with it is found then, so testing a row cannot fail.
-/
namespace TableReport

inductive Operand where
  | column (i : Nat)
  | value (c : Cell)
deriving DecidableEq

inductive Predicate where
  | compare (left : Operand) (op : Comparison) (right : Operand)
  /-- The cell at a position is true. -/
  | holds (i : Nat)
  | constant (v : Bool)
  | both (left right : Predicate)
  | either (left right : Predicate)
  | negation (inner : Predicate)
deriving DecidableEq

namespace Condition

/-- What a condition is called where an operand is wanted. -/
def described : Condition → String
  | .column name => s!"column '{name}'"
  | .literal v => s!"literal {v.shown}"
  | .compare _ op _ => s!"a '{op.symbol}' comparison"
  | .both _ _ => "an 'and' expression"
  | .either _ _ => "an 'or' expression"
  | .negation _ => "a 'not' expression"

def lookUp (schema : Schema) (name : String) : Except ConditionError (Nat × ColumnType) :=
  match schema.indexOf? name with
  | some i => .ok (i, (schema.typeAt? i).getD .null)
  | none => .error (.unknownColumn name schema.names)

/-- The column type of an operand; literals have none. -/
def operandType (schema : Schema) : Condition → Except ConditionError (Option ColumnType)
  | .column name => (lookUp schema name).map (some ·.2)
  | .literal _ => .ok none
  | other => .error (.invalidOperand other.described)

/-- The cell of a literal. Opposite a column of dates, a text that denotes a date is that date. -/
def literalCell (opposite : Option ColumnType) : Literal → Cell
  | .int v => .int v
  | .float v => .float v
  | .bool v => .bool v
  | .text s =>
    if opposite = some .dateTime then ((readDateTime? s).map Cell.dateTime).getD (.text s)
    else .text s

/-- An operand bound to a schema, given the type of the other side. -/
def bindOperand (schema : Schema) (opposite : Option ColumnType) :
    Condition → Except ConditionError Operand
  | .column name => (lookUp schema name).map (.column ·.1)
  | .literal v => .ok (.value (literalCell opposite v))
  | other => .error (.invalidOperand other.described)

def bind (schema : Schema) : Condition → Except ConditionError Predicate
  | .both left right => do
    let l ← bind schema left
    let r ← bind schema right
    .ok (.both l r)
  | .either left right => do
    let l ← bind schema left
    let r ← bind schema right
    .ok (.either l r)
  | .negation inner => do
    let p ← bind schema inner
    .ok (.negation p)
  | .compare left op right => do
    let leftType ← operandType schema left
    let rightType ← operandType schema right
    let l ← bindOperand schema rightType left
    let r ← bindOperand schema leftType right
    .ok (.compare l op r)
  | .column name => do
    let (i, type) ← lookUp schema name
    if type = .bool then .ok (.holds i) else .error (.notBoolean name)
  | .literal (.bool v) => .ok (.constant v)
  | .literal v => .error (.notBoolean v.shown)

end Condition

namespace Operand

def cell (row : Row) : Operand → Cell
  | .column i => row.cell i
  | .value c => c

end Operand

namespace Predicate

def test (row : Row) : Predicate → Bool
  | .compare left op right => op.between (left.cell row) (right.cell row)
  | .holds i => row.cell i == .bool true
  | .constant v => v
  | .both left right => test row left && test row right
  | .either left right => test row left || test row right
  | .negation inner => !test row inner

def mask (p : Predicate) (t : Table) : List Bool := t.rows.map (p.test ·)

def compile (schema : Schema) (s : String) : Except ConditionError Predicate :=
  match Condition.parse s with
  | .ok tree => tree.bind schema
  | .error problem => .error (.grammar problem)

end Predicate

end TableReport
