import TableReport.Number.Layout
import TableReport.Text.Quoted
/-!
# Conditions

The tree of a filter condition: columns, literals, comparisons, and their combinations.
-/
namespace TableReport

inductive Comparison where
  | eq
  | ne
  | gt
  | ge
  | lt
  | le
deriving DecidableEq, Repr

namespace Comparison

/-- The sign of a comparison in a condition. -/
def symbol : Comparison → String
  | .eq => "=="
  | .ne => "!="
  | .gt => ">"
  | .ge => ">="
  | .lt => "<"
  | .le => "<="

def all : List Comparison := [.eq, .ne, .gt, .ge, .lt, .le]

/-- Whether a comparison holds of two cells in a given order. -/
def holds : Comparison → Ordering → Bool
  | .eq, o => o == .eq
  | .ne, o => o != .eq
  | .gt, o => o == .gt
  | .ge, o => o != .lt
  | .lt, o => o == .lt
  | .le, o => o != .gt

/-- The comparison that holds with the sides exchanged. -/
def swapped : Comparison → Comparison
  | .eq => .eq
  | .ne => .ne
  | .gt => .lt
  | .ge => .le
  | .lt => .gt
  | .le => .ge

end Comparison

inductive Literal where
  | int (v : Int64)
  | float (v : Binary64)
  | text (v : String)
  | bool (v : Bool)
deriving DecidableEq

/-- The text of a literal in messages. -/
def Literal.shown : Literal → String
  | .int v => s!"Int({v.toInt})"
  | .float v => s!"Float({v.text .shown})"
  | .text v => s!"Str({Text.quoted v})"
  | .bool v => s!"Bool({v})"

inductive Condition where
  | column (name : String)
  | literal (v : Literal)
  | compare (left : Condition) (op : Comparison) (right : Condition)
  | both (left right : Condition)
  | either (left right : Condition)
  | negation (inner : Condition)
deriving DecidableEq

end TableReport
