import TableReport.Condition.Basic
/-!
# Tokens of conditions
-/
namespace TableReport

inductive Token where
  | name (v : String)
  | literal (v : Literal)
  | comparison (op : Comparison)
  | openParen
  | closeParen
  | conjunction
  | disjunction
  | negation
deriving DecidableEq

namespace Token

/-- The text of a token in messages. -/
def shown : Token → String
  | .name v => s!"Ident({Text.quoted v})"
  | .literal v => v.shown
  | .comparison .eq => "EqEq"
  | .comparison .ne => "NotEq"
  | .comparison .gt => "Gt"
  | .comparison .ge => "Ge"
  | .comparison .lt => "Lt"
  | .comparison .le => "Le"
  | .openParen => "LParen"
  | .closeParen => "RParen"
  | .conjunction => "And"
  | .disjunction => "Or"
  | .negation => "Not"

/-- Tokens after which an operand comes, so that a minus sign begins a number. -/
def expectsOperand : Token → Bool
  | .name _ | .literal _ | .closeParen => false
  | _ => true

/-- The token of a bare word: a keyword, a truth value, or a name. -/
def ofWord (w : List Char) : Token :=
  match String.ofList w with
  | "and" => .conjunction
  | "or" => .disjunction
  | "not" => .negation
  | "true" | "True" => .literal (.bool true)
  | "false" | "False" => .literal (.bool false)
  | s => .name s

end Token

end TableReport
