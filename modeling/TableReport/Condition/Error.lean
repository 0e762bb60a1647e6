import TableReport.Condition.Token
/-!
# What can be wrong with a condition
-/
namespace TableReport

/-- Why a text is not a condition. -/
inductive GrammarProblem where
  | singleEquals
  | singleBang
  | unterminatedText
  | unterminatedName
  | emptyName
  | numberRunsOn (near : String)
  | invalidFloat (number : String)
  | invalidInteger (number : String)
  | unexpectedCharacter (c : Char)
  | emptyCondition
  | unexpectedToken (position : Nat) (token : Token)
  | unexpectedEnd
  | chainedComparison
  | unclosedParenthesis
deriving DecidableEq

def GrammarProblem.message : GrammarProblem → String
  | .singleEquals => "expected '==' but found single '='"
  | .singleBang => "expected '!=' but found single '!' (use 'not' for negation)"
  | .unterminatedText => "unterminated string literal"
  | .unterminatedName => "unterminated backtick identifier"
  | .emptyName => "empty backtick identifier"
  | .numberRunsOn near => s!"invalid number literal near '{near}'"
  | .invalidFloat number => s!"invalid float: {number}"
  | .invalidInteger number => s!"invalid integer: {number}"
  | .unexpectedCharacter c => s!"unexpected character: '{c}'"
  | .emptyCondition => "empty condition"
  | .unexpectedToken position token => s!"unexpected token at position {position}: {token.shown}"
  | .unexpectedEnd => "unexpected end of condition"
  | .chainedComparison => "chained comparisons are not supported; combine them with 'and'"
  | .unclosedParenthesis => "expected closing parenthesis"

/-- Why a text is not a condition on the rows of a schema. -/
inductive ConditionError where
  | grammar (problem : GrammarProblem)
  | unknownColumn (name : String) (available : List String)
  | notBoolean (operand : String)
  | invalidOperand (found : String)
deriving DecidableEq

def ConditionError.message : ConditionError → String
  | .grammar problem => s!"syntax error: {problem.message}"
  | .unknownColumn name available =>
    s!"unknown column '{name}'. Available: {Text.bracketed available}"
  | .notBoolean operand =>
    s!"'{operand}' is not a boolean expression; compare it with an operator such as '=='"
  | .invalidOperand found =>
    s!"comparison operands must be a column or a literal, found {found}"

end TableReport
