import TableReport.Condition.Lexer
/-!
# The grammar of conditions

Disjunctions of conjunctions of negations of comparisons, each side of a comparison being a name, a
literal or a condition in parentheses. Chains of `and` and of `or` nest to the left, and comparisons
do not chain. Each reader gives a tree with the tokens after it.
-/
namespace TableReport

namespace Condition

def comparison? : List Token → Option Comparison
  | .comparison op :: _ => some op
  | _ => none

mutual

/-- Conjunctions joined by `or`. The first argument is the number of tokens in the whole condition,
from which positions are told; the second bounds the number of steps. -/
def readEither (total : Nat) : Nat → List Token → Except GrammarProblem (Condition × List Token)
  | 0, _ => .error .unexpectedEnd
  | fuel + 1, ts => do
    let (left, rest) ← readBoth total fuel ts
    moreEither total fuel left rest

/-- Further conjunctions, each after an `or`. -/
def moreEither (total : Nat) :
    Nat → Condition → List Token → Except GrammarProblem (Condition × List Token)
  | fuel + 1, left, .disjunction :: ts => do
    let (right, rest) ← readBoth total fuel ts
    moreEither total fuel (.either left right) rest
  | _, left, ts => .ok (left, ts)

/-- Negations joined by `and`. -/
def readBoth (total : Nat) : Nat → List Token → Except GrammarProblem (Condition × List Token)
  | 0, _ => .error .unexpectedEnd
  | fuel + 1, ts => do
    let (left, rest) ← readNegation total fuel ts
    moreBoth total fuel left rest

/-- Further negations, each after an `and`. -/
def moreBoth (total : Nat) :
    Nat → Condition → List Token → Except GrammarProblem (Condition × List Token)
  | fuel + 1, left, .conjunction :: ts => do
    let (right, rest) ← readNegation total fuel ts
    moreBoth total fuel (.both left right) rest
  | _, left, ts => .ok (left, ts)

/-- A comparison after any number of `not`. -/
def readNegation (total : Nat) : Nat → List Token → Except GrammarProblem (Condition × List Token)
  | 0, _ => .error .unexpectedEnd
  | fuel + 1, .negation :: ts => do
    let (inner, rest) ← readNegation total fuel ts
    .ok (.negation inner, rest)
  | fuel + 1, ts => readComparison total fuel ts

/-- An operand, or two of them with a comparison between them. -/
def readComparison (total : Nat) : Nat → List Token → Except GrammarProblem (Condition × List Token)
  | 0, _ => .error .unexpectedEnd
  | fuel + 1, ts => do
    let (left, rest) ← readOperand total fuel ts
    match rest with
    | .comparison op :: rest => do
      let (right, rest) ← readOperand total fuel rest
      if (comparison? rest).isSome then .error .chainedComparison
      else .ok (.compare left op right, rest)
    | _ => .ok (left, rest)

/-- A name, a literal, or a condition in parentheses. -/
def readOperand (total : Nat) : Nat → List Token → Except GrammarProblem (Condition × List Token)
  | 0, _ => .error .unexpectedEnd
  | _ + 1, [] => .error .unexpectedEnd
  | _ + 1, .name v :: ts => .ok (.column v, ts)
  | _ + 1, .literal v :: ts => .ok (.literal v, ts)
  | fuel + 1, .openParen :: ts => do
    let (inner, rest) ← readEither total fuel ts
    match rest with
    | .closeParen :: rest => .ok (inner, rest)
    | _ => .error .unclosedParenthesis
  | _ + 1, t :: ts => .error (.unexpectedToken (total - (ts.length + 1)) t)

end

/-- Enough steps to read a number of tokens: at most five readers wait for each token. -/
def stepsFor (tokens : Nat) : Nat := 6 * (tokens + 1)

def ofTokens (ts : List Token) : Except GrammarProblem Condition := do
  if ts.isEmpty then .error .emptyCondition
  else
    let (tree, rest) ← readEither ts.length (stepsFor ts.length) ts
    match rest with
    | [] => .ok tree
    | t :: _ => .error (.unexpectedToken (ts.length - rest.length) t)

def parse (s : String) : Except GrammarProblem Condition := do
  ofTokens (← tokenize s)

end Condition

end TableReport
