import TableReport.Number.Range
/-!
# Reading integers

An optional sign and decimal digits, read from left to right: the first character that is no digit, or
the first digit that leaves the range, is the one that is reported.
-/
namespace TableReport

/-- Why a text is no integer of the wanted range. -/
inductive IntegerProblem where
  | empty
  | invalidDigit
  | tooLarge
  | tooSmall
deriving DecidableEq, Repr

def IntegerProblem.message : IntegerProblem → String
  | .empty => "cannot parse integer from empty string"
  | .invalidDigit => "invalid digit found in string"
  | .tooLarge => "number too large to fit in target type"
  | .tooSmall => "number too small to fit in target type"

def digitValue (c : Char) : Nat := c.toNat - '0'.toNat

/-- The number that digits continue, counted downwards for a negative one. -/
def continueInteger (negative : Bool) (low high : Int) :
    Int → List Char → Except IntegerProblem Int
  | read, [] => .ok read
  | read, c :: rest =>
    if !c.isDigit then .error .invalidDigit
    else
      let next := if negative then read * 10 - digitValue c else read * 10 + digitValue c
      if high < next then .error .tooLarge
      else if next < low then .error .tooSmall
      else continueInteger negative low high next rest

/-- At least one digit. -/
def integerDigits (negative : Bool) (low high : Int) : List Char → Except IntegerProblem Int
  | [] => .error .invalidDigit
  | cs => continueInteger negative low high 0 cs

def readInt64 (s : String) : Except IntegerProblem Int64 :=
  let read : Except IntegerProblem Int := match s.toList with
    | [] => .error .empty
    | '-' :: cs => integerDigits true lowestInt64 highestInt64 cs
    | '+' :: cs => integerDigits false lowestInt64 highestInt64 cs
    | cs => integerDigits false lowestInt64 highestInt64 cs
  read.map Int64.ofInt

/-- The number of 64 bits without a sign that a text denotes. -/
def readCount (s : String) : Except IntegerProblem Nat :=
  let read : Except IntegerProblem Int := match s.toList with
    | [] => .error .empty
    | '+' :: cs => integerDigits false 0 highestWord cs
    | cs => integerDigits false 0 highestWord cs
  read.map Int.toNat

end TableReport
