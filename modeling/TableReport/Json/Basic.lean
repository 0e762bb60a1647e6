import TableReport.Number.Binary64
/-!
# JSON values

Objects keep their members in order, and no name twice: a later value takes the place of an earlier one
of the same name.
-/
namespace TableReport

/-- A JSON value. Integers are those of 64 bits with or without a sign; every other number is a
binary64 one. -/
inductive Json where
  | null
  | bool (v : Bool)
  | int (v : Int)
  | float (v : Binary64)
  | text (v : String)
  | list (items : List Json)
  | object (members : List (String × Json))

namespace Json

/-- The members of an object. -/
abbrev Members := List (String × Json)

namespace Members

/-- Puts a member at the place of the one of the same name, or at the end. -/
def put : Members → String → Json → Members
  | [], name, v => [(name, v)]
  | (n, w) :: rest, name, v =>
    if n == name then (n, v) :: rest else (n, w) :: put rest name v

/-- The value of the member with a name. -/
def get? (members : Members) (name : String) : Option Json :=
  (members.find? (·.1 == name)).map Prod.snd

/-- Members put one after the other into an empty object. -/
def ofList (pairs : List (String × Json)) : Members :=
  pairs.foldl (fun ms p => put ms p.1 p.2) []

end Members

/-- The object with the given members, later ones replacing earlier ones of the same name. -/
def ofPairs (pairs : List (String × Json)) : Json := .object (Members.ofList pairs)

/-- A natural number. -/
def ofNat (n : Nat) : Json := .int n

/-- A finite number, or null. -/
def ofBinary64 (x : Binary64) : Json := if x.isFinite then .float x else .null

/-- A finite number, or null for none and for other numbers. -/
def ofBinary64? (x : Option Binary64) : Json := x.elim .null ofBinary64

/-- A list of texts. -/
def ofTexts (ts : List String) : Json := .list (ts.map .text)

def isNull : Json → Bool
  | .null => true
  | _ => false

/-- The members of an object. -/
def members? : Json → Option Members
  | .object ms => some ms
  | _ => none

end Json

end TableReport
