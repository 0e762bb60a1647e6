import TableReport.Json.Parser
import TableReport.Load.Error
import TableReport.Text.Blank
/-!
# JSON records

A text holds its records as an array, or as a single object, or with one value on each line. A dotted
path leads through nested objects, unless the object has a member of that very name.
-/
namespace TableReport.Json

/-- The values on the lines of a text. Blank lines are skipped. -/
def readLines (s : String) : Except ShapeProblem (List Json) :=
  let lines := ((Text.pieces '\n' s).map Text.trim).zipIdx 1
  (lines.filter (·.1 != "")).mapM fun (line, number) =>
    match parse? line with
    | some v => .ok v
    | none => .error (.invalidLine number)

/-- The records of a text. -/
def readRecords (input : String) : Except ShapeProblem (List Json) :=
  let s := Text.trim input
  if s == "" then .error .emptyJson
  else match parse? s with
    | some (.list items) => .ok items
    | some (.object members) => .ok [.object members]
    | some _ => .error .noRecords
    | none => readLines s

/-- The members of the record in a row. -/
def asRecord (v : Json) (row : Nat) : Except ShapeProblem Members :=
  match v.members? with
  | some members => .ok members
  | none => .error (.notAnObject row)

/-- What following names through nested objects leads to. -/
def follow? : Json → List String → Option Json
  | v, [] => some v
  | .object members, name :: names => (Members.get? members name).bind (follow? · names)
  | _, _ :: _ => none

/-- The member of a given name, or else the value at the end of a path of names with dots between
them. -/
def Members.atPath? (members : Members) (path : String) : Option Json :=
  match members.get? path with
  | some v => some v
  | none => follow? (.object members) (Text.pieces '.' path)

end TableReport.Json
