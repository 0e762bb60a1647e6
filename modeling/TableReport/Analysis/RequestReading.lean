import TableReport.Analysis.Request
import TableReport.Json.Parser
import TableReport.Json.Printer
/-!
# Reading requests

A request as a JSON object of its fields, or as an array of them in order. What is left out or null
takes its default. The first problem in the order of the text is the one that is reported.
-/
namespace TableReport

/-- Why a JSON value is not a request. -/
inductive RequestProblem where
  | unknownField (name : String)
  | duplicateField (name : String)
  | negativeCount (found : Int)
  | wrongType (found expected : String)
  | tooLong (length : Nat)
deriving DecidableEq

/-- A field of a request. -/
inductive RequestField where
  | operation
  | parameter (p : Parameter)
deriving DecidableEq

namespace RequestField

def name : RequestField → String
  | .operation => "operation"
  | .parameter p => p.name

/-- Every field, in order. -/
def all : List RequestField :=
  .operation :: [.column, .column1, .column2, .columns, .n, .groupBy, .aggregate, .condition].map
    RequestField.parameter

def ofName? (s : String) : Option RequestField := all.find? (·.name == s)

end RequestField

/-- The mark around names in messages. -/
private def marked (s : String) : String := "\x60" ++ s ++ "\x60"

def RequestProblem.message : RequestProblem → String
  | .unknownField name =>
    s!"unknown field {marked name}, expected one of " ++
      Text.commaList (RequestField.all.map fun f => marked f.name)
  | .duplicateField name => s!"duplicate field {marked name}"
  | .negativeCount found =>
    "invalid value: integer " ++ marked (toString found) ++ ", expected usize"
  | .wrongType found expected => s!"invalid type: {found}, expected {expected}"
  | .tooLong length => s!"invalid length {length}, expected fewer elements in array"

/-- Why a text is not a request. -/
inductive RequestError where
  | notJson
  | unfit (problem : RequestProblem)
deriving DecidableEq

/-- What a value is called where another kind is wanted. -/
def Json.described : Json → String
  | .null => "null"
  | .bool v => "boolean " ++ marked (if v then "true" else "false")
  | .int v => "integer " ++ marked (toString v)
  | .float v => "floating point " ++ marked (v.text .json)
  | .text v => "string " ++ Text.quoted v
  | .list _ => "sequence"
  | .object _ => "map"

namespace Request

/-- The request of which nothing is given. -/
def empty : Request := { operation := "" }

/-- Puts a text, or nothing, into a field. -/
def setText (r : Request) (p : Parameter) (v : Option String) : Request :=
  match p with
  | .column => { r with column := v }
  | .column1 => { r with column1 := v }
  | .column2 => { r with column2 := v }
  | .columns => { r with columns := v }
  | .n => r
  | .groupBy => { r with groupBy := v }
  | .aggregate => { r with aggregate := v }
  | .condition => { r with condition := v }

/-- Puts a value into a field that it suits. -/
def set (r : Request) (field : RequestField) (v : Json) : Except RequestProblem Request :=
  match field, v with
  | .operation, .text s => .ok { r with operation := s }
  | .operation, other => .error (.wrongType other.described "a string")
  | .parameter .n, .null => .ok { r with n := none }
  | .parameter .n, .int i =>
    if i < 0 then .error (.negativeCount i) else .ok { r with n := some i.toNat }
  | .parameter .n, other => .error (.wrongType other.described "usize")
  | .parameter p, .null => .ok (r.setText p none)
  | .parameter p, .text s => .ok (r.setText p (some s))
  | .parameter _, other => .error (.wrongType other.described "a string")

/-- What a value is not when it is neither an object nor an array. -/
def notStructure (v : Json) : RequestProblem := .wrongType v.described "struct OperationRequest"

/-- The fields that the items of an array fill in order. -/
def ofItems : Request → List RequestField → List Json → Except RequestProblem Request
  | r, field :: fields, v :: vs => do ofItems (← r.set field v) fields vs
  | r, _, _ => .ok r

/-- The fields that the members of an object fill. -/
def ofMembers : Request → Json.Members → Except RequestProblem Request
  | r, [] => .ok r
  | r, (name, v) :: rest =>
    match RequestField.ofName? name with
    | none => .error (.unknownField name)
    | some field => do ofMembers (← r.set field v) rest

/-- The request that a JSON value denotes. -/
def ofJson (v : Json) : Except RequestProblem Request :=
  match v with
  | .object members => ofMembers .empty members
  | .list items => do
    let r ← ofItems .empty RequestField.all items
    if items.length ≤ RequestField.all.length then .ok r else .error (.tooLong items.length)
  | other => .error (notStructure other)

open Json (skipSpace readQuoted?)

/-- A value in the text of a request. No field takes an array or an object, so these are not read
beyond their first character. -/
def readFieldValue (cs : List Char) : Except RequestError (Json × List Char) :=
  match skipSpace cs with
  | '[' :: rest => .ok (.list [], rest)
  | '\x7b' :: rest => .ok (.object [], rest)
  | other =>
    match Json.readValue? other with
    | some found => .ok found
    | none => .error .notJson

/-- Puts the value at the front of the text into a field. -/
def readField (r : Request) (field : RequestField) (cs : List Char) :
    Except RequestError (Request × List Char) := do
  let (v, rest) ← readFieldValue cs
  match r.set field v with
  | .ok r => .ok (r, rest)
  | .error problem => .error (.unfit problem)

/-- The rest of an array, after its items so far; the fields are those still to fill. -/
def readItems (r : Request) (first : Bool) :
    List RequestField → List Char → Except RequestError (Request × List Char)
  | fields, cs =>
    match fields, skipSpace cs with
    | _, ']' :: rest => .ok (r, rest)
    | [], _ => .error .notJson
    | field :: fields, ',' :: rest =>
      if first || (skipSpace rest).head? == some ']' then .error .notJson
      else do
        let (r, rest) ← r.readField field rest
        readItems r false fields rest
    | field :: fields, rest =>
      if first then do
        let (r, rest) ← r.readField field rest
        readItems r false fields rest
      else .error .notJson

/-- The rest of an object, after its members so far; `seen` are the fields it has filled, and the
second argument bounds the number of members. -/
def readMembers (r : Request) (seen : List RequestField) (first : Bool) :
    Nat → List Char → Except RequestError (Request × List Char)
  | 0, _ => .error .notJson
  | fuel + 1, cs => do
    let member (cs : List Char) : Except RequestError (Request × List Char) :=
      match skipSpace cs with
      | '"' :: rest =>
        match readQuoted? rest with
        | none => .error .notJson
        | some (name, rest) =>
          match RequestField.ofName? name with
          | none => .error (.unfit (.unknownField name))
          | some field =>
            if seen.contains field then .error (.unfit (.duplicateField name))
            else
              match skipSpace rest with
              | ':' :: rest => do
                let (r, rest) ← r.readField field rest
                readMembers r (field :: seen) false fuel rest
              | _ => .error .notJson
      | _ => .error .notJson
    match skipSpace cs with
    | '\x7d' :: rest => .ok (r, rest)
    | ',' :: rest => if first then .error .notJson else member rest
    | rest => if first then member rest else .error .notJson

/-- The request that a JSON text denotes. -/
def readText (s : String) : Except RequestError Request := do
  let (r, rest) ← match skipSpace s.toList with
    | '[' :: rest => readItems .empty true RequestField.all rest
    | '\x7b' :: rest => readMembers .empty [] true (s.length + 1) rest
    | cs => do
      let (v, _) ← readFieldValue cs
      .error (.unfit (notStructure v))
  if (skipSpace rest).isEmpty then .ok r else .error .notJson

end Request

end TableReport
