import TableReport.Analysis.Error
import TableReport.Condition.Predicate
import TableReport.Reduce.Ranking
/-!
# Plans

A request is checked against a schema before any row is looked at. What passes is a plan: the
operation with positions in place of names, and a condition bound to the schema.
-/
namespace TableReport

/-- A request that has been checked against a schema. -/
inductive Plan where
  | info
  | rank (column n : Nat) (direction : Direction)
  | sum (column : Nat)
  | mean (column : Nat)
  | stats (column : Nat)
  | statsOfAll
  | groupBy (key aggregate : Nat)
  | filter (predicate : Predicate)
  | unique (column : Nat)
  | duplicates (columns : List Nat)
  | correlate (x y : Nat)
deriving DecidableEq

/-- Columns that numeric operations take: numeric ones, and those without values. -/
def ColumnType.isSummable (type : ColumnType) : Bool := type.isNumeric || type == .null

namespace Plan

/-- A parameter that the operation cannot do without. -/
def required (schema : Schema) (operation : Operation) (request : Request) (parameter : Parameter) :
    Except AnalysisError String :=
  match request.text? parameter with
  | some s => .ok s
  | none => .error (.missingParameter parameter operation schema.names)

/-- The position of a column. -/
def lookUp (schema : Schema) (role : ColumnRole) (name : String) : Except AnalysisError Nat :=
  (schema.lookUp role name).mapError .column

/-- Checks that a column can be added up. -/
def checkNumeric (schema : Schema) (operation : Operation) (i : Nat) : Except AnalysisError Unit :=
  match schema.fields[i]? with
  | none => .ok ()
  | some field =>
    if field.type.isSummable then .ok ()
    else .error (.column (.notNumeric field.name field.type operation.name))

/-- The position of the numeric column that a parameter names. -/
def numericColumn (schema : Schema) (operation : Operation) (request : Request)
    (parameter : Parameter) : Except AnalysisError Nat := do
  let name ← required schema operation request parameter
  let i ← lookUp schema .plain name
  checkNumeric schema operation i
  .ok i

/-- The plan of one operation. -/
def ofOperation (schema : Schema) (request : Request) (limits : Limits) (operation : Operation) :
    Except AnalysisError Plan :=
  match operation with
  | .info => .ok .info
  | .topN => do
    let i ← numericColumn schema operation request .column
    .ok (.rank i (request.n.getD limits.ranked) .descending)
  | .bottomN => do
    let i ← numericColumn schema operation request .column
    .ok (.rank i (request.n.getD limits.ranked) .ascending)
  | .sum => do
    let i ← numericColumn schema operation request .column
    .ok (.sum i)
  | .mean => do
    let i ← numericColumn schema operation request .column
    .ok (.mean i)
  | .stats =>
    if (request.text? .column).isSome then do
      let i ← numericColumn schema operation request .column
      .ok (.stats i)
    else if schema.fields.any (·.type.isNumeric) then .ok .statsOfAll
    else .error (.noNumericColumns schema.names)
  | .groupBy => do
    let keyName ← required schema operation request .groupBy
    let valueName ← required schema operation request .aggregate
    let key ← lookUp schema .group keyName
    let value ← lookUp schema .aggregate valueName
    checkNumeric schema operation value
    .ok (.groupBy key value)
  | .filter => do
    let condition ← required schema operation request .condition
    let predicate ← (Predicate.compile schema condition).mapError (.invalidCondition condition)
    .ok (.filter predicate)
  | .unique => do
    let name ← required schema operation request .column
    let i ← lookUp schema .plain name
    .ok (.unique i)
  | .duplicates => do
    let columns ← request.columnSubset.mapM (lookUp schema .plain)
    .ok (.duplicates columns)
  | .correlate => do
    let x ← numericColumn schema operation request .column1
    let y ← numericColumn schema operation request .column2
    .ok (.correlate x y)

/-- The operation that a request names, and its plan. -/
def ofRequest (schema : Schema) (request : Request) (limits : Limits) :
    Except AnalysisError (Operation × Plan) :=
  match Operation.ofName? request.operation with
  | none => .error (.unknownOperation request.operation)
  | some operation => (ofOperation schema request limits operation).map (operation, ·)

end Plan

end TableReport
