import TableReport.Analysis.Request
import TableReport.Number.Integer
/-!
# Command-line arguments

Two operands, a path and an operation, and options for the parameters of the operation. An option and
its value are two arguments, or one with an equals sign between them. After two dashes, everything is
an operand.
-/
namespace TableReport.CommandLine

/-- Options without a value. -/
inductive Switch where
  /-- Print the answer without blanks. -/
  | compact
  /-- Log debug messages too. -/
  | verbose
deriving DecidableEq, Repr

def Switch.name : Switch → String
  | .compact => "compact"
  | .verbose => "verbose"

/-- What is wrong with the arguments. -/
inductive UsageError where
  | unknownOption (argument : String)
  | missingValue (parameter : Parameter)
  | needlessValue (switch : Switch)
  | repeatedParameter (parameter : Parameter)
  | repeatedSwitch (switch : Switch)
  | missingOperand
  | needlessOperand (operand : String)
  | invalidCount (text : String)
deriving DecidableEq

def UsageError.message : UsageError → String
  | .unknownOption argument => s!"unexpected argument '{argument}'"
  | .missingValue parameter => s!"a value is required for '--{parameter.name}'"
  | .needlessValue switch => s!"no value is expected for '--{switch.name}'"
  | .repeatedParameter parameter => s!"'--{parameter.name}' is given more than once"
  | .repeatedSwitch switch => s!"'--{switch.name}' is given more than once"
  | .missingOperand => "a path and an operation are required"
  | .needlessOperand operand => s!"unexpected argument '{operand}'"
  | .invalidCount text => s!"invalid value '{text}' for '--n'"

/-- One thing that the arguments say. -/
inductive Item where
  | operand (s : String)
  | parameter (p : Parameter) (value : String)
  | switch (s : Switch)
deriving DecidableEq

/-- What an argument is, looked at by itself. -/
inductive ArgumentShape where
  | operand
  | endOfOptions
  | switches (found : List Switch)
  | attached (p : Parameter) (value : String)
  /-- A parameter whose value is the next argument. -/
  | detached (p : Parameter)
  | wrong (e : UsageError)

/-- The parameters that are options. -/
def parameters : List Parameter :=
  [.column, .column1, .column2, .columns, .n, .groupBy, .aggregate, .condition]

/-- The shape of an option with a name, and with what follows an equals sign if there is one. -/
def longShape (argument name : String) (value : Option String) : ArgumentShape :=
  match parameters.find? (·.name == name), value with
  | some p, some v => .attached p v
  | some p, none => .detached p
  | none, _ =>
    match [Switch.compact, .verbose].find? (·.name == name), value with
    | some s, none => .switches [s]
    | some s, some _ => .wrong (.needlessValue s)
    | none, _ => .wrong (.unknownOption argument)

/-- The characters before the first equals sign, and those after it. -/
def splitValue (cs : List Char) : String × Option String :=
  match cs.span (· != '=') with
  | (name, []) => (String.ofList name, none)
  | (name, _ :: value) => (String.ofList name, some (String.ofList value))

/-- The shape of an argument. A lone dash is an operand. -/
def shape (argument : String) : ArgumentShape :=
  match argument.toList with
  | ['-', '-'] => .endOfOptions
  | '-' :: '-' :: cs =>
    let (name, value) := splitValue cs
    longShape argument name value
  | '-' :: c :: cs =>
    if (c :: cs).all (· == 'v') then .switches ((c :: cs).map fun _ => .verbose)
    else .wrong (.unknownOption argument)
  | _ => .operand

/-- Whether an argument can be the value of the option before it. -/
def isValue (argument : String) : Bool :=
  match shape argument with
  | .operand => true
  | _ => false

/-- What the arguments say, in order. -/
def items : List String → Except UsageError (List Item)
  | [] => .ok []
  | argument :: rest =>
    match shape argument with
    | .operand => (items rest).map (.operand argument :: ·)
    | .endOfOptions => .ok (rest.map .operand)
    | .switches found => (items rest).map (found.map .switch ++ ·)
    | .attached p value => (items rest).map (.parameter p value :: ·)
    | .detached p =>
      match rest with
      | [] => .error (.missingValue p)
      | value :: rest =>
        if isValue value then (items rest).map (.parameter p value :: ·)
        else .error (.missingValue p)
    | .wrong e => .error e

/-- What a command line asks for. -/
structure Arguments where
  path : String
  operation : String
  parameters : Parameter → Option String
  /-- The number of ranked rows. -/
  n : Nat
  compact : Bool
  verbose : Bool

/-- The operands among the items. -/
def operands (found : List Item) : List String :=
  found.filterMap fun
    | .operand s => some s
    | _ => none

/-- The values that the items give to a parameter. -/
def valuesOf (found : List Item) (p : Parameter) : List String :=
  found.filterMap fun
    | .parameter q value => if q = p then some value else none
    | _ => none

/-- The number of times a switch is among the items. -/
def timesOf (found : List Item) (s : Switch) : Nat := found.count (.switch s)

/-- The path and the operation. -/
def readOperands (found : List Item) : Except UsageError (String × String) :=
  match operands found with
  | [path, operation] => .ok (path, operation)
  | _ :: _ :: extra :: _ => .error (.needlessOperand extra)
  | _ => .error .missingOperand

/-- The number of ranked rows, ten by default. -/
def readN (found : List Item) : Except UsageError Nat :=
  match valuesOf found .n with
  | [] => .ok 10
  | s :: _ => (readCount s).mapError fun _ => .invalidCount s

/-- What a list of arguments asks for. No option may be given twice. -/
def Arguments.ofList (arguments : List String) : Except UsageError Arguments := do
  let found ← items arguments
  if let some p := CommandLine.parameters.find? fun p => 1 < (valuesOf found p).length then
    .error (.repeatedParameter p)
  if let some s := [Switch.compact, .verbose].find? fun s => 1 < timesOf found s then
    .error (.repeatedSwitch s)
  let n ← readN found
  let (path, operation) ← readOperands found
  .ok { path := path, operation := operation, parameters := fun p => (valuesOf found p).head?,
        n := n, compact := timesOf found .compact == 1, verbose := timesOf found .verbose == 1 }

/-- The request of a command line. -/
def Arguments.request (a : Arguments) : Request where
  operation := a.operation
  column := a.parameters .column
  column1 := a.parameters .column1
  column2 := a.parameters .column2
  columns := a.parameters .columns
  n := some a.n
  groupBy := a.parameters .groupBy
  aggregate := a.parameters .aggregate
  condition := a.parameters .condition

end TableReport.CommandLine
