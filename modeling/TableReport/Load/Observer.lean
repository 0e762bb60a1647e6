import TableReport.Load.File
import TableReport.Trace
/-!
# Observers of loads

A load ends in a success or in a failure, and a failure that is grave enough raises an alert as well.
An observer answers each of these notices with whatever it records; several observers make one that
passes every notice to each of them in order.
-/
namespace TableReport

/-- An attempt to load a file, with its format if that is known. -/
structure Attempt where
  path : String
  format : Option Format
deriving DecidableEq

/-- The name of the format in logs. -/
def Attempt.formatName (a : Attempt) : String :=
  match a.format with
  | some format => format.name
  | none => "unknown"

/-- What observers are told. -/
inductive Notice where
  | success (attempt : Attempt) (rows columns : Nat)
  | failure (attempt : Attempt) (severity : Severity) (error : LoadError)
  | alert (attempt : Attempt) (severity : Severity) (error : LoadError)
deriving DecidableEq

/-- An attempt with its result. -/
structure Loading where
  attempt : Attempt
  result : Except LoadError Table

namespace Loading

/-- The attempt to load the file at a path, given what stands there. -/
def ofFile (content : Option FileContent) (path : String) (options : LoadOptions) : Loading where
  attempt :=
    match resolveFile content path options with
    | .ok (_, format) => ⟨path, some format⟩
    | .error _ => ⟨path, none⟩
  result := loadFile content path options

/-- The notices of a load, given the least severity that raises an alert. -/
def notices (l : Loading) (alertFrom : Severity) : List Notice :=
  match l.result with
  | .ok t => [.success l.attempt t.size t.schema.width]
  | .error e =>
    if alertFrom.weight ≤ e.severity.weight then
      [.failure l.attempt e.severity e, .alert l.attempt e.severity e]
    else [.failure l.attempt e.severity e]

end Loading

/-- What is recorded of a load. Unless it has an answer of its own, an alert is one more failure. -/
structure Observer (ε : Type) where
  onSuccess : Attempt → Nat → Nat → List ε := fun _ _ _ => []
  onFailure : Attempt → Severity → LoadError → List ε := fun _ _ _ => []
  onAlert : Attempt → Severity → LoadError → List ε := onFailure

namespace Observer

variable {ε δ : Type}

/-- What an observer records at a notice. -/
def hear (o : Observer ε) : Notice → List ε
  | .success attempt rows columns => o.onSuccess attempt rows columns
  | .failure attempt severity error => o.onFailure attempt severity error
  | .alert attempt severity error => o.onAlert attempt severity error

/-- What an observer records at one notice after the other. -/
def hearAll (o : Observer ε) (notices : List Notice) : List ε := notices.flatMap o.hear

/-- The observer that passes every notice to each of the given ones, in order. -/
def all (observers : List (Observer ε)) : Observer ε where
  onSuccess attempt rows columns := observers.flatMap (·.onSuccess attempt rows columns)
  onFailure attempt severity error := observers.flatMap (·.onFailure attempt severity error)
  onAlert attempt severity error := observers.flatMap (·.onAlert attempt severity error)

/-- The observer with its records in another form. -/
def map (f : ε → δ) (o : Observer ε) : Observer δ where
  onSuccess attempt rows columns := (o.onSuccess attempt rows columns).map f
  onFailure attempt severity error := (o.onFailure attempt severity error).map f
  onAlert attempt severity error := (o.onAlert attempt severity error).map f

/-- The observer that records nothing. -/
def silent : Observer ε := {}

/-- A list of observers in one line. -/
def listSummary (observers : List (Observer ε)) : String :=
  s!"CompositeObserver \x7b observers: {observers.length} \x7d"

/-- The fields of an event about an attempt. -/
private def attemptFields (a : Attempt) : EventFields :=
  [("format", .text a.formatName), ("path", .text a.path)]

/-- The fields of an event about an attempt that failed. -/
private def failureFields (a : Attempt) (severity : Severity) (error : LoadError) : EventFields :=
  ("severity", .text severity.label) :: attemptFields a ++ [("error", .text error.message)]

/-- The observer that records trace events: a debug message on success, and on failure a warning, or an
error when it is critical. An alert is an error too. -/
def tracer : Observer Event where
  onSuccess a rows columns :=
    let fields := attemptFields a ++ [("rows", .number rows), ("columns", .number columns)]
    [.message .loading .debug "ingestion succeeded" fields]
  onFailure a severity error :=
    let level := if severity = .critical then Level.error else .warn
    [.message .loading level "ingestion failed" (failureFields a severity error)]
  onAlert a severity error :=
    let fields := ("alert", .text "true") :: failureFields a severity error
    [.message .loading .error "ingestion alert" fields]

end Observer

end TableReport
