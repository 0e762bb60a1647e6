/-!
# Trace events

What happened on the way to an answer, for logs: messages with named fields, and spans, which hold
everything that comes after them.
-/
namespace TableReport

/-- How important a message is. -/
inductive Level where
  | trace
  | debug
  | info
  | warn
  | error
deriving DecidableEq, Repr

namespace Level

def label : Level → String
  | .trace => "TRACE"
  | .debug => "DEBUG"
  | .info => "INFO"
  | .warn => "WARN"
  | .error => "ERROR"

/-- Importance as a number. -/
def weight : Level → Nat
  | .trace => 1
  | .debug => 2
  | .info => 3
  | .warn => 4
  | .error => 5

/-- Every level, the least important first. -/
def all : List Level := [.trace, .debug, .info, .warn, .error]

end Level

/-- The part of the program that an event is from. -/
inductive Component where
  | loading
  | analysis
deriving DecidableEq, Repr

/-- The name by which log filters know a part of the program. -/
def Component.target : Component → String
  | .loading => "ingest"
  | .analysis => "tabular_analyze::analysis::dispatch"

/-- The value of a field of an event. -/
inductive FieldValue where
  | text (s : String)
  | number (n : Nat)
deriving DecidableEq

def FieldValue.shown : FieldValue → String
  | .text s => s
  | .number n => toString n

/-- Names and values of an event. -/
abbrev EventFields := List (String × FieldValue)

/-- Something to log. -/
inductive Event where
  | span (component : Component) (name : String) (fields : EventFields)
  | message (component : Component) (level : Level) (text : String) (fields : EventFields)
deriving DecidableEq

/-- The level at which spans are opened. -/
def spanLevel : Level := .debug

end TableReport
