import TableReport.Analysis.File
import TableReport.CommandLine.Arguments
import TableReport.CommandLine.LogFilter
/-!
# Running a command line

The answer goes to the standard output, and log lines to the standard error.
-/
namespace TableReport.CommandLine

/-- What a run of the program leaves. -/
structure Outcome where
  output : String
  log : List Event
  exitCode : Nat

/-- The filter for log lines: the one asked for, if it can be read, or else a level. -/
def logFilter (asked : Option String) (verbose : Bool) : LogFilter :=
  match asked.bind LogFilter.read? with
  | some filter => filter
  | none => .atLeast (LogFilter.defaultLevel verbose)

/-- What the arguments lead to, given what stands at their path. -/
def Arguments.run (a : Arguments) (content : Option FileContent) (askedFilter : Option String) :
    Outcome :=
  let options : LoadOptions := {}
  let loading := Loading.ofFile content a.path options
  let answer := loading.analyze a.request {}
  let events := Observer.tracer.hearAll (loading.notices options.alertFrom) ++
    loading.analysisEvents a.request {}
  { output := answer.text (!a.compact) ++ "\n"
    log := (logFilter askedFilter a.verbose).select events
    exitCode := answer.exitCode }

/-- The exit code of a command line that cannot be read. -/
def usageExitCode : Nat := 2

/-- What a list of arguments leads to, given what stands at every path. -/
def run (arguments : List String) (contentAt : String → Option FileContent)
    (askedFilter : Option String) : Outcome :=
  match Arguments.ofList arguments with
  | .ok a => a.run (contentAt a.path) askedFilter
  | .error _ => { output := "", log := [], exitCode := usageExitCode }

/-- The log line of an event. -/
def logLine : Event → String
  | .span _ name fields => s!"SPAN {name}" ++ fieldTexts fields
  | .message component level text fields =>
    s!"{level.label} {component.target}: {text}" ++ fieldTexts fields
where
  fieldTexts (fields : EventFields) : String :=
    String.join (fields.map fun (name, value) => s!" {name}={value.shown}")

end TableReport.CommandLine
