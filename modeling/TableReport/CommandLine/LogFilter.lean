import TableReport.CommandLine.LogDirective
/-!
# Log filters

A filter is a list of directives with commas between them. A message is shown if the most special
directive about it shows its level, or if it stands in a span and a directive about the span does.
-/
namespace TableReport

/-- A log filter. -/
abbrev LogFilter := List LogDirective

namespace LogFilter

/-- The filter that shows everything from a level upwards. -/
def atLeast (level : Level) : LogFilter := [⟨⟨none, none, []⟩, some level⟩]

/-- The least important level that is shown when there is no filter. -/
def defaultLevel (verbose : Bool) : Level := if verbose then .debug else .warn

/-- The filter that a text denotes. -/
def read? (s : String) : Option LogFilter :=
  ((Text.pieces ',' s).filter (· != "")).mapM LogDirective.read?

/-- The directives that count: of those with one scope, the last. -/
def effective : LogFilter → LogFilter
  | [] => []
  | d :: rest =>
    if rest.any (·.scope == d.scope) then effective rest else d :: effective rest

/-- The most special of some directives about messages. -/
def mostSpecial? (f : LogFilter) : Option LogDirective :=
  f.foldl (fun best d =>
    match best with
    | some b => if (b.order d).isLE then some d else some b
    | none => some d) none

/-- The name of the field that holds the text of a message. -/
def messageField : String := "message"

/-- Whether a filter shows a message wherever it stands. -/
def showsMessage (f : LogFilter) (component : Component) (level : Level) (fields : EventFields) :
    Bool :=
  let names := messageField :: fields.map Prod.fst
  let about := f.effective.filter fun d =>
    d.isAboutMessages && d.appliesTo component && d.fieldNames.all names.contains
  (mostSpecial? about).any (·.shows level)

/-- Whether spans are opened: some directive shows their level or asks for a value. -/
def opensSpans (f : LogFilter) : Bool :=
  f.any fun d => d.shows spanLevel || d.asksForValue

/-- The directives that a span meets, which say what is shown inside it. -/
def inside (f : LogFilter) (component : Component) (name : String) (fields : EventFields) :
    LogFilter :=
  if f.opensSpans then
    f.effective.filter fun d =>
      d.isAboutSpans && d.appliesTo component && d.scope.span.all (· == name) &&
        d.scope.fields.all (·.accepts fields)
  else []

/-- The messages that are shown, given the directives about the spans that are open. -/
def selectInside (f : LogFilter) : LogFilter → List Event → List Event
  | _, [] => []
  | opened, .span component name fields :: rest =>
    f.selectInside (f.inside component name fields ++ opened) rest
  | opened, .message component level text fields :: rest =>
    if f.showsMessage component level fields || opened.any (·.shows level) then
      .message component level text fields :: f.selectInside opened rest
    else f.selectInside opened rest

/-- The messages that a filter shows. Spans are never shown themselves. -/
def select (f : LogFilter) (events : List Event) : List Event := f.selectInside [] events

end LogFilter

end TableReport
