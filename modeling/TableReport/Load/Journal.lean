import TableReport.Load.Observer
/-!
# The journal of loads

One JSON object on a line of its own for every notice.
-/
namespace TableReport

/-- An entry of the journal. -/
structure JournalEntry where
  event : String
  attempt : Attempt
  rows : Option Nat := none
  columns : Option Nat := none
  severity : Option Severity := none
  error : Option String := none
deriving DecidableEq

namespace JournalEntry

/-- A member of an entry, if it has one of that name. -/
private def member (name : String) (v : Option Json) : Json.Members :=
  (v.map fun w => (name, w)).toList

/-- The members of an entry, except for the time. -/
def members (e : JournalEntry) : Json.Members :=
  [("event", Json.text e.event), ("format", .text e.attempt.formatName),
    ("path", .text e.attempt.path)] ++
    member "rows" (e.rows.map Json.ofNat) ++ member "columns" (e.columns.map Json.ofNat) ++
    member "severity" (e.severity.map fun s => .text s.name) ++ member "error" (e.error.map .text)

/-- The line of an entry, with the time in seconds. -/
def line (e : JournalEntry) (time : Nat) : String :=
  (Json.object (("ts", .ofNat time) :: e.members)).compact

end JournalEntry

/-- The observer that keeps the journal. -/
def Observer.journal : Observer JournalEntry where
  onSuccess a rows columns := [{ event := "ok", attempt := a, rows := rows, columns := columns }]
  onFailure a severity error :=
    [{ event := "failure", attempt := a, severity := severity, error := error.message }]
  onAlert a severity error :=
    [{ event := "alert", attempt := a, severity := severity, error := error.message }]

end TableReport
