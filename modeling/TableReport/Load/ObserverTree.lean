import TableReport.Load.Journal
/-!
# Trees of observers

Observers made of observers, to any depth, and what they record over a run of loads. A journal is kept in a
file, where every entry becomes one more line at the end.
-/
namespace TableReport

/-- A call to load what stands at a path. -/
structure LoadCall where
  content : Option FileContent
  path : String
  options : LoadOptions

namespace LoadCall

/-- What the call returns. -/
def result (c : LoadCall) : Except LoadError Table := loadFile c.content c.path c.options

/-- What observers are told of the call. -/
def notices (c : LoadCall) : List Notice :=
  (Loading.ofFile c.content c.path c.options).notices c.options.alertFrom

end LoadCall

/-- What an observer records over one call after the other. -/
def Observer.overRun {ε : Type} (o : Observer ε) (calls : List LoadCall) : List ε :=
  calls.flatMap fun c => o.hearAll c.notices

/-- An observer, or a composite of several trees. -/
inductive ObserverTree (ε : Type) where
  | leaf (o : Observer ε)
  | all (parts : List (ObserverTree ε))

namespace ObserverTree

variable {ε : Type}

mutual

/-- The observer that a tree is. -/
def observer : ObserverTree ε → Observer ε
  | leaf o => o
  | all parts => Observer.all (observers parts)

/-- The observers of parts. -/
def observers : List (ObserverTree ε) → List (Observer ε)
  | [] => []
  | t :: parts => t.observer :: observers parts

end

/-- The leaf at a place; each number of the place selects a part of a composite. -/
def leafAt? : ObserverTree ε → List Nat → Option (Observer ε)
  | leaf o, [] => some o
  | all parts, i :: place => parts[i]?.bind fun t => t.leafAt? place
  | _, _ => none

mutual

/-- The observer that a tree is, each record with the place of the leaf that made it. -/
def placed : ObserverTree ε → Observer (List Nat × ε)
  | leaf o => o.map fun r => ([], r)
  | all parts => Observer.all (placedFrom 0 parts)

/-- The observers of parts that are numbered from a given number on. -/
def placedFrom : Nat → List (ObserverTree ε) → List (Observer (List Nat × ε))
  | _, [] => []
  | i, t :: parts => (t.placed.map fun (place, r) => (i :: place, r)) :: placedFrom (i + 1) parts

end

end ObserverTree

/-! ### Journals in files -/

/-- A record of one observer among others: an entry for the journal in a file, or anything else. -/
inductive LogRecord (ε : Type) where
  | entry (file : String) (e : JournalEntry)
  | other (r : ε)

/-- The observer that keeps the journal in a file. -/
def Observer.journalIn {ε : Type} (file : String) : Observer (LogRecord ε) :=
  Observer.journal.map (.entry file)

/-- The texts of files; of a file that is not there, nothing. -/
abbrev FileTexts := String → String

/-- The texts after a line has been added to the end of a file. -/
def FileTexts.addLine (files : FileTexts) (file line : String) : FileTexts := fun other =>
  if other = file then files file ++ line ++ "\n" else files other

/-- What files may become when records are made, whatever time it is at each of them. -/
inductive Written {ε : Type} : FileTexts → List (LogRecord ε) → FileTexts → Prop
  | done (files : FileTexts) : Written files [] files
  | entry {files files' : FileTexts} {file : String} {e : JournalEntry} {records : List (LogRecord ε)}
    (time : Nat) (rest : Written (files.addLine file (e.line time)) records files') :
    Written files (.entry file e :: records) files'
  | other {files files' : FileTexts} {r : ε} {records : List (LogRecord ε)}
    (rest : Written files records files') : Written files (.other r :: records) files'

end TableReport
