import TableReport.CommandLine.PatternReading
import TableReport.Number.Reading
import TableReport.Text.Blank
import TableReport.Text.Letter
import TableReport.Trace
/-!
# Log directives

A directive names the least important level that is shown, and what it is about: the parts of the
program whose names begin with a given text, spans of a given name in brackets, or fields in braces
inside them, with values if need be.
-/
namespace TableReport

/-- What the value of a field has to be. -/
inductive FieldTest where
  | number (n : Nat)
  /-- The pattern and how it is written. -/
  | pattern (source : String) (p : Pattern)
  /-- A truth value or another number, which no field has. -/
  | unmet (source : String)
deriving DecidableEq

namespace FieldTest

/-- The test that a text denotes. -/
def read? (s : String) : Option FieldTest :=
  match readCount s with
  | .ok n => some (.number n)
  | .error _ =>
    if s == "true" || s == "false" || (readBinary64? s).isSome then some (.unmet s)
    else (Pattern.read? s).map (.pattern s)

/-- Whether a value passes. -/
def accepts : FieldTest → FieldValue → Bool
  | .number n, .number m => n == m
  | .pattern _ p, .text s => p.accepts s
  | _, _ => false

end FieldTest

/-- A field that has to be there, and what its value has to be. -/
structure FieldCondition where
  name : String
  test : Option FieldTest
deriving DecidableEq

namespace FieldCondition

/-- The condition that a text denotes: a name, or a name and a value with an equals sign between
them. What follows a second equals sign is passed over. -/
def read? (s : String) : Option FieldCondition :=
  match Text.pieces '=' s with
  | [] => none
  | [name] => some ⟨name, none⟩
  | name :: value :: _ => (FieldTest.read? value).map fun test => ⟨name, some test⟩

/-- Whether one of the fields of that name passes the test. -/
def accepts (f : FieldCondition) (fields : EventFields) : Bool :=
  fields.any fun (name, value) => name == f.name && f.test.all (·.accepts value)

end FieldCondition

/-- What a directive is about: everything, unless it says otherwise. -/
structure LogScope where
  target : Option String := none
  span : Option String := none
  fields : List FieldCondition := []
deriving DecidableEq

/-- A scope and the least important level to show in it; none shows nothing. -/
structure LogDirective where
  scope : LogScope
  least : Option Level
deriving DecidableEq

namespace LogDirective

/-- The levels by number; zero shows nothing. -/
def levelOfNumber? : Nat → Option (Option Level)
  | 0 => some none
  | 1 => some (some .error)
  | 2 => some (some .warn)
  | 3 => some (some .info)
  | 4 => some (some .debug)
  | 5 => some (some .trace)
  | _ => none

/-- The level that a word stands for. -/
def levelOfWord? (s : String) : Option (Option Level) :=
  let word := Text.lowerAscii s
  if word == "off" then some none
  else (Level.all.find? fun level => Text.lowerAscii level.label == word).map some

/-- The level that a number or word stands for. -/
def readLevel? (s : String) : Option (Option Level) :=
  match (readCount s).toOption.bind levelOfNumber? with
  | some level => some level
  | none => levelOfWord? s

/-- Characters of a directive by position: without the blanks around it, and as it is written. -/
abbrev Marks := List (Char × Char)

/-- What is written at some positions. -/
def written (marks : Marks) : List Char := marks.map Prod.snd

/-- The level after an equals sign; nothing at all shows everything. -/
def readLevelEnd? (marks : Marks) (tail : List Char) : Option (Option Level) :=
  match written marks ++ tail with
  | [] => some (some .trace)
  | cs => readLevel? (String.ofList cs)

/-- The directive about a scope, with a level if there is one. -/
def readEnd? (scope : LogScope) (marks : Marks) (tail : List Char) : Option LogDirective :=
  match marks with
  | [] => some ⟨scope, some .trace⟩
  | ('=', _) :: rest => (readLevelEnd? rest tail).map (LogDirective.mk scope)
  | _ :: _ => none

/-- The rest of a directive after an opening bracket: the name of a span, and a field in braces. -/
def readSpan? (target : Option String) (marks : Marks) (tail : List Char) : Option LogDirective :=
  let (front, rest) := marks.span fun (c, _) => c != ']' && c != '\x7b'
  let name := String.ofList (written front)
  match rest with
  | [] => none
  | (']', _) :: rest => readEnd? ⟨target, some name, []⟩ rest tail
  | _ :: rest =>
    let (field, rest) := rest.span fun (c, _) => c != '\x7d'
    match rest with
    | _ :: (']', _) :: rest =>
      if field.isEmpty then none
      else do
        let condition ← FieldCondition.read? (String.ofList (written field))
        let span := if front.isEmpty then none else some name
        readEnd? ⟨target, span, [condition]⟩ rest tail
    | _ => none

/-- A directive that begins with a level or a target. A target by itself shows everything. -/
def readTarget? (marks : Marks) (tail : List Char) : Option LogDirective :=
  let (front, rest) := marks.span fun (c, _) => c != '=' && c != '['
  let target := String.ofList (written front)
  match rest with
  | [] =>
    let word := String.ofList (written front ++ tail)
    match readLevel? word with
    | some level => some ⟨⟨none, none, []⟩, level⟩
    | none => some ⟨⟨some word, none, []⟩, some .trace⟩
  | ('=', _) :: rest =>
    (readLevelEnd? rest tail).map (LogDirective.mk ⟨some target, none, []⟩)
  | _ :: rest => readSpan? (some target) rest tail

/-- A character with which a level or a target can begin. -/
def isFirst (c : Char) : Bool := Text.isAlphanumeric c || c == '-' || c == ':' || c == '_'

/-- The directive that a text denotes. Its marks are looked for in the text without the blanks around
it, and what stands between them is read at the same positions of the text as it is. -/
def read? (s : String) : Option LogDirective :=
  let trimmed := Text.trimChars s.toList
  let marks := trimmed.zip s.toList
  let tail := s.toList.drop trimmed.length
  match marks with
  | [] => none
  | ('[', _) :: rest => readSpan? none rest tail
  | (c, _) :: _ => if isFirst c then readTarget? marks tail else none

/-- Whether a directive shows a level. -/
def shows (d : LogDirective) (level : Level) : Bool :=
  d.least.any fun least => least.weight ≤ level.weight

/-- Whether a directive is about a part of the program. -/
def appliesTo (d : LogDirective) (component : Component) : Bool :=
  d.scope.target.all fun target => target.toList.isPrefixOf component.target.toList

/-- Whether a directive asks for the value of a field. -/
def asksForValue (d : LogDirective) : Bool := d.scope.fields.any (·.test.isSome)

/-- Whether a directive says what is shown inside spans: it names a span or fields. -/
def isAboutSpans (d : LogDirective) : Bool := d.scope.span.isSome || !d.scope.fields.isEmpty

/-- Whether a directive says which messages are shown wherever they are: it names neither a span nor
values. -/
def isAboutMessages (d : LogDirective) : Bool := d.scope.span.isNone && !d.asksForValue

/-- The names of the fields of a directive. -/
def fieldNames (d : LogDirective) : List String := d.scope.fields.map FieldCondition.name

/-- The order of directives about messages from general to special: the longer target, then more
fields, then the greater names of fields. -/
def order (a b : LogDirective) : Ordering :=
  (compare (a.scope.target.map String.utf8ByteSize) (b.scope.target.map String.utf8ByteSize)).then <|
    (compare a.fieldNames.length b.fieldNames.length).then (compare a.fieldNames b.fieldNames)

end LogDirective

end TableReport
