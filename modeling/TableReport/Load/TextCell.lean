import TableReport.Calendar.Reading
import TableReport.Load.Error
import TableReport.Load.Kind
/-!
# Cells from text

Some texts are markers for a missing value. Any other text is an integer, a number, a truth value, a
date, or just text, and in a column of a known type it is read as a value of that type.
-/
namespace TableReport

/-- The texts that stand for a missing value. -/
def missingMarkers : List String :=
  ["#N/A", "#N/A N/A", "#NA", "-1.#IND", "-1.#QNAN", "-NaN", "-nan", "1.#IND", "1.#QNAN", "<NA>",
    "N/A", "NA", "NULL", "NaN", "None", "n/a", "nan", "null", ""]

/-- Whether a text stands for a missing value. -/
def isMissingMarker (s : String) : Bool := missingMarkers.contains s

namespace TextCell

/-- Whether a text is a given word, whatever the case of its letters. -/
def isWord (s word : String) : Bool := Text.lowerAscii s == word

/-- What a text looks like, blanks around it not counting; nothing for a missing value. -/
def kind? (raw : String) : Option CellKind :=
  let s := Text.trim raw
  if isMissingMarker s then none
  else if (readInt64 s).isOk then some .int
  else if (readBinary64? s).isSome then some .float
  else if isWord s "true" || isWord s "false" then some .bool
  else if (readDateTime? s).isSome then some .dateTime
  else some .text

/-- The truth value that a text stands for by given words, whatever the case of its letters. -/
def wordValue? (words : Bool → List String) (s : String) : Option Bool :=
  let word := Text.lowerAscii s
  if (words true).contains word then some true
  else if (words false).contains word then some false
  else none

/-- The words for a truth value. -/
def boolWords : Bool → List String
  | true => ["true", "t", "1", "yes", "y"]
  | false => ["false", "f", "0", "no", "n"]

/-- The truth value that a word stands for. -/
def readBool? (s : String) : Option Bool := wordValue? boolWords s

/-- The cell of a column type that a text stands for, blanks around it not counting. `kept` is what a
column of texts holds, and `notDate` what is reported of a text that is no date. -/
def read (kept : String) (notDate : ValueProblem) (type : ColumnType) (raw : String) :
    Except ValueProblem Cell :=
  let s := Text.trim raw
  if isMissingMarker s then .ok .null
  else match type with
    | .null => .ok .null
    | .utf8 => .ok (.text kept)
    | .int64 => ((readInt64 s).map Cell.int).mapError .integer
    | .float64 => match readBinary64? s with
      | some v => .ok (.float v)
      | none => .error .float
    | .bool => match readBool? s with
      | some v => .ok (.bool v)
      | none => .error .boolWord
    | .dateTime => match readDateTime? s with
      | some v => .ok (.dateTime v)
      | none => .error notDate

end TextCell

end TableReport
