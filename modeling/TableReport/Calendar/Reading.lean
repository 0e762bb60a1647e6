import TableReport.Calendar.DateTime
import TableReport.Number.Reading
import TableReport.Text.Blank
/-!
# Reading dates

A format is a list of pieces, each of which reads a part of the text from the left. A text is in a
format when the pieces use it up and the parts make a date and a time. Numbers may have blanks in front
and fewer digits than usual; a blank of the format stands for any blanks, or for none.
-/
namespace TableReport

/-- A part of a date format. -/
inductive DatePiece where
  | year
  | month
  | day
  | hour
  | minute
  | second
  /-- An optional point and digits. -/
  | fraction
  /-- Blanks, or nothing. -/
  | blanks
  /-- Exactly this character. -/
  | mark (c : Char)
deriving DecidableEq, Repr

/-- The parts read so far; what a format does not have stays at zero. -/
structure DateParts where
  year : Int
  month : Nat
  day : Nat
  hour : Nat
  minute : Nat
  second : Nat
  nano : Nat

namespace DateParts

/-- Nothing read yet. -/
def none : DateParts := ⟨0, 0, 0, 0, 0, 0, 0⟩

/-- The date and time of the parts. -/
def dateTime? (p : DateParts) : Option DateTime := do
  let date ← Date.of? p.year p.month p.day
  let clock ← Clock.of? p.hour p.minute p.second p.nano
  some ⟨date, clock⟩

end DateParts

/-- At least one digit and at most a given number of them. -/
def takeNumber? (width : Nat) (cs : List Char) : Option (Nat × List Char) :=
  let ds := (cs.take width).takeWhile Char.isDigit
  if ds.isEmpty then none else some (digitsValue ds, cs.drop ds.length)

/-- A number of one or two digits after any blanks. -/
def takeTwoDigits? (cs : List Char) : Option (Nat × List Char) :=
  takeNumber? 2 (Text.trimLeft cs)

/-- A year after any blanks: up to four digits, or a sign and any number of them. -/
def takeYear? (cs : List Char) : Option (Int × List Char) :=
  match Text.trimLeft cs with
  | '-' :: rest => (takeNumber? rest.length rest).map fun (n, tail) => (-(n : Int), tail)
  | '+' :: rest => (takeNumber? rest.length rest).map fun (n, tail) => ((n : Int), tail)
  | rest => (takeNumber? 4 rest).map fun (n, tail) => ((n : Int), tail)

/-- Nanoseconds from the digits after a point: nine of them count, and more are skipped. -/
def takeFraction? (cs : List Char) : Option (Nat × List Char) :=
  match cs with
  | '.' :: rest =>
    let ds := rest.takeWhile Char.isDigit
    if ds.isEmpty then none
    else
      let counted := ds.take 9
      some (digitsValue counted * Nat.pow 10 (9 - counted.length), rest.dropWhile Char.isDigit)
  | _ => some (0, cs)

/-- What a piece reads from the left of a text. -/
def DatePiece.read? (piece : DatePiece) (p : DateParts) (cs : List Char) :
    Option (DateParts × List Char) :=
  match piece with
  | .year => (takeYear? cs).map fun (n, rest) => ({ p with year := n }, rest)
  | .month => (takeTwoDigits? cs).map fun (n, rest) => ({ p with month := n }, rest)
  | .day => (takeTwoDigits? cs).map fun (n, rest) => ({ p with day := n }, rest)
  | .hour => (takeTwoDigits? cs).map fun (n, rest) => ({ p with hour := n }, rest)
  | .minute => (takeTwoDigits? cs).map fun (n, rest) => ({ p with minute := n }, rest)
  | .second => (takeTwoDigits? cs).map fun (n, rest) => ({ p with second := n }, rest)
  | .fraction => (takeFraction? cs).map fun (n, rest) => ({ p with nano := n }, rest)
  | .blanks => some (p, Text.trimLeft cs)
  | .mark c => match cs with
    | d :: rest => if c = d then some (p, rest) else none
    | [] => none

/-- The parts that a list of pieces reads from a text, using all of it. -/
def readPieces? : List DatePiece → DateParts → List Char → Option DateParts
  | [], p, cs => if cs.isEmpty then some p else none
  | piece :: pieces, p, cs => do
    let (p', rest) ← piece.read? p cs
    readPieces? pieces p' rest

/-- A date format. -/
abbrev DateFormat := List DatePiece

namespace DateFormat

/-- The date and time that a text has in a format. -/
def read? (format : DateFormat) (cs : List Char) : Option DateTime := do
  (← readPieces? format .none cs).dateTime?

/-- Year, month and day. -/
def date : DateFormat := [.year, .mark '-', .month, .mark '-', .day]

/-- A date, blanks, and a time to the second with an optional fraction. -/
def blankSeconds : DateFormat :=
  date ++ [.blanks, .hour, .mark ':', .minute, .mark ':', .second, .fraction]

/-- A date, T, and a time to the second with an optional fraction. -/
def markSeconds : DateFormat :=
  date ++ [.mark 'T', .hour, .mark ':', .minute, .mark ':', .second, .fraction]

/-- A date, blanks, and a time to the minute. -/
def blankMinutes : DateFormat := date ++ [.blanks, .hour, .mark ':', .minute]

/-- A date, T, and a time to the minute. -/
def markMinutes : DateFormat := date ++ [.mark 'T', .hour, .mark ':', .minute]

/-- The formats in the order in which they are tried. -/
def all : List DateFormat := [blankSeconds, markSeconds, blankMinutes, markMinutes, date]

end DateFormat

/-- The first reading of trimmed characters by one of the formats. -/
def readFormats? (cs : List Char) : Option DateTime :=
  DateFormat.all.findSome? (·.read? cs)

/-- A text long enough for a full date, that begins with a digit. -/
def looksLikeDate (s : String) : Bool :=
  10 ≤ s.utf8ByteSize && (s.toList.head?.any Char.isDigit)

/-- The date and time that a text denotes; a bare date denotes its midnight. -/
def readDateTime? (s : String) : Option DateTime :=
  let t := Text.trim s
  if looksLikeDate t then readFormats? t.toList else none

end TableReport
