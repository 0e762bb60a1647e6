import TableReport.Load.Csv.Record
import TableReport.Load.Error
import TableReport.Text.Blank
import TableReport.Text.Utf8
/-!
# Documents in CSV

The first record of a document names the columns, and all records have as many fields as it has. Lines
with nothing on them are skipped, and a byte order mark at the very start is dropped.
-/
namespace TableReport.Csv

/-- A record as bytes. -/
structure RawRecord where
  /-- What of the text comes after the record before. -/
  start : List UInt8
  fields : List FieldBytes

/-- All records of a text. -/
def readRecords (bs : List UInt8) : List RawRecord :=
  match h : bs.dropWhile isLineEnd with
  | [] => []
  | b :: more =>
    have : (readRecord (b :: more)).2.length < bs.length := by
      have kept := (List.dropWhile_sublist (l := bs) isLineEnd).length_le
      have read := readRecord_length_lt (List.cons_ne_nil b more)
      rw [h] at kept
      omega
    let record := readRecord (b :: more)
    ⟨bs, record.1⟩ :: readRecords record.2
termination_by bs.length

/-- The text without the byte order mark at its start. -/
def dropMark : List UInt8 → List UInt8
  | bs@(a :: b :: c :: rest) => if a == 0xef && b == 0xbb && c == 0xbf then rest else bs
  | bs => bs

namespace RawRecord

/-- The place of a record in the whole text, given its number. -/
def place (r : RawRecord) (text : List UInt8) (number : Nat) : RecordPlace :=
  let before := text.take (text.length - r.start.length)
  ⟨number, before.count lineFeed + 1, before.length⟩

/-- The texts of the fields. -/
def decode (r : RawRecord) (text : List UInt8) (number : Nat) : Except CsvFailure (List String) :=
  r.fields.zipIdx.mapM fun (bytes, i) =>
    (Text.decodeUtf8 bytes).mapError fun valid => .notUtf8 (r.place text number) i valid

/-- The texts of the fields of a record that has to have a given number of them. -/
def decodeWidth (r : RawRecord) (text : List UInt8) (number width : Nat) :
    Except CsvFailure (List String) :=
  if r.fields.length = width then r.decode text number
  else .error (.unequalLengths (r.place text number) r.fields.length width)

end RawRecord

/-- The column names and the records of a CSV text. -/
structure Document where
  headers : List String
  records : List (List String)
deriving DecidableEq

/-- The document that a text holds. Its first record begins at the very start, before any mark. -/
def Document.ofBytes (text : List UInt8) : Except CsvFailure Document :=
  match readRecords (dropMark text) with
  | [] => .ok ⟨[], []⟩
  | first :: rest => do
    let headers ← RawRecord.decode ⟨text, first.fields⟩ text 0
    let records ← (rest.zipIdx 1).mapM fun (r, number) =>
      r.decodeWidth text number first.fields.length
    .ok ⟨headers.map Text.trim, records⟩

end TableReport.Csv
