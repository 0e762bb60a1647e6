import TableReport.Table.Basic
/-!
# Shape, missing cells and size of a table

The size is that of the cells and texts that are there. Buffers that grow have room for more behind their
contents; how much of it depends on how a table was built, and it is not counted.
-/
namespace TableReport

structure ColumnFacts where
  name : String
  type : ColumnType
  missing : Nat
deriving DecidableEq

structure Inspection where
  columns : List ColumnFacts
  rows : Nat
  bytes : Nat
  sample : List Row
deriving DecidableEq

namespace Table

/-- The number of missing cells of a column; a row too short for the column has none there. -/
def missing (t : Table) (i : Nat) : Nat := t.rows.countP fun row => row[i]?.any Cell.isMissing

/-- The bytes of a cell beyond its slot. -/
def textBytes : Cell → Nat
  | .text s => s.utf8ByteSize
  | _ => 0

/-- The bytes of a row: its own, a slot for each cell, and the texts. Spare slots behind the last cell,
and spare capacity behind a text, are left out. -/
def rowBytes (row : Row) : Nat :=
  row.foldl (fun n cell => n + textBytes cell) (24 + 24 * row.length)

/-- The bytes of a field: its own, and the name without spare capacity behind it. -/
def fieldBytes (f : Field) : Nat := 32 + f.name.utf8ByteSize

/-- The approximate size of a table in memory, every buffer counted at its length and not at its capacity.
What is allocated is more where rows or texts have room to spare, as the rows of a loaded table may have. -/
def bytes (t : Table) : Nat :=
  t.rows.foldl (fun n row => n + rowBytes row) (t.schema.fields.foldl (fun n f => n + fieldBytes f) 0)

def inspect (t : Table) (sample : Nat) : Inspection where
  columns := t.schema.fields.zipIdx.map fun (f, i) => ⟨f.name, f.type, t.missing i⟩
  rows := t.size
  bytes := t.bytes
  sample := t.rows.take sample

end Table

/-- The size in units of two to the twenty bytes. -/
def Inspection.mebibytes (i : Inspection) : Binary64 :=
  Binary64.ofNat i.bytes / Binary64.ofNat 1024 / Binary64.ofNat 1024

end TableReport
