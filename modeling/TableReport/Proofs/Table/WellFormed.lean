import Mathlib.Data.List.Forall2
import TableReport.Table.Basic
/-!
# Well-formed tables

In a well-formed table a row has one cell for each column, and each cell is null or of the type of its
column.
-/
namespace TableReport

/-- One cell for each column, null or of the column's type. -/
def Row.Fits (row : Row) (schema : Schema) : Prop :=
  List.Forall₂ (fun (c : Cell) (f : Field) => c.fits f.type = true) row schema.fields

instance (row : Row) (schema : Schema) : Decidable (row.Fits schema) :=
  inferInstanceAs (Decidable (List.Forall₂ _ _ _))

/-- Every row fits the schema. -/
def Table.WellFormed (t : Table) : Prop := ∀ row ∈ t.rows, row.Fits t.schema

instance (t : Table) : Decidable t.WellFormed :=
  inferInstanceAs (Decidable (∀ row ∈ t.rows, row.Fits t.schema))

/-- Two columns never share a name, and the columns of type null are those without any value. -/
structure Table.Inferred (t : Table) : Prop where
  nodup_names : t.schema.names.Nodup
  null_iff : ∀ i < t.schema.width, t.typeAt i = .null ↔ ∀ c ∈ t.column i, c = .null

theorem Cell.fits_null_iff {c : Cell} : c.fits .null = true ↔ c = .null := by
  cases c <;> simp [Cell.fits]

namespace Row.Fits

variable {row : Row} {schema : Schema}

theorem length_eq (h : row.Fits schema) : row.length = schema.width := List.Forall₂.length_eq h

/-- What a row reads as at a position is of the type there; beyond the last column both are null. -/
theorem cell (h : row.Fits schema) (i : Nat) :
    (row.cell i).fits ((schema.typeAt? i).getD .null) = true := by
  have hlength := h.length_eq
  by_cases hi : i < row.length
  · have hi' : i < schema.fields.length := Nat.lt_of_lt_of_eq hi hlength
    have hfits := List.Forall₂.get h hi hi'
    simpa [Row.cell, Schema.typeAt?, hi, hi'] using hfits
  · have hi' : schema.fields.length ≤ i := by
      rw [← Schema.width, ← hlength]
      exact Nat.le_of_not_lt hi
    have hcell : row.cell i = .null := by simp [Row.cell, Nat.le_of_not_lt hi]
    rw [hcell]
    rfl

end Row.Fits

/-- The cells of a column are null or of its type. -/
theorem Table.WellFormed.fits_of_mem_column {t : Table} (h : t.WellFormed) {i : Nat} {c : Cell}
    (hc : c ∈ t.column i) : c.fits (t.typeAt i) = true := by
  obtain ⟨row, hrow, rfl⟩ := List.mem_map.1 hc
  exact (h row hrow).cell i

namespace Schema

theorem firstRepeated?_eq_none_iff {before names : List String} :
    firstRepeated? before names = none ↔ names.Nodup ∧ ∀ name ∈ names, name ∉ before := by
  induction names generalizing before with
  | nil => simp [firstRepeated?]
  | cons name names ih =>
    rw [firstRepeated?]
    by_cases hname : name ∈ before
    · simp [hname]
    · simp only [List.contains_iff_mem, hname, if_false, ih, List.nodup_cons, List.mem_cons,
        forall_eq_or_imp, not_or, not_false_eq_true, true_and]
      constructor
      · rintro ⟨hnodup, hnew⟩
        exact ⟨⟨fun h => (hnew name h).1 rfl, hnodup⟩, fun n hn => (hnew n hn).2⟩
      · rintro ⟨⟨hfresh, hnodup⟩, hnew⟩
        exact ⟨hnodup, fun n hn => ⟨fun h => hfresh (h ▸ hn), hnew n hn⟩⟩

theorem firstDuplicate?_eq_none_iff {s : Schema} : s.firstDuplicate? = none ↔ s.names.Nodup := by
  rw [firstDuplicate?, firstRepeated?_eq_none_iff]
  simp

variable {schema : Schema} {name : String} {i : Nat}

theorem indexOf?_eq_some : schema.indexOf? name = some i ↔
    schema.names[i]? = some name ∧ ∀ j < i, schema.names[j]? ≠ some name := by
  rw [indexOf?, List.findIdx?_eq_some_iff_getElem]
  simp only [names, List.getElem?_map]
  constructor
  · rintro ⟨hi, hname, hfirst⟩
    refine ⟨by simpa [hi] using hname, fun j hj => ?_⟩
    have hj' : j < schema.fields.length := by omega
    simpa [hj'] using hfirst j hj
  · rintro ⟨hname, hfirst⟩
    obtain ⟨f, hf, hname⟩ := Option.map_eq_some_iff.1 hname
    obtain ⟨hi, rfl⟩ := List.getElem?_eq_some_iff.1 hf
    refine ⟨hi, by simpa using hname, fun j hj => ?_⟩
    have hj' : j < schema.fields.length := by omega
    simpa [hj'] using hfirst j hj

end Schema

theorem Table.nameAt_of_indexOf? {t : Table} {name : String} {i : Nat}
    (h : t.schema.indexOf? name = some i) : t.nameAt i = name := by
  rw [nameAt, (Schema.indexOf?_eq_some.1 h).1, Option.getD_some]

/-- A column is found by its name when no two columns share one. -/
theorem Table.indexOf?_nameAt {t : Table} {i : Nat} (hnames : t.schema.names.Nodup)
    (hi : i < t.schema.width) : t.schema.indexOf? (t.nameAt i) = some i := by
  have hi' : i < t.schema.names.length := by rwa [Schema.names, List.length_map]
  have hname : t.nameAt i = t.schema.names[i] := by
    rw [nameAt, List.getElem?_eq_getElem hi', Option.getD_some]
  rw [Schema.indexOf?_eq_some, hname]
  refine ⟨List.getElem?_eq_getElem hi', fun j hj hsame => ?_⟩
  obtain ⟨hj', hsame⟩ := List.getElem?_eq_some_iff.1 hsame
  exact List.pairwise_iff_getElem.1 hnames j i hj' hi' hj hsame

end TableReport
