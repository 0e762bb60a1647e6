import TableReport.Proofs.Reduce.Ranking
import TableReport.Reduce.Inspection
/-!
# Missing and present cells

In a column each row has a present cell, or a missing one, or it ends before the column. An inspection
counts only missing cells that are there, while everything else reads null beyond the end of a row. So
missing and present cells add up to the number of rows exactly when no row is too short.
-/
namespace TableReport

/-- Whether a row has no cell at a position. -/
def Row.endsBefore (row : Row) (i : Nat) : Bool := row.length ≤ i

/-- The number of rows that end before a column. -/
def Table.tooShort (t : Table) (i : Nat) : Nat := t.rows.countP (·.endsBefore i)

/-- No row is counted twice, and none is left out. -/
theorem Row.counted_once (row : Row) (i : Nat) :
    (if row[i]?.any Cell.isMissing then 1 else 0) + (if !(row.cell i).isMissing then 1 else 0) +
      (if row.endsBefore i then 1 else 0) = 1 := by
  by_cases h : i < row.length
  · have hcell : row.cell i = row[i] := by simp [cell, h]
    have hends : row.endsBefore i = false := by simp [endsBefore, h]
    rw [hcell, hends, List.getElem?_eq_getElem h, Option.any_some]
    cases row[i].isMissing <;> rfl
  · have hle := Nat.le_of_not_lt h
    have hcell : row.cell i = .null := by simp [cell, hle]
    have hends : row.endsBefore i = true := by simp [endsBefore, hle]
    rw [hcell, hends, List.getElem?_eq_none hle]
    rfl

namespace Table

variable (t : Table) (i : Nat)

theorem count_eq_countP : t.count i = t.rows.countP fun row => !(row.cell i).isMissing := by
  simp [count, present, column, List.filter_map, List.countP_eq_length_filter, Function.comp_def]

theorem missing_add_count_add_tooShort : t.missing i + t.count i + t.tooShort i = t.size := by
  rw [count_eq_countP, missing, tooShort, size]
  induction t.rows with
  | nil => rfl
  | cons row rows ih =>
    have hrow := row.counted_once i
    simp only [List.countP_cons, List.length_cons]
    omega

theorem tooShort_eq_zero_iff : t.tooShort i = 0 ↔ ∀ row ∈ t.rows, i < row.length := by
  simp [tooShort, Row.endsBefore, List.countP_eq_zero]

theorem length_rank (n : Nat) (direction : Direction) :
    (t.rank i n direction).length = min n (t.count i) := by
  rw [rank_eq_rowsAt, rowsAt, List.length_map, List.length_take, length_ranking]

theorem missing_inspect (sample : Nat) :
    (t.inspect sample).columns.map ColumnFacts.missing = (List.range t.schema.width).map t.missing := by
  have hnumbers : t.schema.fields.zipIdx.map Prod.snd = List.range t.schema.width := by
    rw [List.zipIdx_map_snd, List.range_eq_range', Schema.width]
  rw [← hnumbers, inspect, List.map_map, List.map_map]
  rfl

/-- The missing cells that an inspection counts in a column, the present ones and the rows that end before
the column are all rows. So missing and present cells alone add up exactly when no row ends before the
column. A ranking of at least as many rows as there are has the rows of the present cells. -/
theorem missing_add_count_iff (sample : Nat) :
    (t.inspect sample).columns.map ColumnFacts.missing =
        (List.range t.schema.width).map t.missing ∧
      ∀ i, t.missing i + t.count i + t.tooShort i = t.size ∧
        (t.missing i + t.count i = t.size ↔ ∀ row ∈ t.rows, i < row.length) ∧
        ∀ n direction, t.size ≤ n → (t.rank i n direction).length = t.count i := by
  refine ⟨t.missing_inspect sample, ?_⟩
  intro i
  have hall := t.missing_add_count_add_tooShort i
  refine ⟨hall, ?_, ?_⟩
  · rw [← tooShort_eq_zero_iff]
    omega
  · intro n direction hn
    rw [length_rank]
    omega

/-- A NaN and a null are missing, and the last row, which is too short, is not counted in the second
column. -/
theorem missing_add_count_of_short_row :
    let t : Table := ⟨⟨[⟨"n", .int64⟩, ⟨"x", .float64⟩]⟩,
      [[.int 1, .float .nan], [.null, .float (.ofNat 2)], [.int 3]]⟩
    t.missing 0 + t.count 0 = t.size ∧ (t.rank 0 5 .ascending).length = t.count 0 ∧
      t.missing 1 + t.count 1 + 1 = t.size ∧ t.missing 1 + t.count 1 ≠ t.size := by
  intro t
  obtain ⟨-, hcolumns⟩ := t.missing_add_count_iff 0
  obtain ⟨-, hfirst, hrank⟩ := hcolumns 0
  obtain ⟨hall, hsecond, -⟩ := hcolumns 1
  refine ⟨hfirst.2 (by decide), hrank 5 .ascending (by decide), hall, ?_⟩
  rw [ne_eq, hsecond]
  decide

/-- A row without a cell in the second column is not counted as missing there, though it reads as null. -/
theorem missing_add_count_lt_size :
    ¬ ∀ (t : Table) (i : Nat) (facts : ColumnFacts), (t.inspect 0).columns[i]? = some facts →
      facts.missing + t.count i = t.size := by
  intro h
  have hsum := h ⟨⟨[⟨"n", .int64⟩, ⟨"s", .utf8⟩]⟩, [[.int 1]]⟩ 1 ⟨"s", .utf8, 0⟩ (by decide)
  revert hsum
  decide

end Table

end TableReport
