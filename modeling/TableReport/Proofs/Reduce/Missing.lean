import TableReport.Proofs.Reduce.Sorting
import TableReport.Reduce.Correlation
import TableReport.Reduce.Grouping
import TableReport.Reduce.Inspection
import TableReport.Reduce.Ranking
import TableReport.Reduce.Statistics
/-!
# NaN counts as no value

Every reduction that skips nulls skips each NaN too. With nulls in place of every NaN, totals, statistics,
groups and correlations are what they were, and the rows that are listed are the same ones.
-/
namespace TableReport

/-- Null in place of NaN. -/
def Cell.withoutNaN : Cell → Cell
  | .float v => if v.isNaN then .null else .float v
  | c => c

def Row.withoutNaN (row : Row) : Row := row.map Cell.withoutNaN

def Table.withoutNaN (t : Table) : Table := { t with rows := t.rows.map Row.withoutNaN }

/-! ### Cells and rows -/

namespace Cell

variable (c : Cell)

theorem withoutNaN_eq : c.withoutNaN = if c.isMissing then .null else c := by
  cases c <;> rfl

@[simp] theorem isMissing_withoutNaN : c.withoutNaN.isMissing = c.isMissing := by
  rw [withoutNaN_eq]
  cases h : c.isMissing with
  | false => exact h
  | true => rfl

variable {c} in
theorem withoutNaN_of_present (h : c.isMissing = false) : c.withoutNaN = c := by
  simp [withoutNaN_eq, h]

variable {c} in
theorem withoutNaN_of_missing (h : c.isMissing = true) : c.withoutNaN = .null := by
  simp [withoutNaN_eq, h]

@[simp] theorem comparable?_withoutNaN : c.withoutNaN.comparable? = c.comparable? := by
  cases c with
  | float v => cases h : v.isNaN <;> simp [withoutNaN, comparable?, number?, h, Option.filter]
  | null | int | bool | text | dateTime => rfl

end Cell

@[simp] theorem Total.add_withoutNaN (total : Total) (c : Cell) :
    total.add c.withoutNaN = total.add c := by
  cases c with
  | float v => cases h : v.isNaN <;> cases total <;> simp [Cell.withoutNaN, Total.add, h]
  | null | int | bool | text | dateTime => rfl

@[simp] theorem Row.cell_withoutNaN (row : Row) (i : Nat) :
    row.withoutNaN.cell i = (row.cell i).withoutNaN := by
  rw [cell, cell, withoutNaN, List.getD_eq_getElem?_getD, List.getD_eq_getElem?_getD,
    List.getElem?_map]
  cases row[i]? <;> rfl

theorem Table.rowBytes_withoutNaN (row : Row) : rowBytes row.withoutNaN = rowBytes row := by
  have htext : ∀ c : Cell, textBytes c.withoutNaN = textBytes c := by
    intro c
    cases c with
    | float v => cases h : v.isNaN <;> simp [Cell.withoutNaN, textBytes, h]
    | null | int | bool | text | dateTime => rfl
  rw [rowBytes, rowBytes, Row.withoutNaN, List.foldl_map, List.length_map]
  simp only [htext]

/-! ### Columns -/

namespace Table

variable (t : Table) (i : Nat)

@[simp] theorem column_withoutNaN :
    t.withoutNaN.column i = (t.column i).map Cell.withoutNaN := by
  simp [column, withoutNaN, Function.comp_def]

@[simp] theorem size_withoutNaN : t.withoutNaN.size = t.size :=
  List.length_map _

theorem sum_withoutNaN : t.withoutNaN.sum i = t.sum i := by
  have htotal : t.withoutNaN.total i = t.total i := by
    unfold total Total.ofCells
    rw [column_withoutNaN, List.foldl_map]
    simp only [Total.add_withoutNaN]
    rfl
  rw [sum, htotal, sum]

theorem mean_withoutNaN : t.withoutNaN.mean i = t.mean i := by
  have hcount : t.withoutNaN.count i = t.count i := by
    simp [count, present, List.filter_map, Function.comp_def]
  rw [mean, hcount, sum_withoutNaN, mean]

theorem numbers_withoutNaN : t.withoutNaN.numbers i = t.numbers i := by
  have hnumbers : ∀ t : Table, t.numbers i = (t.column i).filterMap Cell.comparable? := by
    intro t
    exact List.filter_filterMap
  rw [hnumbers, hnumbers, column_withoutNaN, List.filterMap_map]
  apply List.filterMap_congr
  intro c _
  exact c.comparable?_withoutNaN

theorem describe_withoutNaN : t.withoutNaN.describe i = t.describe i := by
  rw [describe, mean_withoutNaN, numbers_withoutNaN, describe]

theorem missing_withoutNaN : t.withoutNaN.missing i = t.missing i := by
  have hrow : ∀ row : Row, row.withoutNaN[i]?.any Cell.isMissing = row[i]?.any Cell.isMissing := by
    intro row
    rw [Row.withoutNaN, List.getElem?_map]
    cases row[i]? with
    | none => rfl
    | some c => exact c.isMissing_withoutNaN
  simp [missing, withoutNaN, List.countP_map, Function.comp_def, hrow]

theorem inspect_withoutNaN (n : Nat) : t.withoutNaN.inspect n =
    { t.inspect n with sample := (t.inspect n).sample.map Row.withoutNaN } := by
  have hbytes : t.withoutNaN.bytes = t.bytes := by
    unfold bytes
    simp only [withoutNaN, List.foldl_map, rowBytes_withoutNaN]
  simp only [inspect, missing_withoutNaN, size_withoutNaN, hbytes]
  simp [withoutNaN, List.map_take]

theorem correlate_withoutNaN (x y : Nat) : t.withoutNaN.correlate x y = t.correlate x y := by
  have hpairs : t.withoutNaN.pairs x y = t.pairs x y := by
    simp [pairs, withoutNaN, List.filterMap_map]
  rw [correlate, hpairs, correlate]

/-- Only rows with a value are ranked, and their values are as they were. -/
theorem rank_withoutNaN (n : Nat) (direction : Direction) :
    t.withoutNaN.rank i n direction = (t.rank i n direction).map Row.withoutNaN := by
  have hwith : t.withoutNaN.rowsWith i = (t.rowsWith i).map Row.withoutNaN := by
    simp [rowsWith, withoutNaN, List.filter_map, Function.comp_def]
  have horder : ∀ row ∈ t.rowsWith i, ∀ row' ∈ t.rowsWith i,
      direction.order (row.cell i) (row'.cell i) =
        direction.order (row.withoutNaN.cell i) (row'.withoutNaN.cell i) := by
    intro row hrow row' hrow'
    have hpresent : ∀ row ∈ t.rowsWith i, (row.cell i).isMissing = false := by
      intro row hrow
      simpa using (List.mem_filter.1 hrow).2
    rw [Row.cell_withoutNaN, Row.cell_withoutNaN, Cell.withoutNaN_of_present (hpresent row hrow),
      Cell.withoutNaN_of_present (hpresent row' hrow')]
  rw [rank, rank, List.map_take, sortRows, sortRows, hwith]
  exact congrArg (List.take n) (sortBy_map (f := Row.withoutNaN) horder).symm

end Table

/-! ### Groups -/

namespace Group

/-- Null in place of NaN among the values. -/
def cleanValue (entry : Cell × Cell) : Cell × Cell := (entry.1, entry.2.withoutNaN)

theorem entries_withoutNaN (t : Table) (key value : Nat) :
    entries t.withoutNaN key value = (entries t key value).map cleanValue := by
  simp only [entries, Table.withoutNaN, List.filterMap_map, List.map_filterMap]
  apply List.filterMap_congr
  intro row _
  cases h : (row.cell key).isMissing with
  | true => simp [h]
  | false => simp [h, Cell.withoutNaN_of_present h, cleanValue]

theorem sortEntries_map (es : List (Cell × Cell)) :
    sortEntries (es.map cleanValue) = (sortEntries es).map cleanValue :=
  (sortBy_map (f := cleanValue) fun _ _ _ _ => rfl).symm

theorem runs_map (type : ColumnType) (key : Cell) (total : Total) (es : List (Cell × Cell)) :
    runs type key total (es.map cleanValue) = runs type key total es := by
  induction es generalizing key total with
  | nil => rfl
  | cons e es ih =>
    obtain ⟨k, v⟩ := e
    simp only [List.map_cons, cleanValue, runs, Total.add_withoutNaN, ih]

theorem partition_map (type : ColumnType) (es : List (Cell × Cell)) :
    partition type (es.map cleanValue) = partition type es := by
  cases es with
  | nil => rfl
  | cons e es =>
    obtain ⟨k, v⟩ := e
    simp only [List.map_cons, cleanValue, partition, Total.add_withoutNaN]
    exact runs_map type k _ es

end Group

theorem Table.groupSum_withoutNaN (t : Table) (key value : Nat) :
    t.withoutNaN.groupSum key value = t.groupSum key value := by
  rw [groupSum, Group.entries_withoutNaN, Group.sortEntries_map, Group.partition_map]
  rfl

end TableReport
