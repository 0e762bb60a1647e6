import Mathlib.Data.List.NodupEquivFin
import Mathlib.Data.List.Range
import TableReport.Proofs.Reduce.Sorting
import TableReport.Reduce.Distinct
import TableReport.Reduce.Ranking
/-!
# Rows by their numbers

Selecting, ranking and comparing rows can be done with their numbers in place of the rows. What comes
out then depends on nothing but the columns that were looked at.
-/
namespace TableReport.Table

/-- The row with a number; there is an empty one beyond the last. -/
def row (t : Table) (k : Nat) : Row := t.rows.getD k []

/-- The rows with given numbers. -/
def rowsAt (t : Table) (numbers : List Nat) : List Row := numbers.map t.row

/-- The numbers of the rows that pass a test. -/
def numbersWhere (t : Table) (keep : Row → Bool) : List Nat :=
  (List.range t.size).filter fun k => keep (t.row k)

/-- The numbers of the first rows in the order of a column. -/
def rankedNumbers (t : Table) (i n : Nat) (direction : Direction) : List Nat :=
  (sortBy (fun a b => direction.order ((t.row a).cell i) ((t.row b).cell i))
    (t.numbersWhere fun row => !(row.cell i).isMissing)).take n

/-- The numbers of the rows that agree with another row on given columns. -/
def repeatedNumbers (t : Table) (columns : List Nat) : List Nat :=
  let columns := t.comparedColumns columns
  let keys := t.rows.map (Row.keys columns)
  t.numbersWhere fun row => 1 < keys.count (row.keys columns)

variable (t : Table)

theorem rowsAt_range : t.rowsAt (List.range t.size) = t.rows := by
  apply List.ext_getElem
  · simp [rowsAt, size]
  · intro k hk hk'
    simp [rowsAt, row, hk']

theorem rowsAt_numbersWhere (keep : Row → Bool) :
    t.rowsAt (t.numbersWhere keep) = t.rows.filter keep := by
  conv_rhs => rw [← t.rowsAt_range, rowsAt, List.filter_map]
  rfl

theorem rowsAt_rankedNumbers (i n : Nat) (direction : Direction) :
    t.rowsAt (t.rankedNumbers i n direction) = t.rank i n direction := by
  have hwith := t.rowsAt_numbersWhere fun row => !(row.cell i).isMissing
  have hsort : (sortBy (fun a b => direction.order ((t.row a).cell i) ((t.row b).cell i))
      (t.numbersWhere fun row => !(row.cell i).isMissing)).map t.row =
        sortRows direction i (t.rowsAt (t.numbersWhere fun row => !(row.cell i).isMissing)) :=
    sortBy_map fun _ _ _ _ => rfl
  rw [rowsAt, rankedNumbers, List.map_take, hsort, hwith]
  rfl

theorem rowsAt_repeatedNumbers (columns : List Nat) :
    t.rowsAt (t.repeatedNumbers columns) = t.repeated columns := by
  unfold repeatedNumbers repeated
  exact t.rowsAt_numbersWhere _

theorem rowsAt_take (numbers : List Nat) (n : Nat) :
    t.rowsAt (numbers.take n) = (t.rowsAt numbers).take n :=
  List.map_take

theorem cell_row (i k : Nat) : (t.row k).cell i = (t.column i).getD k .null := by
  by_cases hk : k < t.rows.length
  · simp [row, column, hk]
  · simp [row, column, Row.cell, hk]

theorem getElem?_map_rows {β : Type} (f : Row → β) {k : Nat} (hk : k < t.size) :
    (t.rows.map f)[k]? = some (f (t.row k)) := by
  have hk' : k < t.rows.length := hk
  simp [row, hk']

/-! ### Twins -/

/-- Another row agrees on given columns with the row of a number. -/
def HasTwin (t : Table) (columns : List Nat) (k : Nat) : Prop :=
  ∃ j < t.size, j ≠ k ∧ ∀ i ∈ columns, ((t.row j).cell i).key = ((t.row k).cell i).key

instance (columns : List Nat) (k : Nat) : Decidable (t.HasTwin columns k) :=
  inferInstanceAs (Decidable (∃ j < t.size, _))

/-- A row has a twin exactly when its keys are those of more than one row. -/
theorem hasTwin_iff (columns : List Nat) {k : Nat} (hk : k < t.size) : t.HasTwin columns k ↔
    1 < (t.rows.map (Row.keys columns)).count ((t.row k).keys columns) := by
  have hkeys : ∀ j, (t.row j).keys columns = (t.row k).keys columns ↔
      ∀ i ∈ columns, ((t.row j).cell i).key = ((t.row k).cell i).key :=
    fun j => List.map_inj_left
  have hlength : (t.rows.map (Row.keys columns)).length = t.size := List.length_map _
  have hget : ∀ n : Fin (t.rows.map (Row.keys columns)).length,
      (t.rows.map (Row.keys columns)).get n = (t.row n).keys columns := by
    intro n
    have hn : n.1 < t.rows.length := Nat.lt_of_lt_of_eq n.isLt hlength
    simp [row, hn]
  have hcount : (List.replicate 2 ((t.row k).keys columns)).Sublist (t.rows.map (Row.keys columns)) ↔
      1 < (t.rows.map (Row.keys columns)).count ((t.row k).keys columns) := List.replicate_sublist_iff
  rw [← hcount, List.replicate_succ, List.replicate_one, ← List.duplicate_iff_sublist,
    List.duplicate_iff_exists_distinct_get]
  constructor
  · rintro ⟨j, hj, hne, hsame⟩
    have hj' : j < (t.rows.map (Row.keys columns)).length := hlength ▸ hj
    have hk' : k < (t.rows.map (Row.keys columns)).length := hlength ▸ hk
    obtain hlt | hlt := Nat.lt_or_gt_of_ne hne
    · refine ⟨⟨j, hj'⟩, ⟨k, hk'⟩, hlt, ?_, ?_⟩
      · rw [hget, (hkeys j).2 hsame]
      · rw [hget]
    · refine ⟨⟨k, hk'⟩, ⟨j, hj'⟩, hlt, ?_, ?_⟩
      · rw [hget]
      · rw [hget, (hkeys j).2 hsame]
  · rintro ⟨n, m, hlt, hn, hm⟩
    rw [hget] at hn hm
    by_cases heq : n.1 = k
    · refine ⟨m, hlength ▸ m.isLt, ?_, (hkeys m).1 hm.symm⟩
      exact fun hmk => absurd hlt (by simp [Fin.lt_def, heq, hmk])
    · exact ⟨n, hlength ▸ n.isLt, heq, (hkeys n).1 hn.symm⟩

theorem repeatedNumbers_eq (columns : List Nat) : t.repeatedNumbers columns =
    (List.range t.size).filter (t.HasTwin (t.comparedColumns columns)) := by
  unfold repeatedNumbers numbersWhere
  apply List.filter_congr
  intro k hk
  rw [decide_eq_decide]
  exact (t.hasTwin_iff _ (List.mem_range.1 hk)).symm

/-! ### Two tables -/

variable {t} {t' : Table}

/-- What is read off the rows of two tables one by one is the same list when it is the same for each
number. -/
theorem map_rows_congr {β : Type} {f f' : Row → β} (hsize : t.size = t'.size)
    (h : ∀ k < t.size, f (t.row k) = f' (t'.row k)) : t.rows.map f = t'.rows.map f' := by
  rw [← t.rowsAt_range, ← t'.rowsAt_range, rowsAt, rowsAt, List.map_map, List.map_map, ← hsize]
  apply List.map_congr_left
  intro k hk
  exact h k (List.mem_range.1 hk)

theorem filterMap_rows_congr {β : Type} {f f' : Row → Option β} (hsize : t.size = t'.size)
    (h : ∀ k < t.size, f (t.row k) = f' (t'.row k)) :
    t.rows.filterMap f = t'.rows.filterMap f' := by
  have hmap := congrArg (List.filterMap id) (map_rows_congr hsize h)
  rw [List.filterMap_map, List.filterMap_map] at hmap
  exact hmap

theorem numbersWhere_congr {keep keep' : Row → Bool} (hsize : t.size = t'.size)
    (h : ∀ k < t.size, keep (t.row k) = keep' (t'.row k)) :
    t.numbersWhere keep = t'.numbersWhere keep' := by
  unfold numbersWhere
  rw [← hsize]
  apply List.filter_congr
  intro k hk
  exact h k (List.mem_range.1 hk)

end TableReport.Table
