import Mathlib.Algebra.BigOperators.Group.List.Basic
import Mathlib.Algebra.Order.Ring.Int
import TableReport.Proofs.Outcome
import TableReport.Proofs.Table.WellFormed
import TableReport.Analysis.Payload
/-!
# When totals come out

Integers are added exactly, so a total fails only when the sum of all integers of the column is no 64-bit
integer. Totals of other columns never fail, and a mean or a description fails with its total.
-/
namespace TableReport

/-- What a cell adds to a total of integers. -/
def Cell.integer : Cell → Int
  | .int v => v.toInt
  | _ => 0

/-- The exact sum of the integers among cells. -/
def integerSum (cells : List Cell) : Int := (cells.map Cell.integer).sum

namespace Total

variable {type : ColumnType} {cells : List Cell} {column : String}

theorem foldl_add_int (sum : Int) (cells : List Cell) :
    cells.foldl add (.int sum) = .int (sum + integerSum cells) := by
  induction cells generalizing sum with
  | nil => simp [integerSum]
  | cons c cells ih =>
    have hadd : (Total.int sum).add c = .int (sum + c.integer) := by
      cases c <;> simp [add, Cell.integer]
    rw [List.foldl_cons, hadd, ih, integerSum, integerSum, List.map_cons, List.sum_cons, Int.add_assoc]

theorem ofCells_int64 (cells : List Cell) : ofCells .int64 cells = .int (integerSum cells) := by
  rw [ofCells, start, foldl_add_int, Int.zero_add]

theorem foldl_add_null (total : Total) (h : ∀ c ∈ cells, c = .null) : cells.foldl add total = total := by
  induction cells with
  | nil => rfl
  | cons c cells ih =>
    have hadd : total.add .null = total := by cases total <;> rfl
    rw [List.foldl_cons, h c List.mem_cons_self, hadd]
    exact ih fun d hd => h d (List.mem_cons_of_mem c hd)

theorem foldl_add_float (sum : Binary64) (cells : List Cell) :
    ∃ sum', cells.foldl add (.float sum) = .float sum' := by
  induction cells generalizing sum with
  | nil => exact ⟨sum, rfl⟩
  | cons c cells ih =>
    obtain ⟨sum', hadd⟩ : ∃ sum', (Total.float sum).add c = .float sum' := by
      cases c with
      | float v => by_cases hv : v.isNaN = true <;> simp [add, hv]
      | _ => exact ⟨_, rfl⟩
    rw [List.foldl_cons, hadd]
    exact ih sum'

theorem exists_ofCells_eq_float (htype : type ≠ .int64) (cells : List Cell) :
    ∃ sum, ofCells type cells = .float sum := by
  rw [ofCells]
  cases type <;> first | exact absurd rfl htype | exact foldl_add_float _ cells

/-- A total fails only when it is one of integers, and out of range. -/
theorem exists_finish_iff : (∃ c, (ofCells type cells).finish column = .ok c) ↔
    (type = .int64 → fitsInt64 (integerSum cells) = true) := by
  by_cases htype : type = .int64
  · subst htype
    rw [ofCells_int64, finish]
    by_cases hfits : fitsInt64 (integerSum cells) = true <;> simp [hfits]
  · obtain ⟨sum, hsum⟩ := exists_ofCells_eq_float htype cells
    rw [hsum]
    exact iff_of_true ⟨_, rfl⟩ fun h => absurd h htype

theorem finish_ofCells_eq_error_iff {e : ColumnError} :
    (ofCells type cells).finish column = .error e ↔
      e = .overflow column ∧ type = .int64 ∧ fitsInt64 (integerSum cells) = false := by
  by_cases htype : type = .int64
  · subst htype
    rw [ofCells_int64, finish]
    by_cases hfits : fitsInt64 (integerSum cells) = true <;> simp [hfits, eq_comm]
  · obtain ⟨sum, hsum⟩ := exists_ofCells_eq_float htype cells
    rw [hsum]
    simp [finish, htype]

end Total

namespace Table

variable {t : Table} {i : Nat}

/-- The sum of the integers of an integer column is a 64-bit integer. -/
def SumFits (t : Table) (i : Nat) : Prop :=
  t.typeAt i = .int64 → fitsInt64 (integerSum (t.column i)) = true

theorem exists_sum_iff : (∃ s, t.sum i = .ok s) ↔ t.SumFits i :=
  exists_map_eq_ok_iff.trans Total.exists_finish_iff

/-- An integer column without a present cell adds up to zero. -/
theorem WellFormed.integerSum_eq_zero (ht : t.WellFormed) (htype : t.typeAt i = .int64)
    (hcount : t.count i = 0) : integerSum (t.column i) = 0 := by
  refine List.sum_eq_zero fun n hn => ?_
  obtain ⟨c, hc, rfl⟩ := List.mem_map.1 hn
  have hmissing : c.isMissing = true := by
    by_contra h
    have hpresent : c ∈ t.present i := List.mem_filter.2 ⟨hc, by simpa using h⟩
    rw [List.eq_nil_of_length_eq_zero hcount] at hpresent
    exact nomatch hpresent
  have hfits := ht.fits_of_mem_column hc
  rw [htype] at hfits
  cases c with
  | int v => exact nomatch hmissing
  | _ => rfl

theorem WellFormed.exists_mean_iff (ht : t.WellFormed) : (∃ m, t.mean i = .ok m) ↔ t.SumFits i := by
  unfold mean
  split
  case isTrue hcount =>
    refine iff_of_true ⟨_, rfl⟩ fun htype => ?_
    rw [ht.integerSum_eq_zero htype hcount]
    decide
  case isFalse => exact exists_map_eq_ok_iff.trans exists_sum_iff

theorem WellFormed.exists_describe_iff (ht : t.WellFormed) :
    (∃ s, t.describe i = .ok s) ↔ t.SumFits i :=
  exists_map_eq_ok_iff.trans ht.exists_mean_iff

/-- Describing every numeric column takes the sums of all columns. -/
theorem WellFormed.exists_describeAll_iff (ht : t.WellFormed) :
    (∃ columns, t.describeAll = .ok columns) ↔ ∀ i < t.schema.width, t.SumFits i := by
  refine exists_mapM_eq_ok_iff.trans ⟨fun h i hi htype => ?_, fun h p hp => ?_⟩
  · obtain ⟨field, hfield⟩ : ∃ field, t.schema.fields[i]? = some field :=
      ⟨_, List.getElem?_eq_getElem hi⟩
    have hnumeric : field.type = .int64 := by simpa [typeAt, Schema.typeAt?, hfield] using htype
    have hmem : (field, i) ∈ t.schema.fields.zipIdx.filter fun p => p.1.type.isNumeric :=
      List.mem_filter.2 ⟨List.mem_zipIdx_iff_getElem?.2 hfield, congrArg ColumnType.isNumeric hnumeric⟩
    exact ht.exists_describe_iff.1 (exists_map_eq_ok_iff.1 (h _ hmem)) htype
  · obtain ⟨field, i⟩ := p
    have hfield := List.mem_zipIdx_iff_getElem?.1 (List.mem_filter.1 hp).1
    obtain ⟨hi, -⟩ := List.getElem?_eq_some_iff.1 hfield
    exact exists_map_eq_ok_iff.2 (ht.exists_describe_iff.2 (h i hi))

/-! ### Columns of type null -/

theorem WellFormed.eq_null_of_mem_column (ht : t.WellFormed) (htype : t.typeAt i = .null) {c : Cell}
    (hc : c ∈ t.column i) : c = .null := by
  have hfits := ht.fits_of_mem_column hc
  rw [htype] at hfits
  exact Cell.fits_null_iff.1 hfits

theorem WellFormed.sum_of_null (ht : t.WellFormed) (htype : t.typeAt i = .null) :
    t.sum i = .ok 0 := by
  have htotal : Total.ofCells .null (t.column i) = .float 0 :=
    Total.foldl_add_null _ fun c => ht.eq_null_of_mem_column htype
  rw [sum, total, htype, htotal]
  rfl

theorem WellFormed.mean_of_null (ht : t.WellFormed) (htype : t.typeAt i = .null) :
    t.mean i = .ok none := by
  have hpresent : t.present i = [] := by
    refine List.filter_eq_nil_iff.2 fun c hc => ?_
    rw [ht.eq_null_of_mem_column htype hc]
    decide
  rw [mean, count, hpresent]
  rfl

/-! ### Reductions of a named column -/

section Reduce

variable {name : String} (hname : t.schema.indexOf? name = some i)
include hname

theorem reduce_min : t.reduce name .min = .ok ((extreme .lt (t.present i)).getD .null) := by
  simp [reduce, Schema.lookUp, hname, bind, Except.bind]

theorem reduce_max : t.reduce name .max = .ok ((extreme .gt (t.present i)).getD .null) := by
  simp [reduce, Schema.lookUp, hname, bind, Except.bind]

theorem reduce_sum : t.reduce name .sum = if (t.typeAt i).isNumeric then t.total i
    else .error (.notNumeric name (t.typeAt i) "sum") := by
  simp [reduce, Schema.lookUp, hname, bind, Except.bind, Reduction.name]

theorem reduce_mean : t.reduce name .mean = if (t.typeAt i).isNumeric
    then (t.mean i).map fun m => (m.map Cell.float).getD .null
    else .error (.notNumeric name (t.typeAt i) "mean") := by
  simp [reduce, Schema.lookUp, hname, bind, Except.bind, Reduction.name]

end Reduce

end Table

end TableReport
