import TableReport.Proofs.Number.Integer
import TableReport.Proofs.Reduce.Total
/-!
# Totals of integers are exact

In a table of less than 2^63 rows no total of integers leaves the range of 128-bit words, however far from
64 bits it is on the way. Only the last of these totals says whether a sum comes out, and with it a mean or
a description.
-/
namespace TableReport

namespace Total

/-- A total in a 128-bit word with one more cell, unless it overflows. -/
def addWide (sum : BitVec 128) : Cell → Option (BitVec 128)
  | .int v =>
    if sum.saddOverflow (.ofInt 128 v.toInt) then none else some (sum + .ofInt 128 v.toInt)
  | _ => some sum

def ofCellsWide (cells : List Cell) : Option (BitVec 128) := cells.foldlM addWide 0#128

theorem natAbs_integer_le (c : Cell) : c.integer.natAbs ≤ 2 ^ 63 := by
  cases c with
  | int v =>
    have hlow := v.le_toInt
    have hhigh := v.toInt_lt
    simp only [Cell.integer]
    omega
  | null | float | bool | text | dateTime => exact Nat.zero_le _

theorem addWide_eq_some (c : Cell) {sum : BitVec 128} (h : sum.toInt.natAbs + 2 ^ 63 < 2 ^ 127) :
    ∃ sum', addWide sum c = some sum' ∧ sum'.toInt = sum.toInt + c.integer := by
  have hle := natAbs_integer_le c
  cases c with
  | int v =>
    have hword : (BitVec.ofInt 128 v.toInt).toInt = v.toInt := by
      apply BitVec.toInt_ofInt_eq_self (by decide) <;> simp only [Cell.integer] at hle <;> omega
    have hfits : ¬sum.saddOverflow (.ofInt 128 v.toInt) = true := by
      simp only [BitVec.saddOverflow, hword, Cell.integer] at hle ⊢
      simp only [Bool.or_eq_true, decide_eq_true_eq]
      omega
    refine ⟨_, if_neg hfits, ?_⟩
    rw [BitVec.toInt_add_of_not_saddOverflow hfits, hword, Cell.integer]
  | null | float | bool | text | dateTime => exact ⟨sum, rfl, (Int.add_zero _).symm⟩

/-- There is room in the word for all cells that are to come. -/
theorem foldlM_addWide (cells : List Cell) {sum : BitVec 128}
    (h : sum.toInt.natAbs + cells.length * 2 ^ 63 < 2 ^ 127) :
    ∃ sum', cells.foldlM addWide sum = some sum' ∧ sum'.toInt = sum.toInt + integerSum cells := by
  induction cells generalizing sum with
  | nil => exact ⟨sum, rfl, (Int.add_zero _).symm⟩
  | cons c cells ih =>
    rw [List.length_cons] at h
    have hroom : sum.toInt.natAbs + 2 ^ 63 < 2 ^ 127 := by omega
    obtain ⟨next, hnext, hvalue⟩ := addWide_eq_some c hroom
    have hle := natAbs_integer_le c
    have hrest : next.toInt.natAbs + cells.length * 2 ^ 63 < 2 ^ 127 := by omega
    obtain ⟨sum', hsum', hvalue'⟩ := ih hrest
    refine ⟨sum', ?_, ?_⟩
    · rw [List.foldlM_cons, hnext]
      exact hsum'
    · rw [hvalue', hvalue, integerSum, integerSum, List.map_cons, List.sum_cons, Int.add_assoc]

theorem ofCellsWide_eq_some {cells : List Cell} (h : cells.length < 2 ^ 63) :
    ∃ sum, ofCellsWide cells = some sum ∧ sum.toInt = integerSum cells ∧
      ofCells .int64 cells = .int sum.toInt := by
  have hroom : (0#128).toInt.natAbs + cells.length * 2 ^ 63 < 2 ^ 127 := by
    rw [BitVec.toInt_zero]
    omega
  obtain ⟨sum, hsum, hvalue⟩ := foldlM_addWide cells hroom
  rw [BitVec.toInt_zero, Int.zero_add] at hvalue
  exact ⟨sum, hsum, hvalue, hvalue ▸ ofCells_int64 cells⟩

theorem exists_toInt_iff {total : Int} :
    (∃ v : Int64, v.toInt = total) ↔ fitsInt64 total = true := by
  constructor
  · rintro ⟨v, rfl⟩
    exact fitsInt64_toInt v
  · intro h
    exact ⟨.ofInt total, toInt_ofInt_of_fits h⟩

theorem finish_int (v : Int64) (column : String) :
    (Total.int v.toInt).finish column = .ok (.int v) := by
  rw [finish, if_pos (exists_toInt_iff.1 ⟨v, rfl⟩), Int64.ofInt_toInt]

end Total

namespace Table

def meanOf (t : Table) (i : Nat) (total : Int64) : Option Binary64 :=
  if t.count i = 0 then none else some (.ofInt64 total / .ofNat (t.count i))

/-- What a column with a 64-bit total is reduced to. -/
structure SumsTo (t : Table) (i : Nat) (total : Int64) : Prop where
  reduce : ∀ name, t.schema.indexOf? name = some i → t.reduce name .sum = .ok (.int total)
  sum : t.sum i = .ok (.ofInt64 total)
  mean : t.mean i = .ok (t.meanOf i total)
  describe : t.describe i = .ok (.ofNumbers (t.meanOf i total) (t.numbers i))

/-- Nothing that needs the total of a column comes out. -/
structure Overflows (t : Table) (i : Nat) : Prop where
  reduce : ∀ name, t.schema.indexOf? name = some i →
    t.reduce name .sum = .error (.overflow name)
  sum : t.sum i = .error (.overflow (t.nameAt i))
  mean : t.mean i = .error (.overflow (t.nameAt i))
  describe : t.describe i = .error (.overflow (t.nameAt i))

variable {t : Table} {i : Nat} {v : Int64}

theorem sumsTo_of_total (htype : t.typeAt i = .int64) (h : t.total i = .ok (.int v)) :
    t.SumsTo i v := by
  have hsum : t.sum i = .ok (.ofInt64 v) := by
    rw [sum, h]
    rfl
  have hmean : t.mean i = .ok (t.meanOf i v) := by
    unfold mean meanOf
    split
    · rfl
    · rw [hsum]
      rfl
  constructor
  · intro name hname
    rw [reduce_sum hname, htype, h]
    rfl
  · exact hsum
  · exact hmean
  · rw [describe, hmean]
    rfl

theorem overflows_of_total (htype : t.typeAt i = .int64) (hcount : t.count i ≠ 0)
    (h : t.total i = .error (.overflow (t.nameAt i))) : t.Overflows i := by
  have hsum : t.sum i = .error (.overflow (t.nameAt i)) := by
    rw [sum, h]
    rfl
  have hmean : t.mean i = .error (.overflow (t.nameAt i)) := by
    rw [mean, if_neg hcount, hsum]
    rfl
  constructor
  · intro name hname
    rw [reduce_sum hname, htype, h, nameAt_of_indexOf? hname]
    rfl
  · exact hsum
  · exact hmean
  · rw [describe, hmean]
    rfl

/-- The totals of the cells of an integer column from the first on are exact in 128-bit words, and
only the last one has to be a 64-bit integer. -/
theorem WellFormed.exact_total (ht : t.WellFormed) (hsize : t.size < 2 ^ 63)
    (htype : t.typeAt i = .int64) :
    (∀ k, ∃ sum, Total.ofCellsWide ((t.column i).take k) = some sum ∧
      sum.toInt = integerSum ((t.column i).take k) ∧
      Total.ofCells .int64 ((t.column i).take k) = .int sum.toInt) ∧
    (∀ v : Int64, v.toInt = integerSum (t.column i) → t.SumsTo i v) ∧
    ((¬∃ v : Int64, v.toInt = integerSum (t.column i)) → t.Overflows i) := by
  have hlength : (t.column i).length = t.size := List.length_map _
  refine ⟨?_, ?_, ?_⟩
  · intro k
    apply Total.ofCellsWide_eq_some
    rw [List.length_take]
    omega
  · intro v hv
    apply sumsTo_of_total htype
    rw [total, htype, Total.ofCells_int64, ← hv, Total.finish_int]
  · intro hnone
    rw [Total.exists_toInt_iff, Bool.not_eq_true] at hnone
    apply overflows_of_total htype
    · intro hcount
      rw [ht.integerSum_eq_zero htype hcount] at hnone
      exact absurd hnone (by decide)
    · rw [total, Total.finish_ofCells_eq_error_iff]
      exact ⟨rfl, htype, hnone⟩

/-- The total leaves 64 bits on the way and comes back, but without the last row it stays outside. -/
theorem exact_total_past_largest :
    let schema : Schema := ⟨[⟨"n", .int64⟩]⟩
    let t : Table := ⟨schema, [[.int Int64.maxValue], [.null], [.int 1], [.int (-1)]]⟩
    let short : Table := ⟨schema, [[.int Int64.maxValue], [.null], [.int 1]]⟩
    t.WellFormed ∧ integerSum ((t.column 0).take 3) = 2 ^ 63 ∧ t.SumsTo 0 Int64.maxValue ∧
      short.WellFormed ∧ short.Overflows 0 := by
  intro schema t short
  have ht : t.WellFormed := by decide
  have hshort : short.WellFormed := by decide
  refine ⟨ht, by decide, ?_, hshort, ?_⟩
  · exact (ht.exact_total (by decide) rfl).2.1 _ (by decide)
  · apply (hshort.exact_total (by decide) rfl).2.2
    rw [Total.exists_toInt_iff]
    decide

end Table

end TableReport
