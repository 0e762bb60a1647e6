import Mathlib.Order.Defs.LinearOrder
import TableReport.Proofs.Number.Binary64
import TableReport.Proofs.Reduce.Sorting
import TableReport.Proofs.Table.WellFormed
/-!
# The order of the cells of a column

Cells of one type are in a linear order. So the cells of a column of a well-formed table can be sorted,
and two of them tie only when they are the same.
-/
namespace TableReport

instance : Std.TransCmp DateTime.order :=
  inferInstanceAs (Std.TransCmp <|
    compareLex (compareOn fun (t : DateTime) => t.date.year) <|
      compareLex (compareOn fun t => t.date.month) <| compareLex (compareOn fun t => t.date.day) <|
        compareLex (compareOn fun t => t.clock.hour) <|
          compareLex (compareOn fun t => t.clock.minute) <|
            compareLex (compareOn fun t => t.clock.second) (compareOn fun t => t.clock.nano))

theorem DateTime.order_eq_iff {a b : DateTime} : a.order b = .eq ↔ a = b := by
  obtain ⟨⟨_, _, _, _, _, _⟩, ⟨_, _, _, _, _, _, _, _⟩⟩ := a
  obtain ⟨⟨_, _, _, _, _, _⟩, ⟨_, _, _, _, _, _, _, _⟩⟩ := b
  simp [order, Ordering.then_eq_eq, Std.LawfulEqCmp.compare_eq_iff_eq, and_assoc]

instance : Std.TransCmp Binary64.totalOrder :=
  inferInstanceAs (Std.TransCmp (compareOn Binary64.rank))

theorem Binary64.totalOrder_eq_iff {x y : Binary64} : x.totalOrder y = .eq ↔ x = y := by
  rw [totalOrder, Std.LawfulEqCmp.compare_eq_iff_eq]
  exact ⟨rank_injective, congrArg rank⟩

namespace Cell

/-- The cells of a type, null not being one of them. -/
inductive IsOf : ColumnType → Cell → Prop where
  | int (v : Int64) : IsOf .int64 (.int v)
  | float (v : Binary64) : IsOf .float64 (.float v)
  | bool (v : Bool) : IsOf .bool (.bool v)
  | text (v : String) : IsOf .utf8 (.text v)
  | dateTime (v : DateTime) : IsOf .dateTime (.dateTime v)

variable {type : ColumnType} {a b c : Cell}

theorem isOf_of_fits (h : c.fits type = true) (hc : c ≠ .null) : IsOf type c := by
  cases c <;> cases type <;> first | exact absurd rfl hc | constructor | exact nomatch h

theorem IsOf.key (h : IsOf type c) : IsOf type c.key := by
  cases h <;> constructor

theorem isMissing_key (c : Cell) : c.key.isMissing = c.isMissing := by
  cases c with
  | float v => exact v.canonical_isNaN
  | _ => rfl

/-! ### A linear order -/

theorem IsOf.order_swap (ha : IsOf type a) (hb : IsOf type b) : a.order b = (b.order a).swap := by
  cases ha <;> cases hb
  case int.int v w => exact @Std.OrientedCmp.eq_swap Int compare _ v.toInt w.toInt
  case float.float v w => exact @Std.OrientedCmp.eq_swap _ Binary64.totalOrder _ v w
  case bool.bool v w => cases v <;> cases w <;> rfl
  case text.text v w => exact @Std.OrientedCmp.eq_swap String compare _ v w
  case dateTime.dateTime v w => exact @Std.OrientedCmp.eq_swap _ DateTime.order _ v w

theorem IsOf.order_isLE_trans (ha : IsOf type a) (hb : IsOf type b) (hc : IsOf type c)
    (hab : (a.order b).isLE = true) (hbc : (b.order c).isLE = true) :
    (a.order c).isLE = true := by
  cases ha <;> cases hb <;> cases hc
  case int.int.int u v w =>
    exact @Std.TransCmp.isLE_trans Int compare _ u.toInt v.toInt w.toInt hab hbc
  case float.float.float u v w =>
    exact @Std.TransCmp.isLE_trans _ Binary64.totalOrder _ u v w hab hbc
  case bool.bool.bool u v w =>
    revert hab hbc
    cases u <;> cases v <;> cases w <;> decide
  case text.text.text u v w => exact @Std.TransCmp.isLE_trans String compare _ u v w hab hbc
  case dateTime.dateTime.dateTime u v w =>
    exact @Std.TransCmp.isLE_trans _ DateTime.order _ u v w hab hbc

theorem IsOf.order_eq_iff (ha : IsOf type a) (hb : IsOf type b) : a.order b = .eq ↔ a = b := by
  cases ha <;> cases hb
  case int.int v w =>
    rw [Cell.int.injEq, ← Int64.toInt_inj]
    exact @Std.LawfulEqCmp.compare_eq_iff_eq Int compare _ v.toInt w.toInt
  case float.float v w =>
    rw [Cell.float.injEq]
    exact Binary64.totalOrder_eq_iff
  case bool.bool v w => cases v <;> cases w <;> decide
  case text.text v w =>
    rw [Cell.text.injEq]
    exact @Std.LawfulEqCmp.compare_eq_iff_eq String compare _ v w
  case dateTime.dateTime v w =>
    rw [Cell.dateTime.injEq]
    exact DateTime.order_eq_iff

theorem IsOf.order_lt_iff (ha : IsOf type a) (hb : IsOf type b) :
    a.order b = .lt ↔ (a.order b).isLE = true ∧ a ≠ b := by
  rw [ne_eq, ← ha.order_eq_iff hb]
  cases a.order b <;> decide

theorem IsOf.order_lt_of_lt_of_isLE (ha : IsOf type a) (hb : IsOf type b) (hc : IsOf type c)
    (hab : a.order b = .lt) (hbc : (b.order c).isLE = true) : a.order c = .lt := by
  obtain ⟨hle, hne⟩ := (ha.order_lt_iff hb).1 hab
  refine (ha.order_lt_iff hc).2 ⟨ha.order_isLE_trans hb hc hle hbc, ?_⟩
  rintro rfl
  rw [hb.order_swap ha, hab] at hbc
  exact nomatch hbc

/-- What is not further than one cell is not further than any cell that this one is not further than. -/
theorem IsOf.order_ne_trans {further : Ordering} (hne : further ≠ .eq) (ha : IsOf type a)
    (hb : IsOf type b) (hc : IsOf type c) (hab : a.order b ≠ further) (hbc : b.order c ≠ further) :
    a.order c ≠ further := by
  have hnot_lt : ∀ {o : Ordering}, o ≠ .lt ↔ o.swap.isLE = true := by decide
  have hnot_gt : ∀ {o : Ordering}, o ≠ .gt ↔ o.isLE = true := by decide
  cases further with
  | lt =>
    rw [hnot_lt, ← hb.order_swap ha] at hab
    rw [hnot_lt, ← hc.order_swap hb] at hbc
    rw [hnot_lt, ← hc.order_swap ha]
    exact hc.order_isLE_trans hb ha hbc hab
  | eq => exact absurd rfl hne
  | gt =>
    rw [hnot_gt] at hab hbc ⊢
    exact ha.order_isLE_trans hb hc hab hbc

theorem IsOf.order?_eq (ha : IsOf type a) (hb : IsOf type b) : a.order? b = some (a.order b) := by
  cases ha <;> cases hb <;> rfl

/-- Cells that compare as equal in a run of equal keys are the same. -/
theorem IsOf.order?_eq_iff (ha : IsOf type a) (hb : IsOf type b) :
    a.order? b = some .eq ↔ a = b := by
  rw [ha.order?_eq hb, Option.some_inj, ha.order_eq_iff hb]

end Cell

theorem Table.WellFormed.isOf_of_mem_column {t : Table} (ht : t.WellFormed) {i : Nat} {c : Cell}
    (hc : c ∈ t.column i) (hpresent : c.isMissing = false) : c.IsOf (t.typeAt i) := by
  apply Cell.isOf_of_fits (ht.fits_of_mem_column hc)
  rintro rfl
  cases hpresent

theorem Table.WellFormed.isOf_of_mem_present {t : Table} (ht : t.WellFormed) {i : Nat} {c : Cell}
    (hc : c ∈ t.present i) : c.IsOf (t.typeAt i) := by
  obtain ⟨hmem, hpresent⟩ := List.mem_filter.1 hc
  exact ht.isOf_of_mem_column hmem (by simpa using hpresent)

/-- Whatever has a cell of one type can be sorted by it. -/
theorem lawfulOn_order {α : Type} {cell : α → Cell} {xs : List α} {type : ColumnType}
    (h : ∀ x ∈ xs, (cell x).IsOf type) : LawfulOn (fun x y => (cell x).order (cell y)) xs where
  eq_swap ha hb := (h _ ha).order_swap (h _ hb)
  isLE_trans ha hb hc := (h _ ha).order_isLE_trans (h _ hb) (h _ hc)

/-! ### Increasing lists -/

/-- In ascending order, and no two of the cells are the same. -/
def Increasing (cells : List Cell) : Prop := cells.Pairwise fun a b => a.order b = .lt

section Increasing

variable {type : ColumnType} {xs ys : List Cell}

/-- The cells compare, each with those behind it. -/
theorem increasing_iff_order? (hof : ∀ c ∈ xs, c.IsOf type) :
    Increasing xs ↔ xs.Pairwise fun a b => a.order? b = some .lt := by
  apply List.Pairwise.iff_of_mem
  intro a b ha hb
  rw [(hof a ha).order?_eq (hof b hb), Option.some_inj]

theorem Increasing.nodup (hof : ∀ c ∈ xs, c.IsOf type) (h : Increasing xs) : xs.Nodup := by
  apply h.imp_of_mem
  intro a b ha hb hlt
  exact (((hof a ha).order_lt_iff (hof b hb)).1 hlt).2

/-- An increasing list is given by its members. -/
theorem Increasing.eq_of_mem_iff (hof : ∀ c ∈ xs, c.IsOf type) (hx : Increasing xs)
    (hy : Increasing ys) (h : ∀ c, c ∈ xs ↔ c ∈ ys) : xs = ys := by
  have hof' : ∀ c ∈ ys, c.IsOf type := fun c hc => hof c ((h c).2 hc)
  apply List.Perm.eq_of_pairwise _ hx hy
  · rw [List.perm_ext_iff_of_nodup (hx.nodup hof) (hy.nodup hof')]
    exact h
  · intro a b ha hb hab hba
    rw [(hof a ha).order_swap (hof' b hb), hba] at hab
    cases hab

theorem increasing_sortBy (hof : ∀ c ∈ xs, c.IsOf type) (h : xs.Nodup) :
    Increasing (sortBy Cell.order xs) := by
  have hperm := sortBy_perm Cell.order xs
  have hsorted : Ascending Cell.order (sortBy Cell.order xs) :=
    (@lawfulOn_order Cell id xs type hof).sortBy_ascending
  apply (hsorted.and (hperm.nodup_iff.2 h)).imp_of_mem
  intro a b ha hb hab
  rw [(hof a (hperm.mem_iff.1 ha)).order_lt_iff (hof b (hperm.mem_iff.1 hb))]
  exact hab

end Increasing

end TableReport
