import TableReport.Proofs.Number.Binary64
import TableReport.Table.Basic
/-!
# Cells that are the same

Two cells are the same when they have one value. NaN comes in many patterns and zero in two, and each of
them is one value here. Keys are what the same cells have in common.
-/
namespace TableReport

theorem Binary64.canonical_eq_iff {x y : Binary64} : x.canonical = y.canonical ↔
    x = y ∨ (x.isNaN = true ∧ y.isNaN = true) ∨ (x.isZero = true ∧ y.isZero = true) := by
  have hnan : nan.isNaN = true := by decide
  have hzero : (0 : Binary64).isZero = true ∧ (0 : Binary64).isNaN = false := by decide
  have hnumber : ∀ z : Binary64, z.isZero = true → z.isNaN = false := by
    intro z hz
    rw [isZero, beq_iff_eq] at hz
    simp [isNaN, hz]
  unfold canonical
  split <;> split <;> grind

namespace Cell

/-- Equal values of one kind, two NaNs, or two zeros. -/
inductive Same : Cell → Cell → Prop
  | equal (c : Cell) : Same c c
  | nan {v w : Binary64} (hv : v.isNaN = true) (hw : w.isNaN = true) : Same (.float v) (.float w)
  | zero {v w : Binary64} (hv : v.isZero = true) (hw : w.isZero = true) : Same (.float v) (.float w)

variable {a b c : Cell}

theorem same_iff_key : a.Same b ↔ a.key = b.key := by
  constructor
  · intro h
    cases h with
    | equal => rfl
    | nan hv hw => exact congrArg float (Binary64.canonical_eq_iff.2 (.inr (.inl ⟨hv, hw⟩)))
    | zero hv hw => exact congrArg float (Binary64.canonical_eq_iff.2 (.inr (.inr ⟨hv, hw⟩)))
  · intro h
    cases a with
    | float v =>
      cases b with
      | float w =>
        rcases Binary64.canonical_eq_iff.1 (float.inj h) with rfl | ⟨hv, hw⟩ | ⟨hv, hw⟩
        · exact .equal _
        · exact .nan hv hw
        · exact .zero hv hw
      | null | int | bool | text | dateTime => cases h
    | null | int | bool | text | dateTime =>
      cases b <;> cases h
      exact .equal _

instance (a b : Cell) : Decidable (a.Same b) := decidable_of_iff _ same_iff_key.symm

theorem Same.symm (h : a.Same b) : b.Same a := same_iff_key.2 (same_iff_key.1 h).symm

theorem Same.trans (hab : a.Same b) (hbc : b.Same c) : a.Same c :=
  same_iff_key.2 ((same_iff_key.1 hab).trans (same_iff_key.1 hbc))

instance setoid : Setoid Cell := ⟨Same, .equal, .symm, .trans⟩

instance (a b : Cell) : Decidable (a ≈ b) := inferInstanceAs (Decidable (a.Same b))

/-- The zeros of two kinds of numbers differ, and so do the two ways to have no value. -/
example : Same (.float 0) (.float (-0)) ∧ ¬Same (.float 0) (.int 0) ∧ ¬Same (.float .nan) .null := by
  decide

end Cell

end TableReport
