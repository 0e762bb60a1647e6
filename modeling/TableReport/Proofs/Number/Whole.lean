import TableReport.Proofs.Number.Rounding
/-!
# Whole numbers

Of a number that is an integer, the integer itself is read, cut to the range of 64 bits. So it is read
exactly when it is in the range, and as the end of the range beyond.
-/
namespace TableReport.Binary64

/-- A finite number is an integer: both are the same in units of the smallest positive number. -/
def IsInteger (x : Binary64) (i : Int) : Prop :=
  x.isFinite = true ∧ x.withSign (units x.magnitude) = i * unitsPerOne

theorem withSign_mul (x : Binary64) (n c : Nat) : x.withSign (n * c) = x.withSign n * c := by
  unfold withSign
  split <;> push_cast <;> ring

theorem natAbs_withSign (x : Binary64) (n : Nat) : (x.withSign n).natAbs = n := by
  unfold withSign
  split <;> simp

/-- A magnitude is a number of ones when nothing of it stands behind the point, and then it is the part
before the point. -/
theorem units_eq_mul_iff (x : Binary64) (n : Nat) : units x.magnitude = n * unitsPerOne ↔
    (0 ≤ x.exponent ∨ x.significand % 2 ^ (-x.exponent).toNat = 0) ∧ x.wholePart = n := by
  obtain ⟨u, hu, hone⟩ := exists_unitsPerOne_eq_pow
  have hleast := x.le_exponent
  rw [units_magnitude, hone, wholePart]
  simp only [Nat.pow_eq]
  by_cases he : 0 ≤ x.exponent
  · have hsplit : (x.exponent + 1074).toNat = x.exponent.toNat + u := by omega
    rw [hsplit, pow_add, ← Nat.mul_assoc, Nat.mul_left_inj (Nat.two_pow_pos u).ne', if_pos he]
    simp [he]
  · have hsplit : u = (-x.exponent).toNat + (x.exponent + 1074).toNat := by omega
    rw [hsplit, pow_add, ← Nat.mul_assoc, Nat.mul_left_inj (Nat.two_pow_pos _).ne', if_neg he]
    generalize hd : 2 ^ (-x.exponent).toNat = d
    have hpos : 0 < d := hd ▸ Nat.two_pow_pos _
    constructor
    · intro h
      exact ⟨.inr (h ▸ Nat.mul_mod_left n d), h ▸ Nat.mul_div_cancel n hpos⟩
    · rintro ⟨hmod, rfl⟩
      exact (Nat.div_mul_cancel (Nat.dvd_of_mod_eq_zero (hmod.resolve_left he))).symm

/-- A number is an integer when it is whole, and then it is its whole part with its sign. -/
theorem isInteger_iff {x : Binary64} {i : Int} :
    x.IsInteger i ↔ x.isWhole = true ∧ x.withSign x.wholePart = i := by
  have hone : (unitsPerOne : Int) ≠ 0 := Int.natCast_ne_zero.2 unitsPerOne_pos.ne'
  simp only [IsInteger, isWhole, Bool.and_eq_true, Bool.or_eq_true, decide_eq_true_eq, beq_iff_eq,
    Nat.pow_eq, and_assoc]
  refine and_congr_right fun _ => ?_
  constructor
  · intro h
    have habs := congrArg Int.natAbs h
    rw [natAbs_withSign, Int.natAbs_mul, Int.natAbs_natCast] at habs
    obtain ⟨hwhole, hpart⟩ := (x.units_eq_mul_iff _).1 habs
    refine ⟨hwhole, ?_⟩
    rw [habs, withSign_mul, ← hpart] at h
    exact Int.eq_of_mul_eq_mul_right hone h
  · rintro ⟨hwhole, rfl⟩
    rw [(x.units_eq_mul_iff _).2 ⟨hwhole, rfl⟩, withSign_mul]

theorem IsInteger.isWhole {x : Binary64} {i : Int} (h : x.IsInteger i) : x.isWhole = true :=
  (isInteger_iff.1 h).1

theorem IsInteger.unique {x : Binary64} {i j : Int} (hi : x.IsInteger i) (hj : x.IsInteger j) : i = j :=
  (isInteger_iff.1 hi).2.symm.trans (isInteger_iff.1 hj).2

theorem toInt_clampInt64 (i : Int) : (clampInt64 i).toInt = max lowestInt64 (min highestInt64 i) := by
  have hrange : lowestInt64 ≤ highestInt64 := by decide
  have hends : lowestInt64 = -2 ^ 63 ∧ highestInt64 = 2 ^ 63 - 1 := by decide
  exact Int64.toInt_ofInt_of_le (by omega) (by omega)

/-- An integer is cut to the range of 64-bit integers. -/
theorem IsInteger.toInt_truncate {x : Binary64} {i : Int} (h : x.IsInteger i) :
    x.truncate.toInt = max lowestInt64 (min highestInt64 i) := by
  have hfinite := h.1
  obtain ⟨-, rfl⟩ := isInteger_iff.1 h
  rw [truncate, isNaN_of_isFinite hfinite, hfinite, ← toInt_clampInt64]
  rfl

/-- It is read as it is when it is in the range. -/
theorem IsInteger.toInt_truncate_eq_iff {x : Binary64} {i : Int} (h : x.IsInteger i) :
    x.truncate.toInt = i ↔ fitsInt64 i = true := by
  have hrange : lowestInt64 ≤ highestInt64 := by decide
  rw [h.toInt_truncate, fitsInt64, Bool.and_eq_true, decide_eq_true_eq, decide_eq_true_eq]
  omega

end TableReport.Binary64
