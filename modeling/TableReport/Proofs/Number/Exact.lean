import Mathlib.Data.Rat.Cast.Order
import Mathlib.Tactic.Ring
import TableReport.Proofs.Number.Whole
/-!
# Exact values

The value of a finite number as a rational one. The order of ranks is the order of values, but for the two
zeros, which have the same value.
-/
namespace TableReport.Binary64

/-- The value of a finite number: its significand times two to its exponent, with its sign. An infinity has
the power of two that would come next. -/
def exact (x : Binary64) : ℚ := x.withSign x.significand * 2 ^ x.exponent

theorem exact_eq (x : Binary64) : x.exact = x.withSign (units x.magnitude) / unitsPerOne := by
  obtain ⟨u, hu, hone⟩ := exists_unitsPerOne_eq_pow
  have hleast := x.le_exponent
  have hpower : (2 : ℚ) ^ x.exponent = 2 ^ (x.exponent + 1074).toNat / 2 ^ u := by
    have hexponent : x.exponent = ((x.exponent + 1074).toNat : Int) - u := by omega
    conv_lhs => rw [hexponent, zpow_sub₀ two_ne_zero, zpow_natCast, zpow_natCast]
  rw [exact, units_magnitude, withSign_mul, hone, hpower]
  push_cast
  ring

theorem exact_le_of_rank_le {x y : Binary64} (h : x.rank ≤ y.rank) : x.exact ≤ y.exact := by
  have hunits : x.withSign (units x.magnitude) ≤ y.withSign (units y.magnitude) := by
    unfold rank at h
    unfold withSign
    have hmono {m n : Nat} (hle : m ≤ n) : units m ≤ units n := units_strictMono.monotone hle
    split_ifs at * with hx hy hy
    · have := hmono (show y.magnitude ≤ x.magnitude by omega)
      omega
    · omega
    · omega
    · have := hmono (show x.magnitude ≤ y.magnitude by omega)
      omega
  rw [exact_eq, exact_eq]
  exact div_le_div_of_nonneg_right (Int.cast_le.2 hunits) (Nat.cast_nonneg _)

end TableReport.Binary64
