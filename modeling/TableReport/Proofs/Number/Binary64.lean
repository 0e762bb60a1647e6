import Mathlib.Algebra.Order.Ring.Nat
import TableReport.Number.Nearest
/-!
# Patterns, signs and magnitudes

A number is given by its sign and its magnitude, and no two numbers have the same place in the total
order.
-/
namespace TableReport.Binary64

theorem pow_63 : Nat.pow 2 63 = 9223372036854775808 := rfl

theorem infinityMagnitude_eq : infinityMagnitude = 9218868437227405312 := rfl

theorem bits_lt (x : Binary64) : x.bits.toNat < 18446744073709551616 := x.bits.toNat_lt

@[ext] theorem ext_bits {x y : Binary64} (h : x.bits.toNat = y.bits.toNat) : x = y := by
  cases x; cases y
  exact congrArg Binary64.mk (UInt64.toNat_inj.1 h)

theorem magnitude_lt (x : Binary64) : x.magnitude < 9223372036854775808 :=
  Nat.mod_lt _ (by decide)

/-- A pattern is its sign and its magnitude. -/
theorem bits_eq (x : Binary64) :
    x.bits.toNat = (if x.isNegative then 9223372036854775808 else 0) + x.magnitude := by
  have := x.bits_lt
  simp only [isNegative, magnitude, pow_63, decide_eq_true_eq]
  split <;> omega

section OfMagnitude

variable {negative : Bool} {m : Nat}

theorem bits_ofMagnitude (h : m < 9223372036854775808) : (ofMagnitude negative m).bits.toNat =
    (if negative then 9223372036854775808 else 0) + m := by
  rw [ofMagnitude, UInt64.toNat_ofNat', Nat.mod_eq_of_lt]
  · cases negative <;> simp
  · cases negative <;> simp <;> omega

theorem magnitude_ofMagnitude (h : m < 9223372036854775808) :
    (ofMagnitude negative m).magnitude = m := by
  rw [magnitude, bits_ofMagnitude h, pow_63]
  split <;> omega

theorem isNegative_ofMagnitude (h : m < 9223372036854775808) :
    (ofMagnitude negative m).isNegative = negative := by
  rw [isNegative, bits_ofMagnitude h, pow_63]
  cases negative <;> simp; omega

end OfMagnitude

theorem isNaN_of_isFinite {x : Binary64} (h : x.isFinite = true) : x.isNaN = false := by
  simp only [isFinite, isNaN, decide_eq_true_eq, decide_eq_false_iff_not] at h ⊢
  omega

theorem ofMagnitude_magnitude (x : Binary64) : ofMagnitude x.isNegative x.magnitude = x := by
  ext
  rw [bits_ofMagnitude x.magnitude_lt, ← bits_eq]

theorem rank_injective {x y : Binary64} (h : x.rank = y.rank) : x = y := by
  ext
  rw [bits_eq x, bits_eq y]
  unfold rank at h
  split at h <;> split at h <;> simp_all <;> omega

theorem significand_eq (x : Binary64) : x.significand =
    if x.magnitude < 2 ^ 52 then x.magnitude else 2 ^ 52 + x.magnitude % 2 ^ 52 := by
  unfold significand
  rw [Nat.pow_eq]
  split
  · exact Nat.mod_eq_of_lt ‹_›
  · rfl

theorem exponent_eq (x : Binary64) : x.exponent =
    if x.magnitude < 2 ^ 52 then -1074 else ((x.magnitude / 2 ^ 52 : Nat) : Int) - 1075 := by
  unfold exponent
  rw [Nat.pow_eq]

/-- The magnitude of a number by its exponent and its significand. -/
theorem magnitude_eq (x : Binary64) :
    x.magnitude = (x.exponent + 1074).toNat * 2 ^ 52 + x.significand := by
  rw [significand_eq, exponent_eq]
  split <;> omega

theorem significand_lt (x : Binary64) : x.significand < 2 ^ 53 := by
  rw [significand_eq]
  split <;> omega

theorem le_exponent (x : Binary64) : -1074 ≤ x.exponent := by
  rw [exponent_eq]
  split <;> omega

theorem le_significand {x : Binary64} (h : -1074 < x.exponent) : 2 ^ 52 ≤ x.significand := by
  rw [exponent_eq] at h
  rw [significand_eq]
  split at h
  · omega
  · rw [if_neg ‹_›]
    omega

theorem significand_pos {x : Binary64} (h : x.magnitude ≠ 0) : 0 < x.significand := by
  rw [significand_eq]
  split <;> omega

theorem canonical_isNaN (x : Binary64) : x.canonical.isNaN = x.isNaN := by
  unfold canonical
  split
  case isTrue h => rw [h]; rfl
  case isFalse h =>
    split
    · rw [Bool.not_eq_true] at h
      rw [h]; rfl
    · rfl

end TableReport.Binary64
