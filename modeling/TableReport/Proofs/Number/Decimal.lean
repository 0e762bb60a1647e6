import Mathlib.Data.Nat.Digits.Defs
import Mathlib.Tactic.Positivity
import TableReport.Number.Reading
import TableReport.Number.Shortest
import TableReport.Proofs.Number.Rounding
/-!
# Decimals

A decimal is read to the number nearest to its value, however large or small its scale is, and its text
is read to its digits.
-/
namespace TableReport

/-- Powers of different bases, compared through exponents for which they are close. -/
theorem pow_le_pow_of_close {a b p r g l : Nat} (ha : 0 < a) (hr : r ≠ 0) (hclose : a ^ p ≤ b ^ r)
    (h : r * g ≤ p * l) : a ^ g ≤ b ^ l := by
  refine (Nat.pow_le_pow_iff_left hr).1 ?_
  calc (a ^ g) ^ r = a ^ (r * g) := by rw [← pow_mul, Nat.mul_comm]
    _ ≤ a ^ (p * l) := Nat.pow_le_pow_right ha h
    _ = (a ^ p) ^ l := pow_mul a p l
    _ ≤ (b ^ r) ^ l := Nat.pow_le_pow_left hclose l
    _ = (b ^ l) ^ r := by rw [← pow_mul, ← pow_mul, Nat.mul_comm]

/-- Comparing after both sides have been multiplied. -/
theorem compare_of_mul_eq {a b c d s t : Nat} (hs : 0 < s) (ht : 0 < t) (ha : a * s = c * t)
    (hb : b * s = d * t) : (a ≤ b ↔ c ≤ d) ∧ (a = b ↔ c = d) := by
  constructor
  · rw [← Nat.mul_le_mul_right_iff hs, ha, hb, Nat.mul_le_mul_right_iff ht]
  · rw [← Nat.mul_left_inj hs.ne', ha, hb, Nat.mul_left_inj ht.ne']

/-- The ratio is the value of the decimal. -/
def Decimal.Denotes (d : Decimal) (n w : Nat) : Prop :=
  n * 10 ^ (-d.scale).toNat = d.digits * 10 ^ d.scale.toNat * w

theorem Decimal.denotes_self (d : Decimal) :
    d.Denotes (d.digits * 10 ^ d.scale.toNat) (10 ^ (-d.scale).toNat) :=
  rfl

/-- Zeros may be added behind the last digit. -/
theorem Decimal.denotes_shift_iff {m j n w : Nat} {scale : Int} :
    Denotes ⟨m * 10 ^ j, scale - j⟩ n w ↔ Denotes ⟨m, scale⟩ n w := by
  have hplaces : (-(scale - j)).toNat + scale.toNat =
      (-scale).toNat + ((scale - j).toNat + j) := by omega
  unfold Denotes
  refine (compare_of_mul_eq (s := 10 ^ scale.toNat) (t := 10 ^ ((scale - j).toNat + j))
    (by positivity) (by positivity) ?_ ?_).2
  · rw [Nat.mul_assoc, ← pow_add, hplaces, pow_add, Nat.mul_assoc]
  · rw [pow_add]
    ring

/-! ### Digits -/

theorem digitsValue_eq (ds : List Char) : digitsValue ds = Nat.ofDigitChars 10 ds 0 := by
  rw [Nat.ofDigitChars_eq_foldl, digitsValue]
  simp only [Nat.mul_comm _ 10]
  rfl

theorem digitsValue_toDigits (n : Nat) : digitsValue (Nat.toDigits 10 n) = n := by
  rw [digitsValue_eq, Nat.ofDigitChars_ten_toDigits]

theorem digitsValue_append_zeros (ds : List Char) (k : Nat) :
    digitsValue (ds ++ List.replicate k '0') = digitsValue ds * 10 ^ k := by
  rw [digitsValue_eq, digitsValue_eq, Nat.ofDigitChars_append, Nat.ofDigitChars_replicate_zero,
    Nat.mul_comm]

theorem digitsValue_zeros_append (ds : List Char) (k : Nat) :
    digitsValue (List.replicate k '0' ++ ds) = digitsValue ds := by
  rw [digitsValue_eq, digitsValue_eq, Nat.ofDigitChars_append, Nat.ofDigitChars_replicate_zero,
    Nat.mul_zero]

theorem digitValue_le {c : Char} (h : c.isDigit = true) : digitValue c ≤ 9 := by
  simp only [Char.isDigit, Bool.and_eq_true, decide_eq_true_eq] at h
  have hnine : c.toNat ≤ 57 := h.2
  exact Nat.sub_le_sub_right hnine 48

theorem digitsValue_lt {ds : List Char} (hds : ∀ c ∈ ds, c.isDigit = true) :
    digitsValue ds < 10 ^ ds.length := by
  induction ds using List.reverseRecOn with
  | nil => decide
  | append_singleton ds c ih =>
    have hlast := digitValue_le (hds c (by simp))
    have hfront := ih fun d hd => hds d (List.mem_append_left _ hd)
    have happend : digitsValue (ds ++ [c]) = digitsValue ds * 10 + digitValue c := by
      rw [digitsValue, List.foldl_append]
      rfl
    rw [happend, List.length_append, List.length_singleton, Nat.pow_succ]
    omega

theorem lt_pow_length_toDigits (n : Nat) : n < 10 ^ (Nat.toDigits 10 n).length :=
  (Nat.length_toDigits_le_iff (by decide) Nat.length_toDigits_pos).1 le_rfl

theorem pow_length_toDigits_le {n : Nat} (hn : 0 < n) :
    10 ^ ((Nat.toDigits 10 n).length - 1) ≤ n := by
  obtain hone | hmore := Nat.eq_zero_or_pos ((Nat.toDigits 10 n).length - 1)
  · rw [hone]
    exact hn
  · refine Nat.le_of_not_lt fun hlt => ?_
    have := (Nat.length_toDigits_le_iff (by decide) hmore).2 hlt
    omega

/-! ### Reading decimals -/

namespace Binary64

section Range

variable {n w e : Nat} (hw : 0 < w) (he : 400 ≤ e)

include hw he

theorem nearestMagnitude_eq_infinity (h : 10 ^ e * w ≤ n) :
    nearestMagnitude n w = infinityMagnitude := by
  obtain ⟨j, hj⟩ : ∃ j, j = 1024 := ⟨_, rfl⟩
  have hpow : 2 ^ j ≤ 10 ^ e :=
    pow_le_pow_of_close (p := 3) (r := 1) Nat.two_pos Nat.one_ne_zero (by decide) (by omega)
  have hmagnitude : infinityMagnitude = 1023 * 2 ^ 52 + j * 2 ^ 52 := by
    rw [infinityMagnitude_eq]
    omega
  refine Nat.le_antisymm (nearestMagnitude_le_infinity n w) ?_
  refine le_nearestMagnitude_of_le hw le_rfl ?_
  rw [units_two_pow hmagnitude, Nat.mul_right_comm]
  exact Nat.mul_le_mul_right _ ((Nat.mul_le_mul_right w hpow).trans h)

theorem nearestMagnitude_eq_zero (h : n * 10 ^ e ≤ w) : nearestMagnitude n w = 0 := by
  obtain ⟨u, hu, hone⟩ := exists_unitsPerOne_eq_pow
  have hpow : 2 ^ (u + 1) ≤ 10 ^ e :=
    pow_le_pow_of_close (p := 3) (r := 1) Nat.two_pos Nat.one_ne_zero (by decide) (by omega)
  refine Nat.le_zero.1 (nearestMagnitude_le hw ?_ fun _ => rfl)
  calc 2 * (n * unitsPerOne) = n * 2 ^ (u + 1) := by rw [hone, pow_succ]; ring
    _ ≤ n * 10 ^ e := Nat.mul_le_mul_left n hpow
    _ ≤ w := h
    _ = (units 0 + units (0 + 1)) * w := (Nat.one_mul w).symm

end Range

/-- The number nearest to a decimal; the shortcuts for very large and very small ones change nothing. -/
theorem ofDecimal_eq (negative : Bool) (n : Nat) (scale : Int) : ofDecimal negative n scale =
    ofMagnitude negative (nearestMagnitude (n * 10 ^ scale.toNat) (10 ^ (-scale).toNat)) := by
  have hlt := lt_pow_length_toDigits n
  have hle := @pow_length_toDigits_le n
  have hpos := Nat.length_toDigits_pos (b := 10) (n := n)
  unfold ofDecimal
  simp only [Nat.pow_eq]
  generalize (Nat.toDigits 10 n).length = places at *
  obtain ⟨e, he⟩ : ∃ e, e = 400 := ⟨_, rfl⟩
  split_ifs with hzero hlarge hsmall hscale
  · rw [hzero, Nat.zero_mul]
    rfl
  · rw [infinity, nearestMagnitude_eq_infinity (by positivity) he.ge]
    calc 10 ^ e * 10 ^ (-scale).toNat ≤ 10 ^ (places - 1) * 10 ^ scale.toNat := by
          rw [← pow_add, ← pow_add]
          exact Nat.pow_le_pow_right (by decide) (by omega)
      _ ≤ n * 10 ^ scale.toNat := Nat.mul_le_mul_right _ (hle (Nat.pos_of_ne_zero hzero))
  · rw [nearestMagnitude_eq_zero (by positivity) he.ge]
    calc n * 10 ^ scale.toNat * 10 ^ e ≤ 10 ^ places * 10 ^ scale.toNat * 10 ^ e :=
          Nat.mul_le_mul_right _ (Nat.mul_le_mul_right _ hlt.le)
      _ ≤ 10 ^ (-scale).toNat := by
          rw [← pow_add, ← pow_add]
          exact Nat.pow_le_pow_right (by decide) (by omega)
  · rw [show (-scale).toNat = 0 by omega, pow_zero]
  · rw [show scale.toNat = 0 by omega, pow_zero, Nat.mul_one]

end Binary64

end TableReport
