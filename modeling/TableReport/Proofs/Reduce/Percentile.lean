import TableReport.Proofs.Number.Product
import TableReport.Reduce.Statistics
/-!
# Quartiles stay inside the list

The position of a quartile is calculated with numbers that are rounded twice: the index of the last
element, and its product with the share. Still neither of its neighbours is beyond the last element.
-/
namespace TableReport

namespace Binary64

/-! ### Rounding to integers -/

theorem wholePart_le_wholeAbove (x : Binary64) : x.wholePart ≤ x.wholeAbove := by
  unfold wholeAbove
  split <;> omega

/-- What is at most a natural number is rounded up to at most that number. -/
theorem wholeAbove_le {x : Binary64} {n : Nat} (hfinite : x.isFinite = true)
    (h : units x.magnitude ≤ n * unitsPerOne) : x.wholeAbove ≤ n := by
  obtain ⟨u, hu, hone⟩ := exists_unitsPerOne_eq_pow
  rw [units_magnitude, hone] at h
  unfold wholeAbove isWhole wholePart
  rw [hfinite, Bool.true_and]
  have hleast := x.le_exponent
  by_cases he : 0 ≤ x.exponent
  · have hsplit : (x.exponent + 1074).toNat = x.exponent.toNat + u := by omega
    rw [hsplit, pow_add, ← Nat.mul_assoc] at h
    simpa [he] using Nat.le_of_mul_le_mul_right h (Nat.two_pow_pos u)
  · have hsplit : u = (-x.exponent).toNat + (x.exponent + 1074).toNat := by omega
    rw [hsplit, pow_add, ← Nat.mul_assoc] at h
    have hle := Nat.le_of_mul_le_mul_right h (Nat.two_pow_pos _)
    have hpos : 0 < 2 ^ (-x.exponent).toNat := Nat.two_pow_pos _
    simp only [he, decide_false, Bool.false_or, if_false, Nat.pow_eq, beq_iff_eq]
    generalize 2 ^ (-x.exponent).toNat = d at *
    split
    case isTrue hzero => exact Nat.div_le_of_le_mul (hle.trans (Nat.mul_comm n d).le)
    case isFalse hzero =>
      refine (Nat.div_lt_iff_lt_mul hpos).2 (Nat.lt_of_le_of_ne hle ?_)
      rintro heq
      exact hzero (heq ▸ Nat.mul_mod_left n d)

/-! ### Shares of a natural number -/

theorem one_le_nearestMagnitude {n : Nat} (hn : 0 < n) : 1023 * 2 ^ 52 ≤ nearestMagnitude n 1 := by
  refine le_nearestMagnitude_of_le Nat.one_pos (by decide) ?_
  rw [units_two_pow (j := 0) (by omega), Nat.mul_one, Nat.pow_zero]
  exact Nat.mul_le_mul_right _ hn

/-- The greatest magnitude that is at most a natural number is at least three quarters of the nearest
one, since the two are neighbours. -/
theorem exists_magnitude_le {n : Nat} (hn : 0 < n) : ∃ w, units w ≤ n * unitsPerOne ∧
    w ≤ nearestMagnitude n 1 ∧ 3 * units (nearestMagnitude n 1) ≤ 4 * units w := by
  have hone := one_le_nearestMagnitude hn
  obtain ⟨v, hv⟩ : ∃ v, v = nearestMagnitude n 1 := ⟨_, rfl⟩
  rw [← hv] at hone ⊢
  by_cases hle : units v ≤ n * unitsPerOne
  · exact ⟨v, hle, le_rfl, by omega⟩
  · -- The nearest magnitude is above the number, so the one before it is below.
    have hbelow : units (v - 1) ≤ n * unitsPerOne := by
      by_contra habove
      have hnearest : nearestMagnitude n 1 ≤ v - 1 :=
        nearestMagnitude_le_of_le Nat.one_pos (by omega)
      omega
    refine ⟨v - 1, hbelow, v.sub_le 1, ?_⟩
    obtain ⟨k, q, hw, hq, hk⟩ := exists_significand (v - 1)
    have hlarge : 2 ^ 52 ≤ q := by omega
    have hvalue : units (v - 1) = q * 2 ^ k := hw ▸ units_eq hq.le hk
    have hnext : units v = (q + 1) * 2 ^ k := by
      rw [show v = k * 2 ^ 52 + (q + 1) by omega]
      exact units_eq hq fun _ => by omega
    rw [hvalue, hnext, ← Nat.mul_assoc, ← Nat.mul_assoc]
    exact Nat.mul_le_mul_right _ (by omega)

theorem mul_le_mul_of_quarters {a b c u : Nat} (ha : 4 * a ≤ 3 * u) (hb : 3 * b ≤ 4 * c) :
    a * b ≤ c * u := by
  have h := Nat.mul_le_mul ha hb
  refine Nat.le_of_mul_le_mul_left ?_ (show 0 < 12 by decide)
  calc 12 * (a * b) = 4 * a * (3 * b) := by ring
    _ ≤ 3 * u * (4 * c) := h
    _ = 12 * (c * u) := by ring

/-- The product with a quarter, a half or three quarters of a natural number that has 64 bits is not
rounded up beyond that number. -/
theorem wholeAbove_mul_ofNat_le {q : Binary64} {n : Nat} (hq : 4 * units q.magnitude ≤ 3 * unitsPerOne)
    (hzero : q.magnitude ≠ 0) (hfinite : q.magnitude < infinityMagnitude)
    (hnegative : q.isNegative = false) (hn : 0 < n) (hword : n ≤ highestWord) :
    (q * ofNat n).isNegative = false ∧ (q * ofNat n).isNaN = false ∧ (q * ofNat n).wholeAbove ≤ n := by
  have hv : nearestMagnitude n 1 ≤ 1087 * 2 ^ 52 := by
    refine nearestMagnitude_le_of_le Nat.one_pos ?_
    rw [units_two_pow (j := 64) (by omega), Nat.mul_one]
    exact Nat.mul_le_mul_right _ (hword.trans (by decide))
  obtain ⟨w, hle, hwv, hnear⟩ := exists_magnitude_le hn
  have hinfinity := infinityMagnitude_eq
  have hmagnitude : (ofNat n).magnitude = nearestMagnitude n 1 := magnitude_ofMagnitude (by omega)
  have hsign : (ofNat n).isNegative = false := isNegative_ofMagnitude (by omega)
  have hone := one_le_nearestMagnitude hn
  have hproduct : nearestMagnitude (units q.magnitude * units (nearestMagnitude n 1))
      (unitsPerOne * unitsPerOne) ≤ w := by
    refine nearestMagnitude_le_of_le (Nat.mul_pos unitsPerOne_pos unitsPerOne_pos) ?_
    rw [← Nat.mul_assoc]
    exact Nat.mul_le_mul_right _ (mul_le_mul_of_quarters hq hnear)
  have hmul : q * ofNat n = ofMagnitude false (nearestMagnitude
      (units q.magnitude * units (nearestMagnitude n 1)) (unitsPerOne * unitsPerOne)) := by
    rw [mul_eq hfinite hzero (by omega) (by omega), hmagnitude, hnegative, hsign]
    rfl
  rw [hmul]
  generalize nearestMagnitude (units q.magnitude * units (nearestMagnitude n 1))
    (unitsPerOne * unitsPerOne) = p at *
  have hp : (ofMagnitude false p).magnitude = p := magnitude_ofMagnitude (by omega)
  refine ⟨isNegative_ofMagnitude (by omega), ?_, wholeAbove_le ?_ ?_⟩
  · rw [isNaN, hp]
    exact decide_eq_false (by omega)
  · rw [isFinite, hp]
    exact decide_eq_true (by omega)
  · rw [hp]
    exact (units_strictMono.monotone hproduct).trans hle

/-- The shares of the quartiles are at most three quarters. -/
theorem share_spec {percent : Nat} (h : percent = 25 ∨ percent = 50 ∨ percent = 75) :
    (ofNat percent / ofNat 100).isNegative = false ∧ (ofNat percent / ofNat 100).magnitude ≠ 0 ∧
      (ofNat percent / ofNat 100).magnitude ≤ 1022 * 2 ^ 52 + 2 ^ 51 := by
  rcases h with rfl | rfl | rfl <;> decide +kernel

theorem four_mul_units_share {percent : Nat} (h : percent = 25 ∨ percent = 50 ∨ percent = 75) :
    4 * units (ofNat percent / ofNat 100).magnitude ≤ 3 * unitsPerOne := by
  obtain ⟨u, hu, hone⟩ := exists_unitsPerOne_eq_pow
  have hle := units_strictMono.monotone (share_spec h).2.2
  have hthree : units (1022 * 2 ^ 52 + 2 ^ 51) = 3 * 2 ^ 51 * 2 ^ (u - 53) := by
    rw [show 1022 * 2 ^ 52 + 2 ^ 51 = (u - 53) * 2 ^ 52 + 3 * 2 ^ 51 by omega]
    exact units_eq (by decide) fun _ => by decide
  rw [hone, show u = 53 + (u - 53) by omega, pow_add]
  omega

end Binary64

/-- Neither neighbour of a share of an index is beyond that index. Indices of more than 64 bits are
beyond every position. -/
theorem floor_ceil_le {percent n : Nat} (hpercent : percent = 25 ∨ percent = 50 ∨ percent = 75)
    (hn : 0 < n) :
    Rounding.floor (Binary64.ofNat percent / Binary64.ofNat 100 * (n : Binary64)) ≤ n ∧
      Rounding.ceil (Binary64.ofNat percent / Binary64.ofNat 100 * (n : Binary64)) ≤ n := by
  obtain ⟨hnegative, hzero, hle⟩ := Binary64.share_spec hpercent
  have hshare := Binary64.four_mul_units_share hpercent
  generalize Binary64.ofNat percent / Binary64.ofNat 100 = q at *
  change (if (q * Binary64.ofNat n).isNegative || (q * Binary64.ofNat n).isNaN then 0
      else min (q * Binary64.ofNat n).wholePart highestWord) ≤ n ∧
    (if (q * Binary64.ofNat n).isNegative || (q * Binary64.ofNat n).isNaN then 0
      else min (q * Binary64.ofNat n).wholeAbove highestWord) ≤ n
  by_cases hword : n ≤ highestWord
  · have hinfinity := Binary64.infinityMagnitude_eq
    obtain ⟨hpositive, hnumber, habove⟩ :=
      Binary64.wholeAbove_mul_ofNat_le hshare hzero (by omega) hnegative hn hword
    have hpart := (q * Binary64.ofNat n).wholePart_le_wholeAbove
    simp only [hpositive, hnumber, Bool.or_self, Bool.false_eq_true, if_false]
    omega
  · constructor <;> split <;> omega

/-- With values, the quartiles lie between values. -/
theorem percentile_isSome {sorted : List Binary64} (hsorted : sorted ≠ []) {percent : Nat}
    (hpercent : percent = 25 ∨ percent = 50 ∨ percent = 75) :
    (percentile sorted (Binary64.ofNat percent / Binary64.ofNat 100)).isSome = true := by
  match sorted, hsorted with
  | [x], _ => rfl
  | x :: y :: rest, _ =>
    obtain ⟨hfloor, hceil⟩ := floor_ceil_le hpercent (Nat.succ_pos rest.length)
    have hlower := List.getElem?_eq_getElem (l := x :: y :: rest) (Nat.lt_succ_of_le hfloor)
    have hupper := List.getElem?_eq_getElem (l := x :: y :: rest) (Nat.lt_succ_of_le hceil)
    simp only [percentile, List.length_cons, Nat.add_sub_cancel]
    split
    · exact hlower ▸ rfl
    · rw [hlower, hupper]
      rfl

end TableReport
