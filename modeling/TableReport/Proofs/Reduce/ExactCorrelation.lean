import Mathlib.Analysis.Real.Sqrt
import Mathlib.Data.Sign.Basic
import Mathlib.Tactic.LinearCombination
import TableReport.Proofs.Reduce.Correlation
/-!
# Correlation of exact numbers

Calculated without rounding, the square of the covariance is at most the product of the variances: every pair
that is added keeps it so. The product is zero only where a side does not vary, and moving or stretching a
side changes the moments in proportion.
-/
namespace TableReport

/-! ### Means -/

/-- All elements are the same. -/
def Constant (xs : List ℚ) : Prop := ∀ x ∈ xs, ∀ y ∈ xs, x = y

section Means

variable {xs : List ℚ}

theorem average_eq (xs : List ℚ) : average xs = xs.sum / xs.length := by
  rw [average, neg_zero, List.sum_eq_foldl]

theorem natCast_length_ne_zero (h : xs ≠ []) : (xs.length : ℚ) ≠ 0 :=
  Nat.cast_ne_zero.2 (mt List.length_eq_zero_iff.1 h)

/-- A list that does not vary is one of its means. -/
theorem constant_iff_eq_average : Constant xs ↔ ∀ x ∈ xs, x = average xs := by
  constructor
  · intro h x hx
    have hsum : xs.sum = xs.length * x := by
      rw [List.eq_replicate_of_mem fun y hy => h y hy x hx, List.sum_replicate, List.length_replicate,
        nsmul_eq_mul]
    rw [average_eq, hsum, mul_div_cancel_left₀ _ (natCast_length_ne_zero (List.ne_nil_of_mem hx))]
  · intro h x hx y hy
    exact (h x hx).trans (h y hy).symm

/-- The mean moves and stretches with the numbers. -/
theorem average_affine (h : xs ≠ []) (a b : ℚ) :
    average (xs.map fun x => a * x + b) = a * average xs + b := by
  have hsum : (xs.map fun x => a * x + b).sum = a * xs.sum + xs.length * b := by
    rw [List.sum_map_add, List.sum_map_mul_left, List.map_id', List.map_const', List.sum_replicate,
      nsmul_eq_mul]
  rw [average_eq, average_eq, hsum, List.length_map]
  have := natCast_length_ne_zero h
  field_simp

theorem average_cast (xs : List ℚ) : average (xs.map ((↑) : ℚ → ℝ)) = (average xs : ℚ) := by
  rw [average_eq, average, neg_zero, ← List.sum_eq_foldl, List.length_map]
  rw [Rat.cast_div, Rat.cast_natCast]
  exact congrArg (· / (xs.length : ℝ)) (map_list_sum (Rat.castHom ℝ) xs).symm

end Means

namespace Moments

variable {m : Moments ℚ} {pairs : List (ℚ × ℚ)} {a b meanX meanY : ℚ}

/-! ### Sums of products -/

/-- What sums of products and of squares have in common with each other. -/
structure Consistent (m : Moments ℚ) : Prop where
  varianceX_nonneg : 0 ≤ m.varianceX
  varianceY_nonneg : 0 ≤ m.varianceY
  covariance_sq_le : m.covariance ^ 2 ≤ m.varianceX * m.varianceY

theorem Consistent.add (h : m.Consistent) (meanX meanY : ℚ) (p : ℚ × ℚ) :
    (m.add meanX meanY p).Consistent := by
  obtain ⟨hx, hy, hle⟩ := h
  obtain ⟨c, x, y⟩ := m
  dsimp only at hx hy hle
  unfold Moments.add
  generalize p.1 - meanX = d
  generalize p.2 - meanY = e
  have hd := mul_self_nonneg d
  have he := mul_self_nonneg e
  -- The mixed term is at most the sum of the terms whose product bounds its square.
  have hmixed : 2 * (c * (d * e)) ≤ x * (e * e) + y * (d * d) := by
    refine (abs_le_of_sq_le_sq' ?_ (add_nonneg (mul_nonneg hx he) (mul_nonneg hy hd))).2
    calc (2 * (c * (d * e))) ^ 2 = 4 * c ^ 2 * (d * e) ^ 2 := by ring
      _ ≤ 4 * (x * y) * (d * e) ^ 2 := by gcongr
      _ = (x * (e * e) + y * (d * d)) ^ 2 - (x * (e * e) - y * (d * d)) ^ 2 := by ring
      _ ≤ (x * (e * e) + y * (d * d)) ^ 2 := sub_le_self _ (sq_nonneg _)
  refine ⟨add_nonneg hx hd, add_nonneg hy he, ?_⟩
  calc (c + d * e) ^ 2 = c ^ 2 + 2 * (c * (d * e)) + (d * d) * (e * e) := by ring
    _ ≤ x * y + (x * (e * e) + y * (d * d)) + (d * d) * (e * e) := by gcongr
    _ = (x + d * d) * (y + e * e) := by ring

theorem Consistent.foldl (h : m.Consistent) (meanX meanY : ℚ) (pairs : List (ℚ × ℚ)) :
    (pairs.foldl (Moments.add meanX meanY) m).Consistent := by
  induction pairs generalizing m with
  | nil => exact h
  | cons p pairs ih => exact ih (h.add meanX meanY p)

theorem consistent_ofPairs (pairs : List (ℚ × ℚ)) : (ofPairs pairs).Consistent :=
  Consistent.foldl ⟨le_rfl, le_rfl, by norm_num⟩ _ _ pairs

/-! ### Sides that do not vary -/

theorem add_varianceX_eq_zero_iff (h : 0 ≤ m.varianceX) {p : ℚ × ℚ} :
    (m.add meanX meanY p).varianceX = 0 ↔ m.varianceX = 0 ∧ p.1 = meanX := by
  change m.varianceX + (p.1 - meanX) * (p.1 - meanX) = 0 ↔ _
  rw [add_eq_zero_iff_of_nonneg h (mul_self_nonneg _), mul_self_eq_zero, sub_eq_zero]

theorem foldl_varianceX_eq_zero_iff (h : m.Consistent) :
    (pairs.foldl (Moments.add meanX meanY) m).varianceX = 0 ↔
      m.varianceX = 0 ∧ ∀ p ∈ pairs, p.1 = meanX := by
  induction pairs generalizing m with
  | nil => simp
  | cons p pairs ih =>
    rw [List.foldl_cons, ih (h.add meanX meanY p), add_varianceX_eq_zero_iff h.varianceX_nonneg,
      List.forall_mem_cons, and_assoc]

theorem varianceX_eq_zero_iff : (ofPairs pairs).varianceX = 0 ↔ Constant (pairs.map Prod.fst) := by
  rw [constant_iff_eq_average, List.forall_mem_map, ofPairs,
    foldl_varianceX_eq_zero_iff ⟨le_rfl, le_rfl, by norm_num⟩]
  simp

theorem varianceY_eq_zero_iff : (ofPairs pairs).varianceY = 0 ↔ Constant (pairs.map Prod.snd) := by
  have hswap : (ofPairs (pairs.map Prod.swap)).varianceX = (ofPairs pairs).varianceY :=
    congrArg varianceX (ofPairs_swap mul_comm pairs)
  have hsnd : (pairs.map Prod.swap).map Prod.fst = pairs.map Prod.snd := by simp
  rw [← hswap, varianceX_eq_zero_iff, hsnd]

theorem product_eq_zero_iff : (ofPairs pairs).varianceX * (ofPairs pairs).varianceY = 0 ↔
    Constant (pairs.map Prod.fst) ∨ Constant (pairs.map Prod.snd) := by
  rw [mul_eq_zero, varianceX_eq_zero_iff, varianceY_eq_zero_iff]

/-! ### Equal sides -/

theorem exists_foldl_of_equal (h : ∀ p ∈ pairs, p.1 = p.2) (mean s : ℚ) :
    ∃ s', pairs.foldl (Moments.add mean mean) ⟨s, s, s⟩ = ⟨s', s', s'⟩ := by
  induction pairs generalizing s with
  | nil => exact ⟨s, rfl⟩
  | cons p pairs ih =>
    rw [List.forall_mem_cons] at h
    have hstep : Moments.add mean mean ⟨s, s, s⟩ p =
        ⟨s + (p.1 - mean) * (p.1 - mean), s + (p.1 - mean) * (p.1 - mean),
          s + (p.1 - mean) * (p.1 - mean)⟩ := by
      rw [Moments.add, h.1]
    rw [List.foldl_cons, hstep]
    exact ih h.2 _

theorem ofPairs_of_equal (h : ∀ p ∈ pairs, p.1 = p.2) :
    (ofPairs pairs).covariance = (ofPairs pairs).varianceX ∧
      (ofPairs pairs).varianceX = (ofPairs pairs).varianceY := by
  have hsides : pairs.map Prod.snd = pairs.map Prod.fst := List.map_congr_left fun p hp => (h p hp).symm
  obtain ⟨s, hs⟩ := exists_foldl_of_equal h (average (pairs.map Prod.fst)) 0
  rw [ofPairs, hsides, hs]
  exact ⟨rfl, rfl⟩

/-! ### Moved and stretched sides -/

/-- The moments of pairs whose first side is stretched. -/
def stretched (a : ℚ) (m : Moments ℚ) : Moments ℚ := ⟨a * m.covariance, a ^ 2 * m.varianceX, m.varianceY⟩

/-- A pair with its first side stretched and moved. -/
def affine (a b : ℚ) (p : ℚ × ℚ) : ℚ × ℚ := (a * p.1 + b, p.2)

theorem add_stretched (p : ℚ × ℚ) :
    (m.stretched a).add (a * meanX + b) meanY (affine a b p) = (m.add meanX meanY p).stretched a := by
  simp only [Moments.add, stretched, affine, mk.injEq]
  refine ⟨by ring, by ring, trivial⟩

theorem foldl_stretched (pairs : List (ℚ × ℚ)) (m : Moments ℚ) :
    (pairs.map (affine a b)).foldl (Moments.add (a * meanX + b) meanY) (m.stretched a) =
      (pairs.foldl (Moments.add meanX meanY) m).stretched a := by
  induction pairs generalizing m with
  | nil => rfl
  | cons p pairs ih => rw [List.map_cons, List.foldl_cons, List.foldl_cons, add_stretched, ih]

theorem ofPairs_affine (a b : ℚ) (pairs : List (ℚ × ℚ)) :
    ofPairs (pairs.map (affine a b)) = (ofPairs pairs).stretched a := by
  have hzero : stretched a ⟨0, 0, 0⟩ = ⟨0, 0, 0⟩ := by simp [stretched]
  by_cases hne : pairs = []
  · rw [hne]
    exact hzero.symm
  · have hfst : (pairs.map (affine a b)).map Prod.fst = (pairs.map Prod.fst).map fun x => a * x + b := by
      simp [affine]
    have hsnd : (pairs.map (affine a b)).map Prod.snd = pairs.map Prod.snd := by simp [affine]
    rw [ofPairs, hfst, hsnd, average_affine (mt List.map_eq_nil_iff.1 hne), ← hzero, foldl_stretched]
    rfl

/-! ### Real numbers -/

/-- Moments of rational numbers as real ones. -/
def toReal (m : Moments ℚ) : Moments ℝ := ⟨m.covariance, m.varianceX, m.varianceY⟩

theorem add_toReal (p : ℚ × ℚ) :
    m.toReal.add (meanX : ℝ) meanY (Prod.map (↑) (↑) p) = (m.add meanX meanY p).toReal := by
  simp only [Moments.add, toReal, Prod.map, mk.injEq]
  push_cast
  exact ⟨rfl, rfl, rfl⟩

theorem foldl_toReal (pairs : List (ℚ × ℚ)) (m : Moments ℚ) :
    (pairs.map (Prod.map (↑) (↑))).foldl (Moments.add (meanX : ℝ) meanY) m.toReal =
      (pairs.foldl (Moments.add meanX meanY) m).toReal := by
  induction pairs generalizing m with
  | nil => rfl
  | cons p pairs ih => rw [List.map_cons, List.foldl_cons, List.foldl_cons, add_toReal, ih]

theorem ofPairs_toReal (pairs : List (ℚ × ℚ)) :
    ofPairs (pairs.map (Prod.map ((↑) : ℚ → ℝ) (↑))) = (ofPairs pairs).toReal := by
  have hfst : (pairs.map (Prod.map ((↑) : ℚ → ℝ) ((↑) : ℚ → ℝ))).map Prod.fst =
      (pairs.map Prod.fst).map (↑) := by simp
  have hsnd : (pairs.map (Prod.map ((↑) : ℚ → ℝ) ((↑) : ℚ → ℝ))).map Prod.snd =
      (pairs.map Prod.snd).map (↑) := by simp
  have hzero : toReal ⟨0, 0, 0⟩ = ⟨0, 0, 0⟩ := by simp [toReal]
  rw [ofPairs, hfst, hsnd, average_cast, average_cast, ← hzero, foldl_toReal]
  rfl

end Moments

/-- Roots of real numbers, all of which are finite. -/
noncomputable instance : Measured ℝ where
  sqrt := Real.sqrt
  isZero x := decide (x = 0)
  isFinite _ := true
  less x y := decide (x < y)

namespace Correlation

theorem clampToUnit_of_sq_le {x : ℝ} (h : x ^ 2 ≤ 1) : clampToUnit x = x := by
  obtain ⟨hlow, hhigh⟩ := abs_le.1 ((sq_le_one_iff_abs_le_one x).1 h)
  simp only [clampToUnit, Measured.less, Nat.cast_one, decide_eq_true_eq, not_lt.2 hlow, not_lt.2 hhigh,
    if_false]

/-- The coefficient of consistent moments is never cut to the range from minus one to one. -/
theorem coefficient?_toReal {m : Moments ℚ} (h : m.Consistent) :
    coefficient? m.toReal = if m.varianceX * m.varianceY = 0 then none
      else some ((m.covariance : ℝ) / √(m.varianceX * m.varianceY)) := by
  have hproduct := mul_nonneg h.varianceX_nonneg h.varianceY_nonneg
  have hproduct' : (0 : ℝ) ≤ m.varianceX * m.varianceY := by exact_mod_cast hproduct
  have hzero : √((m.varianceX : ℝ) * m.varianceY) = 0 ↔ m.varianceX * m.varianceY = 0 := by
    rw [Real.sqrt_eq_zero hproduct']
    exact_mod_cast Iff.rfl
  have hunit : ((m.covariance : ℝ) / √(m.varianceX * m.varianceY)) ^ 2 ≤ 1 := by
    rw [div_pow, Real.sq_sqrt hproduct']
    refine div_le_one_of_le₀ ?_ hproduct'
    exact_mod_cast h.covariance_sq_le
  simp only [coefficient?, Measured.sqrt, Measured.isZero, Measured.isFinite, Moments.toReal,
    Bool.not_true, Bool.or_false, decide_eq_true_eq, hzero, clampToUnit_of_sq_le hunit, if_true]

section Coefficient

variable {pairs : List (ℚ × ℚ)} {r : ℝ}

theorem coefficientOf?_eq_none_iff :
    coefficientOf? (pairs.map (Prod.map ((↑) : ℚ → ℝ) (↑))) = none ↔
      pairs.length < 2 ∨ Constant (pairs.map Prod.fst) ∨ Constant (pairs.map Prod.snd) := by
  rw [coefficientOf?, List.length_map, Moments.ofPairs_toReal,
    coefficient?_toReal (Moments.consistent_ofPairs pairs), ← Moments.product_eq_zero_iff]
  split_ifs with hlength hproduct
  · exact iff_of_true rfl (.inl hlength)
  · exact iff_of_true rfl (.inr hproduct)
  · exact iff_of_false not_false (not_or.2 ⟨hlength, hproduct⟩)

theorem eq_of_coefficientOf? (h : coefficientOf? (pairs.map (Prod.map ((↑) : ℚ → ℝ) (↑))) = some r) :
    (Moments.ofPairs pairs).varianceX * (Moments.ofPairs pairs).varianceY ≠ 0 ∧
      r = (Moments.ofPairs pairs).covariance /
        √((Moments.ofPairs pairs).varianceX * (Moments.ofPairs pairs).varianceY) := by
  rw [coefficientOf?, List.length_map, Moments.ofPairs_toReal,
    coefficient?_toReal (Moments.consistent_ofPairs pairs)] at h
  split_ifs at h with hlength hproduct
  exact ⟨hproduct, (Option.some.inj h).symm⟩

/-- Columns that are equal and vary correlate perfectly. -/
theorem eq_one_of_equal (hequal : ∀ p ∈ pairs, p.1 = p.2)
    (h : coefficientOf? (pairs.map (Prod.map ((↑) : ℚ → ℝ) (↑))) = some r) : r = 1 := by
  obtain ⟨hproduct, rfl⟩ := eq_of_coefficientOf? h
  obtain ⟨hcovariance, hvariance⟩ := Moments.ofPairs_of_equal hequal
  have hnonneg : (0 : ℝ) ≤ (Moments.ofPairs pairs).varianceY := by
    exact_mod_cast (Moments.consistent_ofPairs pairs).varianceY_nonneg
  have hne : ((Moments.ofPairs pairs).varianceY : ℝ) ≠ 0 := by
    exact_mod_cast right_ne_zero_of_mul hproduct
  rw [hcovariance, hvariance, Real.sqrt_mul_self hnonneg, div_self hne]

end Coefficient

theorem interpretation_eq_undefined_iff (pairs : List (Binary64 × Binary64)) :
    (ofPairs pairs).interpretation = .undefined ↔ coefficientOf? pairs = none := by
  rw [ofPairs]
  cases coefficientOf? pairs with
  | none => exact iff_of_true rfl rfl
  | some r =>
    refine iff_of_false ?_ (Option.some_ne_none r)
    dsimp only [Interpretation.ofCoefficient?]
    split_ifs <;> decide

end Correlation

/-- What holds of the moments and the coefficient of pairs that are calculated without rounding. -/
structure ExactlyCorrelated (pairs : List (ℚ × ℚ)) (m : Moments ℚ) (coefficient : Option ℝ) : Prop where
  covariance_sq_le : m.covariance ^ 2 ≤ m.varianceX * m.varianceY
  product_eq_zero_iff : m.varianceX * m.varianceY = 0 ↔
    Constant (pairs.map Prod.fst) ∨ Constant (pairs.map Prod.snd)
  absent_iff : coefficient = none ↔
    pairs.length < 2 ∨ Constant (pairs.map Prod.fst) ∨ Constant (pairs.map Prod.snd)
  unclamped : ∀ r, coefficient = some r → r = m.covariance / √(m.varianceX * m.varianceY)
  equal_sides : (∀ p ∈ pairs, p.1 = p.2) → m.covariance = m.varianceX ∧ m.varianceX = m.varianceY ∧
    ∀ r, coefficient = some r → r = 1
  affine_side : ∀ a b : ℚ, 0 < a → ∀ m', m' = Moments.ofPairs (pairs.map fun p => (a * p.1 + b, p.2)) →
    m'.covariance = a * m.covariance ∧ m'.varianceX = a ^ 2 * m.varianceX ∧
    m'.varianceY = m.varianceY ∧
    m'.covariance ^ 2 / (m'.varianceX * m'.varianceY) =
      m.covariance ^ 2 / (m.varianceX * m.varianceY) ∧
    SignType.sign m'.covariance = SignType.sign m.covariance

/-- Without rounding, a correlation is well defined: the coefficient lies in its range without being cut to
it, is absent only with fewer than two pairs or where a side does not vary, is one for equal sides, and does
not change when a side is moved or stretched. What has no coefficient is called undefined. -/
theorem exact_correlation :
    (∀ pairs : List (ℚ × ℚ), ExactlyCorrelated pairs (Moments.ofPairs pairs)
      (Correlation.coefficientOf? (pairs.map (Prod.map ((↑) : ℚ → ℝ) (↑))))) ∧
      ∀ (t : Table) (x y : Nat), (t.correlate x y).interpretation = .undefined ↔
        Correlation.coefficientOf? (t.pairs x y) = none := by
  refine ⟨fun pairs => ?_, fun t x y => Correlation.interpretation_eq_undefined_iff _⟩
  constructor
  case covariance_sq_le => exact (Moments.consistent_ofPairs pairs).covariance_sq_le
  case product_eq_zero_iff => exact Moments.product_eq_zero_iff
  case absent_iff => exact Correlation.coefficientOf?_eq_none_iff
  case unclamped => exact fun r h => (Correlation.eq_of_coefficientOf? h).2
  case equal_sides =>
    intro hequal
    obtain ⟨hcovariance, hvariance⟩ := Moments.ofPairs_of_equal hequal
    exact ⟨hcovariance, hvariance, fun r => Correlation.eq_one_of_equal hequal⟩
  case affine_side =>
    rintro a b ha m' rfl
    have haffine := Moments.ofPairs_affine a b pairs
    rw [show (pairs.map fun p => (a * p.1 + b, p.2)) = pairs.map (Moments.affine a b) from rfl, haffine]
    refine ⟨rfl, rfl, rfl, ?_, ?_⟩
    · rw [Moments.stretched, mul_pow, mul_assoc,
        mul_div_mul_left _ _ (pow_ne_zero 2 ha.ne')]
    · rw [Moments.stretched, sign_mul, sign_pos ha, one_mul]

/-- Equal sides that vary correlate perfectly, and still do when one of them is stretched and moved. -/
theorem exact_correlation_of_equal_sides :
    let pairs : List (ℚ × ℚ) := [(1, 1), (2, 2), (4, 4)]
    let m' := Moments.ofPairs [(5, 1), (7, 2), (11, (4 : ℚ))]
    Correlation.coefficientOf? (pairs.map (Prod.map ((↑) : ℚ → ℝ) (↑))) = some 1 ∧
      m'.covariance = 2 * (Moments.ofPairs pairs).covariance ∧
      m'.covariance ^ 2 / (m'.varianceX * m'.varianceY) = 1 := by
  intro pairs m'
  have h := exact_correlation.1 pairs
  have hequal : ∀ p ∈ pairs, p.1 = p.2 := by decide +kernel
  have hvaries : ¬ (pairs.length < 2 ∨ Constant (pairs.map Prod.fst) ∨ Constant (pairs.map Prod.snd)) := by
    unfold Constant
    decide +kernel
  have hm' : m' = Moments.ofPairs (pairs.map fun p => (2 * p.1 + 3, p.2)) := by decide +kernel
  obtain ⟨r, hr⟩ := Option.ne_none_iff_exists'.1 (mt h.absent_iff.1 hvaries)
  obtain ⟨hcovariance, -, -, hquotient, -⟩ := h.affine_side 2 3 two_pos m' hm'
  refine ⟨?_, hcovariance, hquotient.trans (by decide +kernel)⟩
  rw [hr, (h.equal_sides hequal).2.2 r hr]

end TableReport
