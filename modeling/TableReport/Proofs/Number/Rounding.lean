import Mathlib.Algebra.Order.Ring.Nat
import Mathlib.Order.Monotone.Basic
import Mathlib.Tactic.Ring
import Mathlib.Tactic.Linarith
import TableReport.Proofs.Number.Binary64
/-!
# Rounding to the nearest number

Magnitudes are compared through their values, counted in units of the smallest positive number, so that
no ratio has to be written. The nearest magnitude to a ratio is at most another one exactly when the
ratio is not beyond the midpoint above that one, where the midpoint itself goes to the even one.
-/
namespace TableReport

/-! ### Quotients -/

section Quotients

variable {n d : Nat}

/-- A rounded quotient is within a half of the quotient, and even where it is a half away. -/
theorem roundQuotient_spec (hd : 0 < d) :
    2 * n ≤ (2 * roundQuotient n d + 1) * d ∧ 2 * roundQuotient n d * d ≤ 2 * n + d ∧
      ((2 * n = (2 * roundQuotient n d + 1) * d ∨ 2 * roundQuotient n d * d = 2 * n + d) →
        roundQuotient n d % 2 = 0) := by
  have hdiv := Nat.div_add_mod n d
  have hmod := Nat.mod_lt n hd
  unfold roundQuotient
  generalize n / d = q at *
  generalize n % d = r at *
  have hq : ∀ k, (2 * (q + k) + 1) * d = 2 * (d * q) + (2 * k + 1) * d := fun k => by ring
  have hq' : ∀ k, 2 * (q + k) * d = 2 * (d * q) + 2 * k * d := fun k => by ring
  dsimp only
  split
  · have := hq 0; have := hq' 0
    simp only [Nat.add_zero] at *
    omega
  · split
    · have := hq 1; have := hq' 1
      omega
    · rcases Nat.mod_two_eq_zero_or_one q with h | h
      · rw [h]
        have := hq 0; have := hq' 0
        simp only [Nat.add_zero] at *
        omega
      · rw [h]
        have := hq 1; have := hq' 1
        omega

theorem roundQuotient_mul_right {c : Nat} (hc : 0 < c) :
    roundQuotient (n * c) (d * c) = roundQuotient n d := by
  unfold roundQuotient
  rw [Nat.mul_div_mul_right _ _ hc, Nat.mul_mod_mul_right]
  have h₁ : 2 * (n % d * c) < d * c ↔ 2 * (n % d) < d := by
    rw [← Nat.mul_assoc, Nat.mul_lt_mul_right hc]
  have h₂ : d * c < 2 * (n % d * c) ↔ d < 2 * (n % d) := by
    rw [← Nat.mul_assoc, Nat.mul_lt_mul_right hc]
  simp only [h₁, h₂]

/-- A ratio against a power that may be in the denominator, both multiplied by a further power. -/
theorem le_scaled_iff {base : Nat} (hbase : 0 < base) {e : Int} {c : Nat} (h : 0 ≤ e + c) :
    (if 0 ≤ e then d * base ^ e.toNat ≤ n else d ≤ n * base ^ (-e).toNat) ↔
      d * base ^ (e + c).toNat ≤ n * base ^ c := by
  split
  case isTrue he =>
    rw [show (e + c).toNat = e.toNat + c by omega, pow_add, ← Nat.mul_assoc]
    exact (Nat.mul_le_mul_right_iff (Nat.pow_pos hbase)).symm
  case isFalse he =>
    rw [show base ^ c = base ^ (-e).toNat * base ^ (e + c).toNat by
      rw [← pow_add]; congr 1; omega, ← Nat.mul_assoc]
    exact (Nat.mul_le_mul_right_iff (Nat.pow_pos hbase)).symm

end Quotients

namespace Binary64

/-! ### Values of magnitudes -/

/-- The value of a finite magnitude in units of the smallest positive number. -/
def units (m : Nat) : Nat :=
  if m < 2 ^ 52 then m else (2 ^ 52 + m % 2 ^ 52) * 2 ^ (m / 2 ^ 52 - 1)

/-- A significand at a power of two; the one that is twice as large as the least is the least at the
next power. -/
theorem units_eq {k q : Nat} (hq : q ≤ 2 ^ 53) (hk : 0 < k → 2 ^ 52 ≤ q) :
    units (k * 2 ^ 52 + q) = q * 2 ^ k := by
  unfold units
  split
  case isTrue hlt =>
    obtain rfl : k = 0 := by omega
    simp
  case isFalse hge =>
    rcases Nat.eq_or_lt_of_le hq with rfl | hlt
    · rw [show (k * 2 ^ 52 + 2 ^ 53) % 2 ^ 52 = 0 by omega,
        show (k * 2 ^ 52 + 2 ^ 53) / 2 ^ 52 - 1 = k + 1 by omega]
      ring
    · have : 2 ^ 52 ≤ q := by
        rcases Nat.eq_zero_or_pos k with rfl | hpos
        · omega
        · exact hk hpos
      rw [show (k * 2 ^ 52 + q) / 2 ^ 52 - 1 = k by omega,
        show 2 ^ 52 + (k * 2 ^ 52 + q) % 2 ^ 52 = q by omega]

theorem exists_significand (m : Nat) :
    ∃ k q, m = k * 2 ^ 52 + q ∧ q < 2 ^ 53 ∧ (0 < k → 2 ^ 52 ≤ q) :=
  ⟨m / 2 ^ 52 - 1, m - (m / 2 ^ 52 - 1) * 2 ^ 52, by omega, by omega, by omega⟩

theorem units_strictMono : StrictMono units := by
  refine strictMono_nat_of_lt_succ fun m => ?_
  obtain ⟨k, q, rfl, hq, hk⟩ := exists_significand m
  rw [Nat.add_assoc, units_eq hq.le hk, units_eq hq (fun h => (hk h).trans q.le_succ)]
  exact Nat.mul_lt_mul_of_pos_right q.lt_succ_self (Nat.two_pow_pos k)

theorem units_lt_succ (m : Nat) : units m < units (m + 1) := units_strictMono m.lt_succ_self

theorem units_magnitude (x : Binary64) :
    units x.magnitude = x.significand * 2 ^ (x.exponent + 1074).toNat := by
  rw [units, significand_eq, exponent_eq]
  split
  · simp
  · have hplaces : ((x.magnitude / 2 ^ 52 : Nat) - 1075 + 1074 : Int).toNat =
        x.magnitude / 2 ^ 52 - 1 := by omega
    rw [hplaces]

/-- The number of binary places behind the point that the smallest positive number has. -/
def unitPlaces : Nat := 1074

/-- The number of units in one. -/
def unitsPerOne : Nat := 2 ^ unitPlaces

/-- The number of units in one as a power whose exponent is not a numeral, which nothing evaluates. -/
theorem exists_unitsPerOne_eq_pow : ∃ u : Nat, u = 1074 ∧ unitsPerOne = 2 ^ u :=
  ⟨unitPlaces, rfl, rfl⟩

/-- The magnitudes of powers of two. -/
theorem units_two_pow {m j : Nat} (h : m = 1023 * 2 ^ 52 + j * 2 ^ 52) :
    units m = 2 ^ j * unitsPerOne := by
  have hm : m = (1022 + j) * 2 ^ 52 + 2 ^ 52 := by
    rw [Nat.add_mul]
    omega
  have hexponent : 52 + (1022 + j) = j + unitPlaces := by
    unfold unitPlaces
    omega
  rw [hm, units_eq (by decide) (fun _ => le_rfl), unitsPerOne, ← pow_add, ← pow_add, hexponent]

theorem unitsPerOne_pos : 0 < unitsPerOne := by
  obtain ⟨u, -, hone⟩ := exists_unitsPerOne_eq_pow
  rw [hone]
  exact Nat.two_pow_pos u

/-! ### The nearest magnitude -/

/-- Powers of two on both sides of a ratio, which a further power may keep from being fractions. -/
theorem floorLog2_spec {n d : Nat} (hn : 0 < n) (hd : 0 < d) {c : Nat} (h : 0 ≤ floorLog2 n d + c) :
    d * 2 ^ (floorLog2 n d + c).toNat ≤ n * 2 ^ c ∧
      n * 2 ^ c < d * 2 ^ (floorLog2 n d + c + 1).toNat := by
  have hn₁ := Nat.log2_self_le hn.ne'
  have hn₂ := Nat.lt_log2_self (n := n)
  have hd₁ := Nat.log2_self_le hd.ne'
  have hd₂ := Nat.lt_log2_self (n := d)
  unfold floorLog2 at h ⊢
  simp only [Nat.pow_eq] at h ⊢
  generalize n.log2 = a at *
  generalize d.log2 = b at *
  by_cases hreached : if 0 ≤ (a : Int) - b then d * 2 ^ ((a : Int) - b).toNat ≤ n
    else d ≤ n * 2 ^ (-((a : Int) - b)).toNat
  case pos =>
    rw [if_pos hreached] at h ⊢
    refine ⟨(le_scaled_iff Nat.two_pos h).1 hreached, ?_⟩
    calc n * 2 ^ c < 2 ^ (a + 1) * 2 ^ c := Nat.mul_lt_mul_of_pos_right hn₂ (Nat.two_pow_pos c)
      _ = 2 ^ b * 2 ^ ((a : Int) - b + c + 1).toNat := by
        rw [← pow_add, ← pow_add]
        congr 1
        omega
      _ ≤ _ := Nat.mul_le_mul_right _ hd₁
  case neg =>
    rw [if_neg hreached] at h ⊢
    rw [le_scaled_iff (c := c) Nat.two_pos (by omega)] at hreached
    refine ⟨?_, ?_⟩
    · calc d * 2 ^ ((a : Int) - b - 1 + c).toNat
          ≤ 2 ^ (b + 1) * 2 ^ ((a : Int) - b - 1 + c).toNat := Nat.mul_le_mul_right _ hd₂.le
        _ = 2 ^ a * 2 ^ c := by
          rw [← pow_add, ← pow_add]
          congr 1
          omega
        _ ≤ n * 2 ^ c := Nat.mul_le_mul_right _ hn₁
    · rw [show (a : Int) - b - 1 + c + 1 = a - b + c by omega]
      exact Nat.lt_of_not_le hreached

/-- The nearest magnitude as a rounded quotient in units of a power of two, in which the ratio has at
most 53 binary digits, and just as many unless the power is the least one. -/
theorem nearestMagnitude_eq {n d : Nat} (hn : 0 < n) (hd : 0 < d) :
    ∃ k, nearestMagnitude n d =
        min (k * 2 ^ 52 + roundQuotient (n * unitsPerOne) (d * 2 ^ k)) infinityMagnitude ∧
      n * unitsPerOne < d * 2 ^ (k + 53) ∧ (0 < k → d * 2 ^ (k + 52) ≤ n * unitsPerOne) := by
  have hspec := @floorLog2_spec n d hn hd
  obtain ⟨c, hc, hone⟩ := exists_unitsPerOne_eq_pow
  rw [hone]
  unfold nearestMagnitude
  simp only [hn.ne', if_false, Nat.pow_eq]
  generalize floorLog2 n d = e at *
  refine ⟨(max (e - 52) (-1074) + 1074).toNat, ?_, ?_, fun hk => ?_⟩
  · refine congrArg₂ min (congrArg₂ (· + ·) rfl ?_) rfl
    split
    case isTrue hunit =>
      rw [show (max (e - 52) (-1074) + 1074).toNat = (max (e - 52) (-1074)).toNat + c by omega,
        pow_add, ← Nat.mul_assoc, roundQuotient_mul_right (Nat.two_pow_pos c)]
    case isFalse hunit =>
      have hsplit : 2 ^ c =
          2 ^ (-max (e - 52) (-1074)).toNat * 2 ^ (max (e - 52) (-1074) + 1074).toNat := by
        rw [← pow_add]
        exact congrArg (2 ^ ·) (by omega)
      rw [hsplit, ← Nat.mul_assoc, roundQuotient_mul_right (Nat.two_pow_pos _)]
  · obtain he | he := le_or_gt 0 (e + c)
    · obtain ⟨-, hlt⟩ := hspec he
      exact hlt.trans_le (Nat.mul_le_mul_left d (Nat.pow_le_pow_right Nat.two_pos (by omega)))
    · -- So small a ratio is below a power of two that the units divide.
      have hzero : e + ((-e).toNat : Nat) = 0 := by omega
      obtain ⟨-, hlt⟩ := @hspec (-e).toNat hzero.ge
      rw [hzero] at hlt
      calc n * 2 ^ c ≤ n * 2 ^ (-e).toNat :=
            Nat.mul_le_mul_left n (Nat.pow_le_pow_right Nat.two_pos (by omega))
        _ < d * 2 ^ (0 + 1 : Int).toNat := hlt
        _ ≤ d * 2 ^ _ := Nat.mul_le_mul_left d (Nat.pow_le_pow_right Nat.two_pos (by omega))
  · obtain ⟨hle, -⟩ := @hspec c (by omega)
    rwa [show (e + c).toNat = (max (e - 52) (-1074) + 1074).toNat + 52 by omega] at hle

section Nearest

variable {n d m : Nat}

/-- The significand that a ratio is rounded to, with the power of two it belongs to. -/
theorem exists_rounded (hn : 0 < n) (hd : 0 < d) : ∃ k q r D,
    nearestMagnitude n d = min (k * 2 ^ 52 + q) infinityMagnitude ∧ n * unitsPerOne = r ∧
      d * 2 ^ k = D ∧ 0 < D ∧ q ≤ 2 ^ 53 ∧ (0 < k → 2 ^ 52 ≤ q) ∧ r < 2 ^ 53 * D ∧
      (0 < k → 2 ^ 52 * D ≤ r) ∧ 2 * r ≤ (2 * q + 1) * D ∧ 2 * q * D ≤ 2 * r + D ∧
      (2 * r = (2 * q + 1) * D ∨ 2 * q * D = 2 * r + D → q % 2 = 0) := by
  obtain ⟨k, heq, hlt, hge⟩ := nearestMagnitude_eq hn hd
  have hD : 0 < d * 2 ^ k := Nat.mul_pos hd (Nat.two_pow_pos k)
  obtain ⟨hhigh, hlow, heven⟩ := @roundQuotient_spec (n * unitsPerOne) (d * 2 ^ k) hD
  have hpow : ∀ j, d * 2 ^ (k + j) = 2 ^ j * (d * 2 ^ k) := fun j => by ring
  rw [hpow] at hlt hge
  refine ⟨k, _, _, _, heq, rfl, rfl, hD, ?_, fun hk => ?_, hlt, hge, hhigh, hlow, heven⟩
  all_goals
    generalize roundQuotient (n * unitsPerOne) (d * 2 ^ k) = q at *
    generalize n * unitsPerOne = r at *
    generalize d * 2 ^ k = D at *
  · by_contra hq
    nlinarith
  · have := hge hk
    by_contra hq
    nlinarith

/-- A ratio not beyond the midpoint above a magnitude is not rounded beyond it; the midpoint itself is
rounded down from an even magnitude only. -/
theorem nearestMagnitude_le (hd : 0 < d)
    (h : 2 * (n * unitsPerOne) ≤ (units m + units (m + 1)) * d)
    (htie : 2 * (n * unitsPerOne) = (units m + units (m + 1)) * d → m % 2 = 0) :
    nearestMagnitude n d ≤ m := by
  obtain rfl | hn := Nat.eq_zero_or_pos n
  · exact Nat.zero_le m
  obtain ⟨k, q, r, D, heq, rfl, rfl, hD, hq, hk, hlt, hge, hhigh, hlow, heven⟩ := exists_rounded hn hd
  rw [heq]
  refine (Nat.min_le_left _ _).trans (Nat.le_of_not_lt fun hbeyond => ?_)
  have hvalue := units_eq hq hk
  have hsucc : units (m + 1) ≤ units (k * 2 ^ 52 + q) := units_strictMono.monotone hbeyond
  by_cases hborder : 0 < k ∧ q = 2 ^ 52
  · -- The ratio is not below the magnitude that it would be rounded to.
    obtain ⟨hpos, rfl⟩ := hborder
    have hlt : units m < units (m + 1) := units_lt_succ m
    have hle := hge hpos
    have hsum : (units m + units (m + 1)) * d < 2 * (2 ^ 52 * 2 ^ k) * d :=
      Nat.mul_lt_mul_of_pos_right (by omega) hd
    have : 2 * (2 ^ 52 * 2 ^ k) * d = 2 * (2 ^ 52 * (d * 2 ^ k)) := by ring
    omega
  · obtain ⟨q, rfl⟩ : ∃ j, q = j + 1 := ⟨q - 1, by omega⟩
    have hpred : units (k * 2 ^ 52 + q) = q * 2 ^ k := units_eq (by omega) (by omega)
    have hle : units m ≤ q * 2 ^ k := hpred ▸ units_strictMono.monotone (by omega)
    have hsum : (units m + units (m + 1)) * d ≤ (2 * q + 1) * (d * 2 ^ k) :=
      (Nat.mul_le_mul_right d (Nat.add_le_add hle (hsucc.trans hvalue.le))).trans
        (le_of_eq (by ring))
    have hlow' : 2 * (q + 1) * (d * 2 ^ k) = (2 * q + 1) * (d * 2 ^ k) + d * 2 ^ k := by ring
    have htied : 2 * (n * unitsPerOne) = (2 * q + 1) * (d * 2 ^ k) := by omega
    have hodd : (q + 1) % 2 = 0 := heven (.inr (by omega))
    have hmeven := htie (by omega)
    -- Both midpoints are the same, so `m` is just below the magnitude that it would be rounded to.
    have hm : m = k * 2 ^ 52 + q := by
      refine units_strictMono.injective (hpred ▸ Nat.le_antisymm hle (Nat.le_of_not_lt fun hlt => ?_))
      have := Nat.mul_lt_mul_of_pos_right
        (Nat.add_lt_add_of_lt_of_le hlt (hsucc.trans hvalue.le)) hd
      have : (q * 2 ^ k + (q + 1) * 2 ^ k) * d = (2 * q + 1) * (d * 2 ^ k) := by ring
      omega
    omega

/-- A ratio not below the midpoint above a magnitude is rounded beyond it; the midpoint itself is
rounded up from an odd magnitude only. -/
theorem lt_nearestMagnitude (hd : 0 < d) (hm : m < infinityMagnitude)
    (h : (units m + units (m + 1)) * d ≤ 2 * (n * unitsPerOne))
    (htie : 2 * (n * unitsPerOne) = (units m + units (m + 1)) * d → m % 2 = 1) :
    m < nearestMagnitude n d := by
  obtain rfl | hn := Nat.eq_zero_or_pos n
  · have hpos : 0 < units (m + 1) := Nat.zero_lt_of_lt (units_lt_succ m)
    have := Nat.mul_pos hpos hd
    rw [Nat.add_mul] at h
    omega
  obtain ⟨k, q, r, D, heq, rfl, rfl, hD, hq, hk, hlt, hge, hhigh, hlow, heven⟩ := exists_rounded hn hd
  rw [heq]
  refine Nat.lt_min.2 ⟨Nat.lt_of_not_le fun hbelow => ?_, hm⟩
  have hvalue := units_eq hq hk
  have hle : q * 2 ^ k ≤ units m := hvalue ▸ units_strictMono.monotone hbelow
  obtain rfl | hq' := Nat.eq_or_lt_of_le hq
  · -- The ratio is below the magnitude that it would be rounded to.
    have hsum : 2 * (2 ^ 53 * 2 ^ k) * d < (units m + units (m + 1)) * d :=
      Nat.mul_lt_mul_of_pos_right (by have := units_lt_succ m; omega) hd
    have : 2 * (2 ^ 53 * 2 ^ k) * d = 2 * (2 ^ 53 * (d * 2 ^ k)) := by ring
    omega
  · have hnext : units (k * 2 ^ 52 + q + 1) = (q + 1) * 2 ^ k := by
      rw [Nat.add_assoc]
      exact units_eq hq' fun hpos => (hk hpos).trans q.le_succ
    have hsucc : (q + 1) * 2 ^ k ≤ units (m + 1) :=
      hnext ▸ units_strictMono.monotone (Nat.succ_le_succ hbelow)
    have hsum : (2 * q + 1) * (d * 2 ^ k) ≤ (units m + units (m + 1)) * d :=
      (le_of_eq (by ring)).trans (Nat.mul_le_mul_right d (Nat.add_le_add hle hsucc))
    have hqeven : q % 2 = 0 := heven (.inl (by omega))
    have hmodd := htie (by omega)
    have hm : k * 2 ^ 52 + q = m := by
      refine units_strictMono.injective (hvalue ▸ Nat.le_antisymm hle (Nat.le_of_not_lt fun hlt => ?_))
      have := Nat.mul_lt_mul_of_pos_right (Nat.add_lt_add_of_lt_of_le hlt hsucc) hd
      have : (q * 2 ^ k + (q + 1) * 2 ^ k) * d = (2 * q + 1) * (d * 2 ^ k) := by ring
      omega
    omega

theorem nearestMagnitude_le_infinity (n d : Nat) : nearestMagnitude n d ≤ infinityMagnitude := by
  unfold nearestMagnitude
  split
  · exact Nat.zero_le _
  · exact Nat.min_le_right _ _

/-- Rounding keeps what is at most a magnitude at most that. -/
theorem nearestMagnitude_le_of_le (hd : 0 < d) (h : n * unitsPerOne ≤ units m * d) :
    nearestMagnitude n d ≤ m := by
  have hlt := Nat.mul_lt_mul_of_pos_right (units_lt_succ m) hd
  refine nearestMagnitude_le hd ?_ fun heq => ?_ <;> rw [Nat.add_mul] at * <;> omega

theorem le_nearestMagnitude_of_le (hd : 0 < d) (hm : m ≤ infinityMagnitude)
    (h : units m * d ≤ n * unitsPerOne) : m ≤ nearestMagnitude n d := by
  cases m with
  | zero => exact Nat.zero_le _
  | succ m =>
    have hlt := Nat.mul_lt_mul_of_pos_right (units_lt_succ m) hd
    refine lt_nearestMagnitude hd hm ?_ fun heq => ?_ <;> rw [Nat.add_mul] at * <;> omega

/-- A greater ratio is not rounded to a smaller magnitude. -/
theorem nearestMagnitude_mono {n' : Nat} (hd : 0 < d) (h : n ≤ n') :
    nearestMagnitude n d ≤ nearestMagnitude n' d := by
  have hle : n * unitsPerOne ≤ n' * unitsPerOne := Nat.mul_le_mul_right _ h
  obtain ⟨m, hm⟩ : ∃ m, m = nearestMagnitude n' d := ⟨_, rfl⟩
  rw [← hm]
  by_cases hfinite : m < infinityMagnitude
  · -- Otherwise the greater ratio would be rounded beyond its own magnitude.
    apply nearestMagnitude_le hd
    · by_contra hbeyond
      exact absurd (@lt_nearestMagnitude n' d m hd hfinite (by omega) (by omega)) (by omega)
    · intro htie
      by_contra hodd
      exact absurd (@lt_nearestMagnitude n' d m hd hfinite (by omega) (by omega)) (by omega)
  · exact (nearestMagnitude_le_infinity n d).trans (Nat.le_of_not_lt hfinite)

end Nearest

end Binary64

end TableReport
