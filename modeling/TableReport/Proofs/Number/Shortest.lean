import TableReport.Proofs.Number.Decimal
/-!
# The shortest digits read back

What rounds to a number is the interval between the midpoints around it. The shortest decimal is a point
of a decimal grid in that interval, so it is rounded to the number again; and some grid has such a point,
since seventeen digits are finer than the interval is wide.
-/
namespace TableReport.Binary64

/-! ### The interval of a number -/

/-- A point of a grid is in the interval; the ratio is that of the units of the interval to those of the
grid. -/
def Interval.Holds (i : Interval) (num den c : Nat) : Prop :=
  i.low * num ≤ c * den ∧ c * den ≤ i.high * num ∧
    (c * den = i.low * num ∨ c * den = i.high * num → i.closed = true)

section Interval

variable {x : Binary64} (hzero : x.magnitude ≠ 0)

include hzero

/-- The ends of the interval are the midpoints between the number and its neighbours. -/
theorem interval_low : 2 * (units (x.magnitude - 1) + units x.magnitude) =
    x.interval.low * 2 ^ (x.exponent + 1074).toNat := by
  have hpos := significand_pos hzero
  have hlt := x.significand_lt
  have hleast := @le_significand x
  rw [units_magnitude, interval, x.magnitude_eq]
  obtain ⟨k, hk⟩ : ∃ k, (x.exponent + 1074).toNat = k := ⟨_, rfl⟩
  have hleast' : 0 < k → 2 ^ 52 ≤ x.significand := fun h => hleast (by omega)
  generalize x.significand = q at *
  simp only [hk, Nat.pow_eq]
  by_cases hhalf : q = 2 ^ 52 ∧ 0 < k
  · -- Below a power of two the next number is half a step away.
    obtain ⟨rfl, hk⟩ := hhalf
    obtain ⟨k, rfl⟩ : ∃ j, k = j + 1 := ⟨k - 1, by omega⟩
    have hbelow : units ((k + 1) * 2 ^ 52 + 2 ^ 52 - 1) = (2 ^ 53 - 1) * 2 ^ k := by
      rw [show (k + 1) * 2 ^ 52 + 2 ^ 52 - 1 = k * 2 ^ 52 + (2 ^ 53 - 1) by omega]
      exact units_eq (by decide) fun _ => by decide
    have hstep : (((k + 1) * 2 ^ 52 + 2 ^ 52) % 2 ^ 52 == 0 &&
        decide (2 ^ 53 ≤ (k + 1) * 2 ^ 52 + 2 ^ 52)) = true := by
      simp only [Bool.and_eq_true, beq_iff_eq, decide_eq_true_eq]
      omega
    rw [hbelow, hstep, pow_succ]
    simp only [if_true]
    ring
  · have hbelow : units (k * 2 ^ 52 + q - 1) = (q - 1) * 2 ^ k := by
      rw [show k * 2 ^ 52 + q - 1 = k * 2 ^ 52 + (q - 1) by omega]
      exact units_eq (by omega) fun h => by have := hleast' h; omega
    have hstep : ((k * 2 ^ 52 + q) % 2 ^ 52 == 0 && decide (2 ^ 53 ≤ k * 2 ^ 52 + q)) = false := by
      by_contra hne
      simp only [Bool.not_eq_false, Bool.and_eq_true, beq_iff_eq, decide_eq_true_eq] at hne
      omega
    obtain ⟨q, rfl⟩ : ∃ j, q = j + 1 := ⟨q - 1, by omega⟩
    rw [hbelow, hstep, Nat.add_sub_cancel, ← Nat.add_mul, ← Nat.mul_assoc]
    congr 1
    simp only [Bool.false_eq_true, if_false]
    omega

omit hzero in
theorem interval_high : 2 * (units x.magnitude + units (x.magnitude + 1)) =
    x.interval.high * 2 ^ (x.exponent + 1074).toNat := by
  have hlt := x.significand_lt
  have hleast := @le_significand x
  have hnext : units (x.magnitude + 1) =
      (x.significand + 1) * 2 ^ (x.exponent + 1074).toNat := by
    rw [x.magnitude_eq, Nat.add_assoc]
    exact units_eq hlt fun h => (hleast (by omega)).trans (Nat.le_succ _)
  rw [hnext, units_magnitude, interval]
  ring

omit hzero in
theorem interval_closed (h : x.interval.closed = true) : x.magnitude % 2 = 0 := by
  have heven : x.significand % 2 = 0 := beq_iff_eq.1 h
  rw [x.magnitude_eq]
  omega

/-- A decimal in the interval of a number is rounded to that number. -/
theorem nearestMagnitude_of_holds (hfinite : x.magnitude < infinityMagnitude) {a d p r c n w : Nat}
    (hunit : 2 ^ (x.exponent + 1074).toNat * d = 4 * unitsPerOne * a) (hd : 0 < d) (hp : 0 < p)
    (hw : 0 < w) (hc : x.interval.Holds (a * p) (d * r) c) (hratio : n * p = c * r * w) :
    nearestMagnitude n w = x.magnitude := by
  obtain ⟨hlow, hhigh, hclosed⟩ := hc
  -- A ratio is compared with a midpoint in the units of the grid.
  have hcompare : ∀ {s i}, 2 * s = i * 2 ^ (x.exponent + 1074).toNat →
      (2 * (n * unitsPerOne) ≤ s * w ↔ c * (d * r) ≤ i * (a * p)) ∧
        (s * w ≤ 2 * (n * unitsPerOne) ↔ i * (a * p) ≤ c * (d * r)) := by
    intro s i hs
    have hone := unitsPerOne_pos
    generalize unitsPerOne = u at *
    generalize 2 ^ (x.exponent + 1074).toNat = e at *
    have hl : 2 * (n * u) * (2 * p * d) = c * (d * r) * (4 * u * w) := by
      calc 2 * (n * u) * (2 * p * d) = 4 * u * d * (n * p) := by ring
        _ = _ := by rw [hratio]; ring
    have hr : s * w * (2 * p * d) = i * (a * p) * (4 * u * w) := by
      calc s * w * (2 * p * d) = 2 * s * (w * p * d) := by ring
        _ = i * (e * d) * (w * p) := by rw [hs]; ring
        _ = _ := by rw [hunit]; ring
    have hpos : 0 < 2 * p * d := by positivity
    have hpos' : 0 < 4 * u * w := by positivity
    exact ⟨(compare_of_mul_eq hpos hpos' hl hr).1, (compare_of_mul_eq hpos hpos' hr hl).1⟩
  have hl := hcompare (interval_low hzero)
  have hh := hcompare (interval_high (x := x))
  refine Nat.le_antisymm (nearestMagnitude_le hw (hh.1.2 hhigh) fun htie => ?_) ?_
  · exact interval_closed (hclosed (.inr (Nat.le_antisymm hhigh (hh.2.1 htie.ge))))
  · obtain ⟨m, hm⟩ : ∃ m, x.magnitude = m + 1 := ⟨x.magnitude - 1, by omega⟩
    rw [hm] at hl ⊢
    refine lt_nearestMagnitude hw (by omega) (hl.2.2 hlow) fun htie => ?_
    have heven := interval_closed (hclosed (.inl (Nat.le_antisymm (hl.1.1 htie.le) hlow)))
    omega

end Interval

/-! ### Points of a grid -/

section Grid

variable {tie : Tie} {i : Interval} {num den c : Nat}

/-- The point that is shown is in the interval. -/
theorem holds_of_gridPoint? (h : gridPoint? tie i num den = some c) : i.Holds num den c := by
  have hinside : ∀ c, (if i.closed then decide (i.low * num ≤ c * den) && decide (c * den ≤ i.high * num)
      else decide (i.low * num < c * den) && decide (c * den < i.high * num)) = true →
      i.Holds num den c := by
    intro c hc
    unfold Interval.Holds
    split at hc <;> simp only [Bool.and_eq_true, decide_eq_true_eq] at hc
    · exact ⟨hc.1, hc.2, fun _ => ‹_›⟩
    · exact ⟨hc.1.le, hc.2.le, by omega⟩
  unfold gridPoint? at h
  dsimp only at h
  split at h
  case h_1 => cases h
  case h_2 hbelow _ => exact hinside c (Option.some.inj h ▸ hbelow)
  case h_3 _ habove => exact hinside c (Option.some.inj h ▸ habove)
  case h_4 hbelow habove =>
    have hc : c = i.middle * num / den ∨ c = i.middle * num / den + 1 := by
      split_ifs at h <;> grind
    rcases hc with rfl | rfl
    · exact hinside _ hbelow
    · exact hinside _ habove

/-- A grid that is finer than the interval is wide has a point in it, just below or just above the
middle. -/
theorem gridPoint?_isSome (hlow : i.low < i.middle) (hhigh : i.middle < i.high) (hden : 0 < den)
    (hnum : 0 < num) (hfine : den < (i.high - i.low) * num) :
    (gridPoint? tie i num den).isSome = true := by
  have hmiddle := Nat.div_add_mod (i.middle * num) den
  have hmod := Nat.mod_lt (i.middle * num) hden
  have hlow' := Nat.mul_lt_mul_of_pos_right hlow hnum
  have hhigh' := Nat.mul_lt_mul_of_pos_right hhigh hnum
  rw [Nat.sub_mul] at hfine
  rw [Nat.mul_comm] at hmiddle
  unfold gridPoint?
  dsimp only
  generalize i.middle * num / den = below at *
  have hnext : (below + 1) * den = below * den + den := Nat.succ_mul below den
  split
  case h_1 hbelow habove =>
    -- The interval would lie between two neighbouring points.
    revert hbelow habove
    cases i.closed <;> simp <;> omega
  case h_4 => split_ifs <;> first | rfl | (split <;> rfl)
  all_goals rfl

end Grid

/-! ### The place of the first digit -/

/-- Ten to a power against a ratio, either of which may be below one. -/
def PowerLe (base n d : Nat) (k : Int) : Prop :=
  if 0 ≤ k then d * base ^ k.toNat ≤ n else d ≤ n * base ^ (-k).toNat

theorem powerLe_iff {base n d : Nat} (hbase : 0 < base) {k : Int} {c : Nat} (h : 0 ≤ k + c) :
    PowerLe base n d k ↔ d * base ^ (k + c).toNat ≤ n * base ^ c :=
  le_scaled_iff hbase h

/-- The first digit of a ratio is not placed too high. -/
theorem decimalPlaces_spec {n d : Nat} {log2 : Int} (hlow : -1100 ≤ log2) (hhigh : log2 ≤ 1100)
    (hlog2 : PowerLe 2 n d log2) : PowerLe 10 n d (decimalPlaces n d log2 - 1) := by
  unfold decimalPlaces
  extract_lets reaches guess
  have hreaches : ∀ k, reaches k = true ↔ PowerLe 10 n d k := by
    intro k
    unfold reaches PowerLe
    split <;> exact decide_eq_true_iff
  have hguess : guess = log2 * 30103 / 100000 := Int.fdiv_eq_ediv_of_nonneg _ (by decide)
  clear_value reaches guess
  split
  case isTrue h =>
    rw [show guess + 2 - 1 = guess + 1 by omega]
    exact (hreaches _).1 h
  case isFalse =>
    split
    case isTrue h =>
      rw [Int.add_sub_cancel]
      exact (hreaches _).1 h
    case isFalse =>
      -- Here the estimate is compared with the power of two that it comes from.
      unfold PowerLe at hlog2 ⊢
      by_cases hsign : 0 ≤ log2
      · rw [if_pos hsign] at hlog2
        split
        case isTrue hk =>
          have hpow : 10 ^ (guess - 1).toNat ≤ 2 ^ log2.toNat :=
            pow_le_pow_of_close (p := 59) (r := 196) (by decide) (by decide) (by decide) (by omega)
          exact (Nat.mul_le_mul_left d hpow).trans hlog2
        case isFalse hk =>
          have hle : d ≤ n := (Nat.le_mul_of_pos_right d (Nat.two_pow_pos _)).trans hlog2
          exact hle.trans (Nat.le_mul_of_pos_right n (Nat.pow_pos Nat.ofNat_pos))
      · rw [if_neg hsign] at hlog2
        have hpow : 2 ^ (-log2).toNat ≤ 10 ^ (-(guess - 1)).toNat :=
          pow_le_pow_of_close (p := 93) (r := 28) (by decide) (by decide) (by decide) (by omega)
        rw [if_neg (by omega)]
        exact hlog2.trans (Nat.mul_le_mul_left n hpow)

/-! ### The shortest decimal -/

section Shortest

variable {x : Binary64} (hzero : x.magnitude ≠ 0) (hfinite : x.magnitude < infinityMagnitude)

theorem Interval.middle_lt_high : x.interval.middle < x.interval.high :=
  Nat.lt_add_of_pos_right Nat.two_pos

include hzero

theorem Interval.low_lt_middle : x.interval.low < x.interval.middle := by
  have hpos := significand_pos hzero
  unfold interval
  dsimp only
  split <;> omega

/-- Seventeen digits are finer than the interval is wide, also at a power of two. -/
theorem Interval.middle_lt_width :
    x.interval.middle < (x.interval.high - x.interval.low) * 10 ^ 16 := by
  have hpos := significand_pos hzero
  have hlt := x.significand_lt
  have hmagnitude := x.magnitude_eq
  have hleast := @le_significand x
  unfold interval
  simp only [Nat.pow_eq, Bool.and_eq_true, beq_iff_eq, decide_eq_true_eq]
  split <;> omega

theorem gridPoint?_seventeen_isSome {tie : Tie} {e places : Int}
    (hplaces : PowerLe 10 (x.interval.middle * 2 ^ e.toNat) (2 ^ (-e).toNat) (places - 1)) :
    (gridPoint? tie x.interval (2 ^ e.toNat * 10 ^ (-(places - 17)).toNat)
      (2 ^ (-e).toNat * 10 ^ (places - 17).toNat)).isSome = true := by
  refine gridPoint?_isSome (Interval.low_lt_middle hzero) Interval.middle_lt_high (by positivity)
    (by positivity) ?_
  have hwidth := Interval.middle_lt_width hzero
  have hdigits : (places - 1 + ((-(places - 17)).toNat : Nat)).toNat = (places - 17).toNat + 16 := by
    omega
  rw [powerLe_iff (by decide) (c := (-(places - 17)).toNat) (by omega), hdigits, pow_add,
    ← Nat.mul_assoc, Nat.mul_assoc x.interval.middle] at hplaces
  refine Nat.lt_of_mul_lt_mul_right (a := 10 ^ 16) (hplaces.trans_lt ?_)
  rw [Nat.mul_right_comm]
  exact Nat.mul_lt_mul_of_pos_right hwidth (by positivity)

include hfinite

/-- The power of two below a number, in the quarters in which its interval is counted. -/
theorem powerLe_log2 {e : Int} (he : e = x.exponent - 2) :
    -1100 ≤ (Nat.log2 x.interval.middle : Int) + e ∧ (Nat.log2 x.interval.middle : Int) + e ≤ 1100 ∧
      PowerLe 2 (x.interval.middle * 2 ^ e.toNat) (2 ^ (-e).toNat)
        ((Nat.log2 x.interval.middle : Int) + e) := by
  have hpos := significand_pos hzero
  have hlt := x.significand_lt
  have hmiddle : x.interval.middle = 4 * x.significand := rfl
  have hmagnitude := x.magnitude_eq
  have hleast := x.le_exponent
  have hlog : Nat.log2 x.interval.middle < 55 := (Nat.log2_lt (by omega)).2 (by omega)
  have hself : 2 ^ Nat.log2 x.interval.middle ≤ x.interval.middle := Nat.log2_self_le (by omega)
  rw [infinityMagnitude_eq] at hfinite
  refine ⟨by omega, by omega, (powerLe_iff Nat.two_pos (c := (-e).toNat) (by omega)).2 ?_⟩
  generalize Nat.log2 x.interval.middle = l at *
  calc 2 ^ (-e).toNat * 2 ^ ((l : Int) + e + ((-e).toNat : Nat)).toNat
      = 2 ^ l * 2 ^ e.toNat * 2 ^ (-e).toNat := by
        rw [← pow_add, ← pow_add, ← pow_add]
        congr 1
        omega
    _ ≤ x.interval.middle * 2 ^ e.toNat * 2 ^ (-e).toNat :=
        Nat.mul_le_mul_right _ (Nat.mul_le_mul_right _ hself)

/-- The shortest decimal is a point of a grid in the interval; a point that has one digit more than its
grid is written by that power of ten. -/
theorem exists_shortest (tie : Tie) : ∃ (count : Nat) (places : Int) (c : Nat),
    x.shortest tie = (if c = 10 ^ count then ⟨1, places⟩ else ⟨c, places - count⟩) ∧
      x.interval.Holds (2 ^ (x.exponent - 2).toNat * 10 ^ (-(places - count)).toNat)
        (2 ^ (-(x.exponent - 2)).toNat * 10 ^ (places - count).toNat) c := by
  unfold shortest
  simp only [Nat.pow_eq]
  obtain ⟨hlow, hhigh, hlog2⟩ := powerLe_log2 hzero hfinite rfl
  have hplaces := decimalPlaces_spec hlow hhigh hlog2
  generalize decimalPlaces _ _ _ = places at *
  generalize x.exponent - 2 = e at *
  set attempt : Nat → Option Decimal := fun count =>
    (gridPoint? tie x.interval (2 ^ e.toNat * 10 ^ (-(places - count)).toNat)
      (2 ^ (-e).toNat * 10 ^ (places - count).toNat)).map fun c =>
        if c = 10 ^ count then ⟨1, places⟩ else ⟨c, places - count⟩ with hattempt
  -- When no shorter decimal is in the interval, one with seventeen digits is.
  have hlast : (attempt 17).isSome = true := by
    rw [hattempt, Option.isSome_map]
    exact gridPoint?_seventeen_isSome hzero hplaces
  obtain ⟨d, hd⟩ : ∃ d, (List.range 17).findSome? (fun n => attempt (n + 1)) = some d :=
    Option.isSome_iff_exists.1 (List.findSome?_isSome_iff.2 ⟨16, by decide, hlast⟩)
  obtain ⟨n, -, hn⟩ := List.exists_of_findSome?_eq_some hd
  obtain ⟨c, hc, rfl⟩ := Option.map_eq_some_iff.1 hn
  exact ⟨n + 1, places, c, by rw [hd]; rfl, holds_of_gridPoint? hc⟩

/-- A ratio that the shortest decimal denotes is rounded to the number. -/
theorem nearestMagnitude_shortest {tie : Tie} {n w : Nat} (hw : 0 < w)
    (hratio : (x.shortest tie).Denotes n w) : nearestMagnitude n w = x.magnitude := by
  obtain ⟨count, places, c, hshortest, hc⟩ := exists_shortest hzero hfinite tie
  obtain ⟨u, hu, hone⟩ := exists_unitsPerOne_eq_pow
  have hleast := x.le_exponent
  have hunit : 2 ^ (x.exponent + 1074).toNat * 2 ^ (-(x.exponent - 2)).toNat =
      4 * unitsPerOne * 2 ^ (x.exponent - 2).toNat := by
    rw [hone, ← pow_add, show (4 : Nat) = 2 ^ 2 from rfl, ← pow_add, ← pow_add]
    exact congrArg (2 ^ ·) (by omega)
  refine nearestMagnitude_of_holds hzero hfinite hunit (by positivity) (by positivity) hw hc ?_
  have hgrid : Decimal.Denotes ⟨c, places - count⟩ n w := by
    rw [hshortest] at hratio
    split at hratio
    case isFalse => exact hratio
    case isTrue hpower =>
      rw [hpower, ← Nat.one_mul (10 ^ count)]
      exact Decimal.denotes_shift_iff.2 hratio
  exact hgrid

end Shortest

end TableReport.Binary64
