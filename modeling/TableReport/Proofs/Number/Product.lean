import TableReport.Proofs.Number.Rounding
/-!
# Products are rounded exact products

The product of two numbers is the number nearest to the product of their values. The steps are those of
the product itself: significands are multiplied, what does not fit is shifted out and rounded, and the
parts are put together again.
-/
namespace TableReport.Binary64

open Float.Model Float.Model.UnpackedFloat

/-! ### Shifting and rounding -/

theorem shiftRight_succ (em : ExtendedMantissa) (k : Nat) : em >>> (k + 1) = (em >>> k).shiftRightOne :=
  rfl

/-- After a shift, the round bit is the last bit that was shifted out, and the sticky bit tells
whether there was any other. -/
theorem shiftRight_exact (m k : Nat) :
    (⟨m, false, false⟩ : ExtendedMantissa) >>> (k + 1) =
      ⟨m / 2 ^ (k + 1), m / 2 ^ k % 2 != 0, m % 2 ^ k != 0⟩ := by
  induction k with
  | zero =>
    rw [shiftRight_succ]
    simp [HShiftRight.hShiftRight, Nat.repeat, ExtendedMantissa.shiftRightOne, Nat.mod_one]
  | succ k ih =>
    rw [shiftRight_succ, ih, ExtendedMantissa.shiftRightOne]
    have hmod : m % 2 ^ (k + 1) = m % 2 ^ k + 2 ^ k * (m / 2 ^ k % 2) := Nat.mod_pow_succ
    have hpos : 0 < 2 ^ k := Nat.two_pow_pos k
    refine congrArg₂ (fun a b => ExtendedMantissa.mk a _ b) ?_ ?_
    · rw [Nat.div_div_eq_div_mul, ← pow_succ]
    · rw [hmod]
      rcases Nat.mod_two_eq_zero_or_one (m / 2 ^ k) with h | h <;> simp [h]

theorem roundedMantissa_eq (m : Nat) (round sticky : Bool) :
    (⟨m, round, sticky⟩ : ExtendedMantissa).roundedMantissa =
      if round then (if sticky then m + 1 else m + m % 2) else m := by
  cases round <;> cases sticky <;> rfl

theorem roundedMantissa_shiftRight (m k : Nat) :
    ((⟨m, false, false⟩ : ExtendedMantissa) >>> k).roundedMantissa = roundQuotient m (2 ^ k) := by
  cases k with
  | zero =>
    have hzero : (⟨m, false, false⟩ : ExtendedMantissa) >>> 0 = ⟨m, false, false⟩ := rfl
    simp [hzero, roundedMantissa_eq, roundQuotient, Nat.mod_one]
  | succ k =>
    have hmod : m % 2 ^ (k + 1) = m % 2 ^ k + 2 ^ k * (m / 2 ^ k % 2) := Nat.mod_pow_succ
    have hlt : m % 2 ^ k < 2 ^ k := Nat.mod_lt _ (Nat.two_pow_pos k)
    rw [shiftRight_exact, roundedMantissa_eq, roundQuotient, hmod, pow_succ]
    generalize m / (2 ^ k * 2) = q
    generalize m % 2 ^ k = s at *
    rcases Nat.mod_two_eq_zero_or_one (m / 2 ^ k) with h | h
    · have hbelow : 2 * (s + 2 ^ k * 0) < 2 ^ k * 2 := by omega
      rw [h, if_pos hbelow]
      rfl
    · have hnot : ¬2 * (s + 2 ^ k * 1) < 2 ^ k * 2 := by omega
      rw [h, if_neg hnot]
      by_cases hs : s = 0
      · have htie : ¬2 ^ k * 2 < 2 * (s + 2 ^ k * 1) := by omega
        rw [if_neg htie, hs]
        rfl
      · have habove : 2 ^ k * 2 < 2 * (s + 2 ^ k * 1) := by omega
        rw [if_pos habove]
        simp [hs]

/-- The exponent that a rounded value is shifted to. -/
def targetExponent (m : Nat) (e : Int) : Int := max ((m.log2 : Int) + 1 + e - 53) (-1074)

theorem shiftToTargetExponent_exact (m : Nat) (e : Int) :
    shiftToTargetExponent .binary64 m e .exact =
      ((⟨m, false, false⟩ : ExtendedMantissa) >>> (targetExponent m e - e).toNat,
        e + (targetExponent m e - e).toNat) :=
  rfl

/-- A significand of at most 53 digits is not shifted any more. -/
theorem shiftToTargetExponent_of_lt {q : Nat} {e : Int} (hq : q < 2 ^ 53) (he : -1074 ≤ e) :
    shiftToTargetExponent .binary64 q e .exact = (⟨q, false, false⟩, e) := by
  have hlog : q.log2 ≤ 52 := by
    rcases Nat.eq_zero_or_pos q with rfl | hpos
    · decide
    · have := (Nat.log2_lt hpos.ne').2 hq
      omega
  have hshift : (targetExponent q e - e).toNat = 0 := by
    unfold targetExponent
    omega
  rw [shiftToTargetExponent_exact, hshift]
  simp
  rfl

/-- The significand that is one digit too long is shifted once. -/
theorem shiftToTargetExponent_carry {e : Int} (he : -1074 ≤ e) :
    shiftToTargetExponent .binary64 (2 ^ 53) e .exact = (⟨2 ^ 52, false, false⟩, e + 1) := by
  have hshift : (targetExponent (2 ^ 53) e - e).toNat = 1 := by
    unfold targetExponent
    rw [Nat.log2_two_pow]
    omega
  rw [shiftToTargetExponent_exact, hshift]
  rfl

/-! ### Parts of a pattern -/

theorem toNat_append {n m : Nat} (x : BitVec n) (y : BitVec m) :
    (x ++ y).toNat = x.toNat * 2 ^ m + y.toNat := by
  rw [BitVec.toNat_append, ← Nat.shiftLeft_add_eq_or_of_lt y.isLt, Nat.shiftLeft_eq]

theorem toNat_packComponents (s : Sign) (e : BitVec 11) (m : BitVec 52) :
    (packComponents .binary64 s e m).toNat =
      s.toBitVec.toNat * 2 ^ 63 + e.toNat * 2 ^ 52 + m.toNat := by
  change (s.toBitVec ++ e ++ m).toNat = _
  rw [toNat_append, toNat_append]
  ring

theorem toNat_unpackMantissa (b : BitVec 64) :
    (@unpackMantissa .binary64 b).toNat = b.toNat % 2 ^ 52 := by
  unfold unpackMantissa
  rw [BitVec.toNat_cast, BitVec.extractLsb_toNat]
  simp

theorem toNat_unpackExponent (b : BitVec 64) :
    (@unpackExponent .binary64 b).toNat = b.toNat / 2 ^ 52 % 2 ^ 11 := by
  unfold unpackExponent
  rw [BitVec.toNat_cast, BitVec.extractLsb_toNat]
  simp [Nat.shiftRight_eq_div_pow]

theorem toNat_unpackSign (b : BitVec 64) : (@unpackSign .binary64 b).toNat = b.toNat / 2 ^ 63 := by
  unfold unpackSign
  rw [BitVec.toNat_cast, BitVec.extractLsb_toNat]
  simp [Nat.shiftRight_eq_div_pow]
  have := b.isLt
  omega

/-- The sign of a pattern. -/
def signOf (negative : Bool) : Sign := if negative then .negative else .positive

theorem toNat_signOf (negative : Bool) :
    (signOf negative).toBitVec.toNat * 2 ^ 63 = if negative then 9223372036854775808 else 0 := by
  cases negative <;> rfl

theorem exists_finite_eq {s t : Sign} {m q : Nat} {e f : Int} (h : 0 < m) (hs : s = t) (hm : m = q)
    (he : e = f) : ∃ h', UnpackedFloat.finite s m e h = .finite t q f h' := by
  subst hs hm he
  exact ⟨h, rfl⟩

/-- The parts of a finite number that is not zero are its significand and its exponent. -/
theorem unpack_bits {x : Binary64} (hfinite : x.magnitude < infinityMagnitude)
    (hzero : x.magnitude ≠ 0) : ∃ h,
    UnpackedFloat.unpack .binary64 x.bits.toBitVec =
      .finite (signOf x.isNegative) x.significand x.exponent h := by
  rw [infinityMagnitude_eq] at hfinite
  have hbits : x.bits.toBitVec.toNat =
      (if x.isNegative then 9223372036854775808 else 0) + x.magnitude := x.bits_eq
  have hsign : Sign.ofBitVec (@unpackSign .binary64 x.bits.toBitVec) = signOf x.isNegative := by
    have hnat := toNat_unpackSign x.bits.toBitVec
    unfold Sign.ofBitVec signOf
    have hiff : @unpackSign .binary64 x.bits.toBitVec = 0#1 ↔ x.isNegative = false := by
      rw [← BitVec.toNat_inj, hnat, hbits, BitVec.toNat_zero]
      cases x.isNegative <;> simp
      omega
    cases hneg : x.isNegative <;> simp [hiff, hneg]
  have hexponent : (@unpackExponent .binary64 x.bits.toBitVec).toNat = x.magnitude / 2 ^ 52 := by
    rw [toNat_unpackExponent, hbits]
    split <;> omega
  have hmantissa : (@unpackMantissa .binary64 x.bits.toBitVec).toNat = x.magnitude % 2 ^ 52 := by
    rw [toNat_unpackMantissa, hbits]
    split <;> omega
  have hnotInfinite : @unpackExponent .binary64 x.bits.toBitVec ≠ -1#11 := by
    intro h
    have := congrArg BitVec.toNat h
    rw [hexponent] at this
    have hlast : (-1#11 : BitVec 11).toNat = 2047 := rfl
    omega
  have hiffExponent : @unpackExponent .binary64 x.bits.toBitVec = 0#11 ↔ x.magnitude < 2 ^ 52 := by
    rw [← BitVec.toNat_inj, hexponent, BitVec.toNat_zero]
    omega
  have hiffMantissa : @unpackMantissa .binary64 x.bits.toBitVec = 0#52 ↔ x.magnitude % 2 ^ 52 = 0 := by
    rw [← BitVec.toNat_inj, hmantissa, BitVec.toNat_zero]
  unfold UnpackedFloat.unpack
  dsimp only
  rw [if_neg hnotInfinite]
  by_cases hsub : x.magnitude < 2 ^ 52
  · rw [if_pos (hiffExponent.2 hsub), dif_neg (hiffMantissa.not.2 (by omega))]
    refine exists_finite_eq _ hsign ?_ ?_
    · rw [hmantissa, significand_eq, if_pos hsub, Nat.mod_eq_of_lt hsub]
    · rw [hexponent, exponent_eq, if_pos hsub, Nat.div_eq_of_lt hsub]
      rfl
  · rw [if_neg (hiffExponent.not.2 hsub)]
    refine exists_finite_eq _ hsign ?_ ?_
    · rw [toNat_append, hmantissa, significand_eq, if_neg hsub]
      rfl
    · rw [hexponent, exponent_eq, if_neg hsub]
      rfl

/-- Putting the parts of a finite value together gives the magnitude that they stand for, or infinity
when the exponent is too large. -/
theorem toNat_pack {negative : Bool} {q : Nat} {e : Int} (h : 0 < q) (hq : q < 2 ^ 53)
    (he : -1074 ≤ e) (hnormal : -1074 < e → 2 ^ 52 ≤ q) :
    (UnpackedFloat.pack .binary64 (.finite (signOf negative) q e h)).toNat =
      (ofMagnitude negative (min ((e + 1074).toNat * 2 ^ 52 + q) infinityMagnitude)).bits.toNat := by
  rw [bits_ofMagnitude (by rw [infinityMagnitude_eq]; omega), infinityMagnitude_eq]
  have hbiased : (e + (Format.binary64.exponentBias : Int) +
      (Format.binary64.mantissaBitsWithoutImplicit : Int)).toNat = (e + 1075).toNat := by
    change (e + 1023 + 52).toNat = _
    omega
  unfold UnpackedFloat.pack
  dsimp only
  rw [hbiased]
  by_cases hinf : 2 ^ 11 ≤ (e + 1075).toNat + 1
  · rw [if_pos hinf]
    have hlarge := hnormal (by omega)
    refine (toNat_packComponents _ _ _).trans ?_
    rw [toNat_signOf, show (-1#11 : BitVec 11).toNat = 2047 from rfl,
      show (0 : BitVec 52).toNat = 0 from rfl]
    omega
  · rw [if_neg hinf]
    have hlog : q.log2 + 1 = Format.binary64.mantissaBits ↔ 2 ^ 52 ≤ q := by
      change q.log2 + 1 = 53 ↔ _
      have hlt : q.log2 < 53 := (Nat.log2_lt h.ne').2 hq
      rw [← Nat.le_log2 h.ne']
      omega
    by_cases hlarge : 2 ^ 52 ≤ q
    · rw [if_pos (hlog.2 hlarge)]
      refine (toNat_packComponents _ _ _).trans ?_
      rw [toNat_signOf, BitVec.toNat_ofNat, BitVec.toNat_ofNat]
      omega
    · rw [if_neg (hlog.not.2 hlarge)]
      refine (toNat_packComponents _ _ _).trans ?_
      rw [toNat_signOf, show (0#11 : BitVec 11).toNat = 0 from rfl, BitVec.toNat_ofNat]
      omega

/-! ### Rounding a value -/

section Round

variable {negative : Bool} {m : Nat} {e : Int}

/-- The rounded significand has at most 53 digits, up to a carry, and no fewer above the least
exponent. -/
theorem rounded_bounds (hm : 0 < m) (he : e ≤ targetExponent m e) :
    roundQuotient m (2 ^ (targetExponent m e - e).toNat) ≤ 2 ^ 53 ∧
      (-1074 < targetExponent m e → 2 ^ 52 ≤ roundQuotient m (2 ^ (targetExponent m e - e).toNat)) := by
  obtain ⟨hhigh, hlow, -⟩ := @roundQuotient_spec m _ (Nat.two_pow_pos (targetExponent m e - e).toNat)
  have hm₁ := Nat.log2_self_le hm.ne'
  have hm₂ := Nat.lt_log2_self (n := m)
  constructor
  · have hle : m < 2 ^ 53 * 2 ^ (targetExponent m e - e).toNat := by
      rw [← pow_add]
      refine hm₂.trans_le (Nat.pow_le_pow_right Nat.two_pos ?_)
      unfold targetExponent at *
      omega
    generalize 2 ^ (targetExponent m e - e).toNat = d at *
    by_contra hq
    nlinarith
  · intro hnormal
    have hge : 2 ^ 52 * 2 ^ (targetExponent m e - e).toNat ≤ m := by
      rw [← pow_add]
      refine (Nat.pow_le_pow_right Nat.two_pos ?_).trans hm₁
      unfold targetExponent at *
      omega
    have hpos : 0 < 2 ^ (targetExponent m e - e).toNat := Nat.two_pow_pos _
    generalize 2 ^ (targetExponent m e - e).toNat = d at *
    by_contra hq
    nlinarith

theorem toNat_pack_round (hm : 0 < m) (he : e ≤ targetExponent m e) :
    (UnpackedFloat.pack .binary64
        (roundWithAccuracy .binary64 (signOf negative) m e .exact)).toNat =
      (ofMagnitude negative (min ((targetExponent m e + 1074).toNat * 2 ^ 52 +
        roundQuotient m (2 ^ (targetExponent m e - e).toNat)) infinityMagnitude)).bits.toNat := by
  obtain ⟨hq, hnormal⟩ := rounded_bounds hm he
  have hleast : -1074 ≤ targetExponent m e := le_max_right _ _
  have hexponent : e + ((targetExponent m e - e).toNat : Nat) = targetExponent m e := by omega
  unfold roundWithAccuracy
  rw [shiftToTargetExponent_exact, hexponent]
  dsimp only
  rw [roundedMantissa_shiftRight]
  generalize roundQuotient m (2 ^ (targetExponent m e - e).toNat) = q at *
  generalize targetExponent m e = t at *
  obtain rfl | hcarry := Nat.eq_or_lt_of_le hq
  · rw [shiftToTargetExponent_carry hleast]
    rw [show (t + 1074).toNat * 2 ^ 52 + 2 ^ 53 = (t + 1 + 1074).toNat * 2 ^ 52 + 2 ^ 52 by omega]
    exact toNat_pack (Nat.two_pow_pos 52) (by decide) (by omega) fun _ => Nat.le_refl _
  · rw [shiftToTargetExponent_of_lt hcarry hleast]
    dsimp only
    by_cases hzero : q = 0
    · rw [dif_pos hzero]
      subst hzero
      have hsub : t = -1074 := by
        by_contra hne
        exact absurd (hnormal (by omega)) (by decide)
      rw [hsub]
      refine (toNat_packComponents _ _ _).trans ?_
      rw [toNat_signOf, bits_ofMagnitude (by decide)]
      rfl
    · rw [dif_neg hzero]
      exact toNat_pack (Nat.pos_of_ne_zero hzero) hcarry hleast hnormal

end Round

/-! ### Products -/

/-- A finite number in units is its significand at its exponent. -/
theorem toModel_unpack {x : Binary64} (hfinite : x.magnitude < infinityMagnitude)
    (hzero : x.magnitude ≠ 0) : ∃ h,
    x.toFloat.toModel.unpack = .finite (signOf x.isNegative) x.significand x.exponent h := by
  obtain ⟨h, hunpack⟩ := unpack_bits hfinite hzero
  refine ⟨h, ?_⟩
  have hpack : UnpackedFloat.pack .binary64 (.finite (signOf x.isNegative) x.significand x.exponent h) =
      x.bits.toBitVec := by
    apply BitVec.eq_of_toNat_eq
    rw [toNat_pack h x.significand_lt x.le_exponent le_significand, ← magnitude_eq,
      Nat.min_eq_left hfinite.le, ofMagnitude_magnitude]
    rfl
  change UnpackedFloat.unpack .binary64 (UnpackedFloat.pack .binary64
    (UnpackedFloat.unpack .binary64 x.bits.toBitVec)) = _
  rw [hunpack, hpack, hunpack]

/-- A ratio that is a significand times a power of two is rounded by rounding the significand. -/
theorem nearestMagnitude_eq_rounded {n d m c : Nat} {e : Int} (hm : 0 < m) (hd : 0 < d)
    (he : e ≤ targetExponent m e) (hc : 0 ≤ e + c)
    (hvalue : n * 2 ^ c = d * (m * 2 ^ (e + c).toNat)) :
    nearestMagnitude n d = min ((targetExponent m e + 1074).toNat * 2 ^ 52 +
      roundQuotient m (2 ^ (targetExponent m e - e).toNat)) infinityMagnitude := by
  have hm₁ := Nat.log2_self_le hm.ne'
  have hm₂ := Nat.lt_log2_self (n := m)
  have hleast : -1074 ≤ targetExponent m e := le_max_right _ _
  have hn : 0 < n := by
    rcases Nat.eq_zero_or_pos n with rfl | hn
    · have : 0 < d * (m * 2 ^ (e + c).toNat) := by positivity
      omega
    · exact hn
  obtain ⟨u, hu, hone⟩ := exists_unitsPerOne_eq_pow
  obtain ⟨k', heq, hlt', hge'⟩ := nearestMagnitude_eq hn hd
  rw [hone] at heq hlt' hge'
  have hscaled : n * 2 ^ u * 2 ^ c = d * (m * 2 ^ (e + c + u).toNat) := by
    rw [show (e + c + u).toNat = (e + c).toNat + u by omega, pow_add, Nat.mul_right_comm, hvalue]
    ring
  obtain ⟨k, hk⟩ : ∃ k, k = (targetExponent m e + 1074).toNat := ⟨_, rfl⟩
  have hlt : n * 2 ^ u < d * 2 ^ (k + 53) := by
    refine Nat.lt_of_mul_lt_mul_right (a := 2 ^ c) ?_
    rw [hscaled, Nat.mul_assoc, ← pow_add]
    refine Nat.mul_lt_mul_of_pos_left ?_ hd
    calc m * 2 ^ (e + c + u).toNat < 2 ^ (m.log2 + 1) * 2 ^ (e + c + u).toNat :=
          Nat.mul_lt_mul_of_pos_right hm₂ (Nat.two_pow_pos _)
      _ = 2 ^ (m.log2 + 1 + (e + c + u).toNat) := (pow_add _ _ _).symm
      _ ≤ 2 ^ (k + 53 + c) := Nat.pow_le_pow_right Nat.two_pos (by unfold targetExponent at *; omega)
  have hge : 0 < k → d * 2 ^ (k + 52) ≤ n * 2 ^ u := by
    intro hpos
    refine Nat.le_of_mul_le_mul_right ?_ (Nat.two_pow_pos c)
    rw [hscaled, Nat.mul_assoc, ← pow_add]
    refine Nat.mul_le_mul_left d ?_
    calc 2 ^ (k + 52 + c) ≤ 2 ^ (m.log2 + (e + c + u).toNat) :=
          Nat.pow_le_pow_right Nat.two_pos (by unfold targetExponent at *; omega)
      _ = 2 ^ m.log2 * 2 ^ (e + c + u).toNat := pow_add _ _ _
      _ ≤ m * 2 ^ (e + c + u).toNat := Nat.mul_le_mul_right _ hm₁
  have hpow : ∀ {i j : Nat}, d * 2 ^ i < d * 2 ^ j → i < j := fun {i j} h =>
    (Nat.pow_lt_pow_iff_right Nat.one_lt_two).1 (Nat.lt_of_mul_lt_mul_left h)
  obtain rfl : k' = k := by
    rcases Nat.lt_trichotomy k' k with h | h | h
    · have := hpow ((hge (by omega)).trans_lt hlt')
      omega
    · exact h
    · have := hpow ((hge' (by omega)).trans_lt hlt)
      omega
  rw [heq, ← hk]
  refine congrArg₂ min (congrArg₂ (· + ·) rfl ?_) rfl
  have hpos : 0 < 2 ^ (e + c + u).toNat := Nat.two_pow_pos _
  rw [← roundQuotient_mul_right (Nat.two_pow_pos c), hscaled, Nat.mul_assoc, ← pow_add,
    Nat.mul_comm d, Nat.mul_comm d, roundQuotient_mul_right hd,
    show k' + c = (targetExponent m e - e).toNat + (e + c + u).toNat by omega, pow_add,
    roundQuotient_mul_right hpos]

/-- The product of two finite numbers is the number nearest to the product of their values. -/
theorem mul_eq {x y : Binary64} (hx : x.magnitude < infinityMagnitude) (hx₀ : x.magnitude ≠ 0)
    (hy : y.magnitude < infinityMagnitude) (hy₀ : y.magnitude ≠ 0) :
    x * y = ofMagnitude (x.isNegative != y.isNegative)
      (nearestMagnitude (units x.magnitude * units y.magnitude) (unitsPerOne * unitsPerOne)) := by
  obtain ⟨hmx, hux⟩ := toModel_unpack hx hx₀
  obtain ⟨hmy, huy⟩ := toModel_unpack hy hy₀
  have hsign : signOf x.isNegative * signOf y.isNegative = signOf (x.isNegative != y.isNegative) := by
    cases x.isNegative <;> cases y.isNegative <;> rfl
  have hm : 0 < x.significand * y.significand := Nat.mul_pos hmx hmy
  have hex := x.le_exponent
  have hey := y.le_exponent
  have he : x.exponent + y.exponent ≤
      targetExponent (x.significand * y.significand) (x.exponent + y.exponent) := by
    unfold targetExponent
    by_cases hboth : x.exponent = -1074 ∧ y.exponent = -1074
    · omega
    · -- One of the numbers has all its digits, so the product has no fewer.
      have hlog : 52 ≤ (x.significand * y.significand).log2 := by
        rw [Nat.le_log2 hm.ne']
        by_cases hx' : x.exponent = -1074
        · exact (le_significand (by omega)).trans (Nat.le_mul_of_pos_left _ hmx)
        · exact (le_significand (by omega)).trans (Nat.le_mul_of_pos_right _ hmy)
      omega
  have hvalue : ∃ c : Nat, 2148 = c ∧ units x.magnitude * units y.magnitude * 2 ^ c =
      unitsPerOne * unitsPerOne *
        (x.significand * y.significand * 2 ^ (x.exponent + y.exponent + c).toNat) := by
    obtain ⟨u, hu, hone⟩ := exists_unitsPerOne_eq_pow
    refine ⟨u + u, by omega, ?_⟩
    rw [hone, units_magnitude, units_magnitude, ← pow_add,
      show (x.exponent + y.exponent + (u + u : Nat)).toNat =
        (x.exponent + 1074).toNat + (y.exponent + 1074).toNat by omega, pow_add]
    ring
  obtain ⟨c, hc, hvalue⟩ := hvalue
  have hone : 0 < unitsPerOne * unitsPerOne := Nat.mul_pos unitsPerOne_pos unitsPerOne_pos
  ext
  change (UnpackedFloat.pack .binary64 (UnpackedFloat.mul .binary64 x.toFloat.toModel.unpack
    y.toFloat.toModel.unpack)).toNat = _
  rw [hux, huy]
  change (UnpackedFloat.pack .binary64 (roundWithAccuracy .binary64
    (signOf x.isNegative * signOf y.isNegative) (x.significand * y.significand)
      (x.exponent + y.exponent) .exact)).toNat = _
  rw [hsign, toNat_pack_round hm he, nearestMagnitude_eq_rounded hm hone he (by omega) hvalue]

/-! ### Exchanging factors -/

theorem sign_mul_comm (s t : Sign) : s * t = t * s := by
  cases s <;> cases t <;> rfl

/-- Every product that is not a number is the same NaN, so this holds of NaN too. -/
protected theorem mul_comm (x y : Binary64) : x * y = y * x := by
  have hparts : ∀ a b : UnpackedFloat,
      UnpackedFloat.mul .binary64 a b = UnpackedFloat.mul .binary64 b a := by
    intro a b
    cases a <;> cases b
    case finite.finite s m e _ t n f _ =>
      dsimp only [UnpackedFloat.mul]
      rw [sign_mul_comm s t, Nat.mul_comm m n, Int.add_comm e f]
    all_goals first
      | rfl
      | dsimp only [UnpackedFloat.mul]
        rw [sign_mul_comm]
  have hproduct : ∀ a b : Binary64, a * b = ofFloat (.ofModel (.pack
      (UnpackedFloat.mul .binary64 a.toFloat.toModel.unpack b.toFloat.toModel.unpack))) :=
    fun _ _ => rfl
  rw [hproduct x y, hproduct y x, hparts]

end TableReport.Binary64
