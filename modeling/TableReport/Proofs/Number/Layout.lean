import TableReport.Number.Layout
import TableReport.Proofs.Number.Shortest
/-!
# Numbers read back from their text

In every layout the text of a number is read as that number, whether it is written with an exponent, with
the point among its digits, or with zeros on either side of them.
-/
namespace TableReport

open Binary64

/-! ### Reading digits and exponents -/

section Reading

variable {negative : Bool} {whole fraction tail : List Char}

theorem all_isDigit_toDigits (n : Nat) : ∀ c ∈ Nat.toDigits 10 n, c.isDigit = true :=
  fun _ hc => Nat.isDigit_of_mem_toDigits (by decide) (by decide) hc

theorem takeWhile_isDigit_append (hwhole : ∀ c ∈ whole, c.isDigit = true)
    (htail : ∀ c ∈ tail.head?, c.isDigit = false) :
    (whole ++ tail).takeWhile Char.isDigit = whole ∧ (whole ++ tail).dropWhile Char.isDigit = tail := by
  rw [List.takeWhile_append_of_pos hwhole, List.dropWhile_append_of_pos hwhole]
  cases tail with
  | nil => simp
  | cons c tail => simp [htail c rfl]

/-- Digits without a point. -/
theorem readDecimal?_whole (hwhole : ∀ c ∈ whole, c.isDigit = true) (hne : whole ≠ [])
    (htail : ∀ c ∈ tail.head?, c.isDigit = false ∧ c ≠ '.') : readDecimal? negative (whole ++ tail) =
      (readExponent? tail).map fun e => ofDecimal negative (digitsValue whole) e := by
  obtain ⟨htake, hdrop⟩ := takeWhile_isDigit_append hwhole fun c hc => (htail c hc).1
  have hempty : whole.isEmpty = false := List.isEmpty_eq_false_iff.2 hne
  unfold readDecimal?
  simp only [htake, hdrop]
  split
  · exact absurd rfl (htail '.' rfl).2
  · simp [hempty]

/-- Digits with a point among them. -/
theorem readDecimal?_point (hwhole : ∀ c ∈ whole, c.isDigit = true) (hne : whole ≠ [])
    (hfraction : ∀ c ∈ fraction, c.isDigit = true) (htail : ∀ c ∈ tail.head?, c.isDigit = false) :
    readDecimal? negative (whole ++ '.' :: (fraction ++ tail)) = (readExponent? tail).map fun e =>
      ofDecimal negative (digitsValue (whole ++ fraction)) (e - fraction.length) := by
  have hpoint : ∀ c ∈ ('.' :: (fraction ++ tail)).head?, c.isDigit = false := by
    rintro c hc
    obtain rfl := Option.some.inj hc
    rfl
  obtain ⟨htake, hdrop⟩ := takeWhile_isDigit_append hwhole hpoint
  obtain ⟨htake', hdrop'⟩ := takeWhile_isDigit_append hfraction htail
  have hempty : whole.isEmpty = false := List.isEmpty_eq_false_iff.2 hne
  unfold readDecimal?
  simp [htake, hdrop, htake', hdrop', hempty]

/-- A decimal without an exponent. -/
theorem readDecimal?_fraction (hwhole : ∀ c ∈ whole, c.isDigit = true) (hne : whole ≠ [])
    (hfraction : ∀ c ∈ fraction, c.isDigit = true) : readDecimal? negative (whole ++ '.' :: fraction) =
      some (ofDecimal negative (digitsValue (whole ++ fraction)) (-fraction.length)) := by
  have htail : ∀ c ∈ ([] : List Char).head?, c.isDigit = false := nofun
  rw [← List.append_nil fraction, readDecimal?_point hwhole hne hfraction htail, readExponent?,
    Option.map_some, Int.zero_sub, List.append_nil]

/-- A decimal begins with a digit or a point. -/
theorem head_of_readDecimal? {cs : List Char} {x : Binary64} (h : readDecimal? negative cs = some x) :
    ∃ c rest, cs = c :: rest ∧ (c.isDigit = true ∨ c = '.') := by
  cases cs with
  | nil => cases h
  | cons c rest =>
    refine ⟨c, rest, rfl, ?_⟩
    by_contra hne
    obtain ⟨hdigit, hpoint⟩ := not_or.1 hne
    unfold readDecimal? at h
    simp [hdigit, hpoint] at h

theorem toLower_of_isDigit {c : Char} (h : c.isDigit = true) : c.toLower = c := by
  unfold Char.toLower
  rw [dif_neg]
  rintro ⟨hlow, -⟩
  unfold Char.isDigit at h
  grind

/-- What begins like a decimal is not taken for a word. -/
theorem readMagnitude?_of_readDecimal? {cs : List Char} {x : Binary64}
    (h : readDecimal? negative cs = some x) : readMagnitude? negative cs = some x := by
  obtain ⟨c, rest, rfl, hc⟩ := head_of_readDecimal? h
  -- Words begin with letters, and digits and points have no lower case.
  have hlower : c.toLower = c := by
    rcases hc with hc | rfl
    · exact toLower_of_isDigit hc
    · rfl
  have hn : c ≠ 'n' := by
    rintro rfl
    exact hc.elim nofun nofun
  have hi : c ≠ 'i' := by
    rintro rfl
    exact hc.elim nofun nofun
  simp [readMagnitude?, hlower, hn, hi, h]

theorem readExponent?_text (exponent : Int) (plus : Bool) :
    readExponent? ('e' :: ((if exponent < 0 then ['-'] else if plus then ['+'] else []) ++
      Nat.toDigits 10 exponent.natAbs)) = some exponent := by
  obtain ⟨d, ds, hds⟩ : ∃ d ds, Nat.toDigits 10 exponent.natAbs = d :: ds :=
    List.exists_cons_of_ne_nil Nat.toDigits_ne_nil
  have hall : (d :: ds).all Char.isDigit = true :=
    List.all_eq_true.2 (hds ▸ all_isDigit_toDigits exponent.natAbs)
  have hvalue : digitsValue (d :: ds) = exponent.natAbs := hds ▸ digitsValue_toDigits _
  have hd : d.isDigit = true := all_isDigit_toDigits exponent.natAbs d (hds ▸ List.mem_cons_self)
  have hminus : d ≠ '-' := by
    rintro rfl
    cases hd
  have hplus : d ≠ '+' := by
    rintro rfl
    cases hd
  rw [hds]
  obtain ⟨n, hn⟩ : ∃ n, exponent.natAbs = n := ⟨_, rfl⟩
  rw [hn] at hvalue
  by_cases hneg : exponent < 0
  · have hexponent : -(n : Int) = exponent := by omega
    simpa [hneg, readExponent?, hall, hvalue] using hexponent
  · have hexponent : (n : Int) = exponent := by omega
    cases plus
    · simpa [hneg, readExponent?, hminus, hplus, hall, hvalue] using hexponent
    · simpa [hneg, readExponent?, hall, hvalue] using hexponent

end Reading

/-! ### Layouts -/

namespace NumberLayout

variable (layout : NumberLayout) (negative : Bool) (d : Decimal)

/-- A decimal written in one way or the other is read as the nearest number to it. -/
def ReadsBack (cs : List Char) : Prop :=
  ∃ j : Nat, readDecimal? negative cs =
    some (ofDecimal negative (d.digits * 10 ^ j) (d.scale - j))

theorem readsBack_of_eq {negative : Bool} {d : Decimal} {cs : List Char} {n j : Nat} {scale : Int}
    (h : readDecimal? negative cs = some (ofDecimal negative n scale)) (hn : n = d.digits * 10 ^ j)
    (hscale : scale = d.scale - j) : ReadsBack negative d cs :=
  ⟨j, by rw [h, hn, hscale]⟩

theorem digitsValue_text : digitsValue d.text = d.digits :=
  digitsValue_toDigits d.digits

theorem isDigit_of_mem_text : ∀ c ∈ d.text, c.isDigit = true :=
  all_isDigit_toDigits d.digits

theorem isDigit_of_mem_zeros (k : Nat) : ∀ c ∈ List.replicate k '0', c.isDigit = true := by
  intro c hc
  obtain rfl := List.eq_of_mem_replicate hc
  rfl

theorem readsBack_zeros_behind (hscale : 0 ≤ d.scale) :
    ReadsBack negative d (d.text ++ List.replicate d.scale.toNat '0' ++
      (if layout.point then ['.', '0'] else [])) := by
  have hwhole : ∀ c ∈ d.text ++ List.replicate d.scale.toNat '0', c.isDigit = true := fun c hc =>
    (List.mem_append.1 hc).elim (isDigit_of_mem_text d c) (isDigit_of_mem_zeros _ c)
  have hne : d.text ++ List.replicate d.scale.toNat '0' ≠ [] := by simp [Decimal.text]
  split
  · refine readsBack_of_eq (j := d.scale.toNat + 1)
      (readDecimal?_fraction hwhole hne (isDigit_of_mem_zeros 1)) ?_ ?_
    · change digitsValue (d.text ++ List.replicate d.scale.toNat '0' ++ List.replicate 1 '0') = _
      rw [List.append_assoc, ← List.replicate_add, digitsValue_append_zeros, digitsValue_text]
    · rw [List.length_singleton]
      omega
  · refine readsBack_of_eq (j := d.scale.toNat) (readDecimal?_whole hwhole hne (by simp)) ?_ ?_
    · rw [digitsValue_append_zeros, digitsValue_text]
    · omega

theorem readsBack_point_inside (hplaces : (-d.scale).toNat < d.text.length) (hscale : ¬0 ≤ d.scale) :
    ReadsBack negative d (d.text.take (d.text.length - (-d.scale).toNat) ++
      '.' :: d.text.drop (d.text.length - (-d.scale).toNat)) := by
  have hne : d.text.take (d.text.length - (-d.scale).toNat) ≠ [] := by
    rw [ne_eq, ← List.length_eq_zero_iff, List.length_take]
    omega
  refine readsBack_of_eq (j := 0)
    (readDecimal?_fraction (fun c hc => isDigit_of_mem_text d c (List.mem_of_mem_take hc)) hne
      (fun c hc => isDigit_of_mem_text d c (List.mem_of_mem_drop hc))) ?_ ?_
  · rw [List.take_append_drop, digitsValue_text, pow_zero, Nat.mul_one]
  · rw [List.length_drop]
    omega

theorem readsBack_zeros_before (hplaces : ¬(-d.scale).toNat < d.text.length) (hscale : ¬0 ≤ d.scale) :
    ReadsBack negative d
      ('0' :: '.' :: List.replicate ((-d.scale).toNat - d.text.length) '0' ++ d.text) := by
  generalize hzeros : (-d.scale).toNat - d.text.length = zeros
  have hfraction : ∀ c ∈ List.replicate zeros '0' ++ d.text, c.isDigit = true := fun c hc =>
    (List.mem_append.1 hc).elim (isDigit_of_mem_zeros _ c) (isDigit_of_mem_text d c)
  have hread := @readDecimal?_fraction negative _ _ (isDigit_of_mem_zeros 1) (by simp) hfraction
  refine readsBack_of_eq (j := 0) hread ?_ ?_
  · rw [← List.append_assoc, ← List.replicate_add, digitsValue_zeros_append, digitsValue_text, pow_zero,
      Nat.mul_one]
  · rw [List.length_append, List.length_replicate]
    omega

theorem readsBack_positionalText : ReadsBack negative d (layout.positionalText d) := by
  unfold positionalText
  dsimp only
  split
  case isTrue hscale => exact readsBack_zeros_behind layout negative d hscale
  case isFalse hscale =>
    split
    case isTrue hplaces => exact readsBack_point_inside negative d hplaces hscale
    case isFalse hplaces => exact readsBack_zeros_before negative d hplaces hscale

theorem readsBack_exponentText : ReadsBack negative d (layout.exponentText d) := by
  have hdigits := isDigit_of_mem_text d
  have hleading : d.leading = d.scale + d.text.length - 1 := rfl
  have hexponent := readExponent?_text d.leading layout.plus
  refine ⟨0, ?_⟩
  rw [pow_zero, Nat.mul_one, ← digitsValue_text]
  unfold exponentText
  dsimp only
  rw [List.append_assoc, List.cons_append]
  cases htext : d.text with
  | nil => exact absurd htext Nat.toDigits_ne_nil
  | cons c more =>
    rw [htext] at hdigits hleading
    obtain ⟨hc, hmore⟩ := List.forall_mem_cons.1 hdigits
    have hfirst : ∀ x ∈ [c], x.isDigit = true := List.forall_mem_singleton.2 hc
    cases more with
    | nil =>
      refine (readDecimal?_whole hdigits (by simp) (by simp)).trans ?_
      rw [hexponent]
      refine congrArg (fun e => some (ofDecimal negative (digitsValue [c]) e)) ?_
      rw [hleading, List.length_singleton]
      omega
    | cons c' more =>
      refine (readDecimal?_point hfirst (by simp) hmore (by simp)).trans ?_
      rw [hexponent]
      refine congrArg (fun e => some (ofDecimal negative (digitsValue (c :: c' :: more)) e)) ?_
      rw [hleading, List.length_cons]
      omega

theorem readsBack_decimalText : ReadsBack negative d (layout.decimalText d) := by
  unfold decimalText
  split
  · exact readsBack_positionalText layout negative d
  · split
    · exact readsBack_positionalText layout negative d
    · exact readsBack_exponentText layout negative d

end NumberLayout

/-! ### Numbers -/

/-- The digits of a finite number behind its sign are read as the number. -/
theorem readDecimal?_shortest {x : Binary64} (layout : NumberLayout) (hzero : x.magnitude ≠ 0)
    (hfinite : x.magnitude < infinityMagnitude) :
    readDecimal? x.isNegative (layout.decimalText (x.shortest layout.tie)) = some x := by
  obtain ⟨j, hj⟩ := layout.readsBack_decimalText x.isNegative (x.shortest layout.tie)
  have hvalue := Decimal.denotes_shift_iff.1 (Decimal.denotes_self
    ⟨(x.shortest layout.tie).digits * 10 ^ j, (x.shortest layout.tie).scale - j⟩)
  rw [hj, ofDecimal_eq, nearestMagnitude_shortest hzero hfinite (by positivity) hvalue,
    ofMagnitude_magnitude]

theorem readDecimal?_zero (negative point : Bool) :
    readDecimal? negative (if point then ['0', '.', '0'] else ['0']) =
      some (ofMagnitude negative 0) := by
  cases negative <;> cases point <;> decide

/-- Behind its sign, the text of a number is read as the number, and has no other sign. -/
theorem exists_body (layout : NumberLayout) {x : Binary64} (hnumber : x.isNaN = false) : ∃ body,
    x.text layout = String.ofList ((if x.isNegative then ['-'] else []) ++ body) ∧
      readMagnitude? x.isNegative body = some x ∧ ∀ c ∈ body.head?, c ≠ '-' ∧ c ≠ '+' := by
  have hself := x.ofMagnitude_magnitude
  have hdecimal : ∀ {body}, readDecimal? x.isNegative body = some x →
      readMagnitude? x.isNegative body = some x ∧ ∀ c ∈ body.head?, c ≠ '-' ∧ c ≠ '+' := by
    intro body hbody
    obtain ⟨c, rest, rfl, hc⟩ := head_of_readDecimal? hbody
    refine ⟨readMagnitude?_of_readDecimal? hbody, ?_⟩
    rintro c' hc'
    obtain rfl := Option.some.inj hc'
    constructor
    all_goals
      rintro rfl
      exact absurd hc (by decide)
  refine ⟨_, by rw [text, hnumber]; rfl, ?_⟩
  cases hfinite : x.isFinite
  · have hmagnitude : x.magnitude = infinityMagnitude := by
      simp only [isNaN, isFinite, decide_eq_false_iff_not] at hnumber hfinite
      omega
    rw [hmagnitude] at hself
    refine ⟨?_, by simp⟩
    rw [← infinity] at hself
    exact congrArg some hself
  · cases hzero : x.isZero
    · exact hdecimal (readDecimal?_shortest layout (by simpa [isZero] using hzero)
        (of_decide_eq_true hfinite))
    · rw [show x.magnitude = 0 from beq_iff_eq.1 hzero] at hself
      exact hdecimal ((readDecimal?_zero _ _).trans (congrArg some hself))

/-- The text of a number is read as that number. -/
theorem readBinary64?_text (layout : NumberLayout) {x : Binary64} (hnumber : x.isNaN = false) :
    readBinary64? (x.text layout) = some x := by
  obtain ⟨body, htext, hread, hhead⟩ := exists_body layout hnumber
  rw [htext, readBinary64?, String.toList_ofList]
  cases hnegative : x.isNegative <;> rw [hnegative] at hread
  · simp only [Bool.false_eq_true, if_false, List.nil_append]
    split
    · exact absurd rfl (hhead '-' rfl).1
    · exact absurd rfl (hhead '+' rfl).2
    · exact hread
  · exact hread

/-- Numbers with the same text are the same. -/
theorem Binary64.text_injective {layout : NumberLayout} {x y : Binary64} (hx : x.isNaN = false)
    (hy : y.isNaN = false) (h : x.text layout = y.text layout) : x = y := by
  rw [← Option.some_inj, ← readBinary64?_text layout hx, h, readBinary64?_text layout hy]

end TableReport
