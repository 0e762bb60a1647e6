import TableReport.Number.Integer
import TableReport.Proofs.Outcome
/-!
# Reading integers

A text is read as the 64-bit integer that its digits and its sign denote, and as no other; a text that
denotes none of that range is rejected. The decimal text of a 64-bit integer is read as that integer, the
lowest one included.
-/
namespace TableReport

/-- A number with a sign. -/
def signed (negative : Bool) (n : Nat) : Int := if negative then -n else n

private theorem le_ofDigitChars (cs : List Char) (n : Nat) : n ≤ Nat.ofDigitChars 10 cs n := by
  induction cs generalizing n with
  | nil => simp
  | cons c cs ih =>
    rw [Nat.ofDigitChars_cons]
    exact Nat.le_trans (by omega) (ih _)

private theorem signed_step (negative : Bool) (n d : Nat) :
    (if negative then signed negative n * 10 - d else signed negative n * 10 + d) =
      signed negative (10 * n + d) := by
  cases negative <;> simp only [signed, Bool.false_eq_true, if_false, if_true] <;> omega

/-- Digits are read to their number when that is in the range, for the numbers of fewer digits are
nearer to zero. -/
theorem continueInteger_eq_ok {negative : Bool} {low high : Int} {cs : List Char} {n : Nat}
    (hcs : ∀ c ∈ cs, c.isDigit = true) (hlow : low ≤ 0) (hhigh : 0 ≤ high)
    (hmin : low ≤ signed negative (Nat.ofDigitChars 10 cs n))
    (hmax : signed negative (Nat.ofDigitChars 10 cs n) ≤ high) :
    continueInteger negative low high (signed negative n) cs =
      .ok (signed negative (Nat.ofDigitChars 10 cs n)) := by
  induction cs generalizing n with
  | nil => rfl
  | cons c cs ih =>
    have hc : c.isDigit = true := hcs c (by simp)
    have hle := le_ofDigitChars cs (10 * n + digitValue c)
    rw [Nat.ofDigitChars_cons] at hmin hmax ⊢
    change low ≤ signed negative (Nat.ofDigitChars 10 cs (10 * n + digitValue c)) at hmin
    change signed negative (Nat.ofDigitChars 10 cs (10 * n + digitValue c)) ≤ high at hmax
    have hnext := signed_step negative n (digitValue c)
    simp only [continueInteger, hc, Bool.not_true, Bool.false_eq_true, if_false, hnext]
    rw [if_neg, if_neg]
    · exact ih (fun d hd => hcs d (by simp [hd])) hmin hmax
    · revert hmin hmax
      cases negative <;> simp only [signed, Bool.false_eq_true, if_false, if_true] <;> omega
    · revert hmin hmax
      cases negative <;> simp only [signed, Bool.false_eq_true, if_false, if_true] <;> omega

/-- Only digits are read, and the number they give is that of their signed value. -/
theorem eq_of_continueInteger {negative : Bool} {low high v : Int} {cs : List Char} {n : Nat}
    (hlow : low ≤ signed negative n) (hhigh : signed negative n ≤ high)
    (h : continueInteger negative low high (signed negative n) cs = .ok v) :
    (∀ c ∈ cs, c.isDigit = true) ∧ v = signed negative (Nat.ofDigitChars 10 cs n) ∧
      low ≤ v ∧ v ≤ high := by
  induction cs generalizing n with
  | nil =>
    obtain rfl := Except.ok.inj h
    exact ⟨List.forall_mem_nil _, rfl, hlow, hhigh⟩
  | cons c cs ih =>
    by_cases hc : c.isDigit = true
    case neg => simp [continueInteger, hc] at h
    have hnext := signed_step negative n (digitValue c)
    simp only [continueInteger, hc, Bool.not_true, Bool.false_eq_true, if_false, hnext] at h
    split at h
    case isTrue => cases h
    case isFalse hmax =>
      split at h
      case isTrue => cases h
      case isFalse hmin =>
        obtain ⟨hcs, hv⟩ := ih (Int.not_lt.1 hmin) (Int.not_lt.1 hmax) h
        rw [Nat.ofDigitChars_cons]
        exact ⟨List.forall_mem_cons.2 ⟨hc, hcs⟩, hv⟩

theorem integerDigits_eq_ok_iff {negative : Bool} {low high v : Int} {cs : List Char} (hlow : low ≤ 0)
    (hhigh : 0 ≤ high) : integerDigits negative low high cs = .ok v ↔
      cs ≠ [] ∧ (∀ c ∈ cs, c.isDigit = true) ∧ v = signed negative (Nat.ofDigitChars 10 cs 0) ∧
        low ≤ v ∧ v ≤ high := by
  have hzero : signed negative 0 = 0 := by cases negative <;> rfl
  cases cs with
  | nil => simp [integerDigits]
  | cons c cs =>
    rw [integerDigits, ← hzero]
    · constructor
      · intro h
        refine ⟨List.cons_ne_nil c cs, eq_of_continueInteger ?_ ?_ h⟩
        · rwa [hzero]
        · rwa [hzero]
      · rintro ⟨-, hcs, rfl, hmin, hmax⟩
        exact continueInteger_eq_ok hcs hlow hhigh hmin hmax
    · exact List.cons_ne_nil c cs

theorem integerDigits_toDigits (negative : Bool) {low high : Int} {n : Nat} (hlow : low ≤ 0)
    (hhigh : 0 ≤ high) (hmin : low ≤ signed negative n) (hmax : signed negative n ≤ high) :
    integerDigits negative low high (Nat.toDigits 10 n) = .ok (signed negative n) := by
  have hdigits : ∀ c ∈ Nat.toDigits 10 n, c.isDigit = true :=
    fun c hc => Nat.isDigit_of_mem_toDigits (by decide) (by decide) hc
  have hzero : signed negative 0 = 0 := by cases negative <;> rfl
  rw [← Nat.ofDigitChars_ten_toDigits (n := n)] at hmin hmax
  have hread := continueInteger_eq_ok hdigits hlow hhigh hmin hmax
  rw [hzero, Nat.ofDigitChars_ten_toDigits] at hread
  rw [integerDigits]
  · exact hread
  · exact Nat.toDigits_ne_nil

/-- The characters of the decimal text of an integer. -/
theorem toList_toString_int (i : Int) :
    (toString i).toList =
      if 0 ≤ i then Nat.toDigits 10 i.toNat else '-' :: Nat.toDigits 10 (-i).toNat := by
  rw [Int.toString_eq_repr, Int.repr_eq_if]
  split <;> simp [Nat.toList_repr]

theorem readInt64_digits {s : String} {d : Char} {ds : List Char} (hs : s.toList = d :: ds)
    (hd : d.isDigit = true) :
    readInt64 s = (integerDigits false lowestInt64 highestInt64 (d :: ds)).map Int64.ofInt := by
  have hminus : d ≠ '-' := by
    rintro rfl
    cases hd
  have hplus : d ≠ '+' := by
    rintro rfl
    cases hd
  simp only [readInt64, hs]
  split
  · rename_i h
    cases h
  · rename_i h
    exact absurd (List.cons.inj h).1 hminus
  · rename_i h
    exact absurd (List.cons.inj h).1 hplus
  · rfl

theorem fitsInt64_toInt (v : Int64) : fitsInt64 v.toInt = true :=
  Bool.and_eq_true_iff.2
    ⟨decide_eq_true (Int64.le_toInt v), decide_eq_true (Int.le_of_lt_add_one (Int64.toInt_lt v))⟩

theorem toInt_ofInt_of_fits {i : Int} (h : fitsInt64 i = true) : (Int64.ofInt i).toInt = i := by
  obtain ⟨hmin, hmax⟩ := Bool.and_eq_true_iff.1 h
  exact Int64.toInt_ofInt_of_le (of_decide_eq_true hmin) (Int.lt_add_one_of_le (of_decide_eq_true hmax))

/-- The characters denote an integer: decimal digits, with a sign in front of them or without one. -/
inductive DenotesInteger : List Char → Int → Prop
  | unsigned {ds : List Char} (hne : ds ≠ []) (hds : ∀ d ∈ ds, d.isDigit = true) :
    DenotesInteger ds (Nat.ofDigitChars 10 ds 0)
  | plus {ds : List Char} (hne : ds ≠ []) (hds : ∀ d ∈ ds, d.isDigit = true) :
    DenotesInteger ('+' :: ds) (Nat.ofDigitChars 10 ds 0)
  | minus {ds : List Char} (hne : ds ≠ []) (hds : ∀ d ∈ ds, d.isDigit = true) :
    DenotesInteger ('-' :: ds) (-(Nat.ofDigitChars 10 ds 0 : Int))

theorem DenotesInteger.unique {cs : List Char} {i j : Int} (hi : DenotesInteger cs i)
    (hj : DenotesInteger cs j) : i = j := by
  cases hi with
  | unsigned hne hds =>
    cases hj with
    | unsigned => rfl
    | plus | minus => exact absurd (hds _ List.mem_cons_self) (by decide)
  | plus hne hds =>
    cases hj with
    | unsigned hne' hds' => exact absurd (hds' _ List.mem_cons_self) (by decide)
    | plus => rfl
  | minus hne hds =>
    cases hj with
    | unsigned hne' hds' => exact absurd (hds' _ List.mem_cons_self) (by decide)
    | minus => rfl

theorem integerDigits_map_eq_ok_iff {negative : Bool} {cs : List Char} {v : Int64} :
    (integerDigits negative lowestInt64 highestInt64 cs).map Int64.ofInt = .ok v ↔
      cs ≠ [] ∧ (∀ c ∈ cs, c.isDigit = true) ∧
        v.toInt = signed negative (Nat.ofDigitChars 10 cs 0) := by
  constructor
  · intro h
    obtain ⟨i, hread, rfl⟩ := map_eq_ok h
    obtain ⟨hne, hcs, hi, hmin, hmax⟩ := (integerDigits_eq_ok_iff (by decide) (by decide)).1 hread
    refine ⟨hne, hcs, ?_⟩
    rw [Int64.toInt_ofInt_of_le hmin (Int.lt_add_one_of_le hmax), hi]
  · rintro ⟨hne, hcs, hv⟩
    have hread : integerDigits negative lowestInt64 highestInt64 cs = .ok v.toInt :=
      (integerDigits_eq_ok_iff (by decide) (by decide)).2
        ⟨hne, hcs, hv, Int64.le_toInt v, Int.le_of_lt_add_one (Int64.toInt_lt v)⟩
    rw [hread]
    exact congrArg Except.ok (Int64.ofInt_toInt v)

/-- A text is read as the 64-bit integer that it denotes, and as no other. -/
theorem readInt64_eq_ok_iff {s : String} {v : Int64} :
    readInt64 s = .ok v ↔ DenotesInteger s.toList v.toInt := by
  constructor
  · intro h
    unfold readInt64 at h
    split at h
    case h_1 => cases h
    case h_2 cs heq =>
      obtain ⟨hne, hcs, hv⟩ := integerDigits_map_eq_ok_iff.1 h
      rw [heq, hv]
      exact .minus hne hcs
    case h_3 cs heq =>
      obtain ⟨hne, hcs, hv⟩ := integerDigits_map_eq_ok_iff.1 h
      rw [heq, hv]
      exact .plus hne hcs
    case h_4 cs hminus hplus =>
      obtain ⟨hne, hcs, hv⟩ := integerDigits_map_eq_ok_iff.1 h
      rw [hv]
      exact .unsigned hne hcs
  · intro h
    generalize hs : s.toList = cs at h
    generalize hi : v.toInt = i at h
    cases h with
    | @unsigned ds hne hds =>
      obtain ⟨d, ds, rfl⟩ := List.exists_cons_of_ne_nil hne
      rw [readInt64_digits hs (hds d List.mem_cons_self)]
      exact integerDigits_map_eq_ok_iff.2 ⟨hne, hds, hi⟩
    | plus hne hds | minus hne hds =>
      simp only [readInt64, hs]
      exact integerDigits_map_eq_ok_iff.2 ⟨hne, hds, hi⟩

/-- The decimal text of a 64-bit integer is read as that integer. -/
theorem readInt64_toString (v : Int64) : readInt64 (toString v.toInt) = .ok v := by
  have hmin : lowestInt64 ≤ v.toInt := Int64.le_toInt v
  have hmax : v.toInt ≤ highestInt64 := Int.le_of_lt_add_one (Int64.toInt_lt v)
  have htext := toList_toString_int v.toInt
  by_cases hv : 0 ≤ v.toInt
  · have hsigned : signed false v.toInt.toNat = v.toInt := by
      simp only [signed, Bool.false_eq_true, if_false]
      omega
    have hread := integerDigits_toDigits false (n := v.toInt.toNat) (by decide) (by decide)
      (hsigned ▸ hmin) (hsigned ▸ hmax)
    rw [if_pos hv] at htext
    cases hds : Nat.toDigits 10 v.toInt.toNat with
    | nil => exact absurd hds Nat.toDigits_ne_nil
    | cons d ds =>
      have hd : d.isDigit = true :=
        Nat.isDigit_of_mem_toDigits (by decide) (by decide) (hds ▸ List.mem_cons_self)
      rw [hds] at htext hread
      rw [readInt64_digits htext hd, hread, hsigned]
      simp [Except.map]
  · have hsigned : signed true (-v.toInt).toNat = v.toInt := by
      simp only [signed, if_true]
      omega
    have hread := integerDigits_toDigits true (n := (-v.toInt).toNat) (by decide) (by decide)
      (hsigned ▸ hmin) (hsigned ▸ hmax)
    rw [if_neg hv] at htext
    simp only [readInt64, htext, hread, hsigned]
    simp [Except.map]

end TableReport
