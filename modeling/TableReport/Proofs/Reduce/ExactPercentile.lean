import Mathlib.Data.Rat.Floor
import Mathlib.Tactic.Linarith
import TableReport.Proofs.Number.Exact
import TableReport.Proofs.Reduce.RankedExtremes
/-!
# Percentiles of exact numbers

Calculated without rounding, a percentile lies between the two elements next to its position, and a later
position never has a smaller one: within one segment the interpolation rises, and at the end of a segment it
meets the element that the next one begins with. So the quartiles of a column are in order.
-/
namespace TableReport

instance : Rounding ℚ := ⟨Nat.floor, Nat.ceil⟩

/-! ### Interpolation -/

section Interpolation

variable {a b s t : ℚ}

theorem interpolate_eq (a b s : ℚ) : interpolate a b s = a + (b - a) * s := by
  unfold interpolate
  push_cast
  ring

theorem interpolate_self (a s : ℚ) : interpolate a a s = a := by
  rw [interpolate_eq, sub_self, zero_mul, add_zero]

theorem interpolate_mono (hab : a ≤ b) (hst : s ≤ t) : interpolate a b s ≤ interpolate a b t := by
  rw [interpolate_eq, interpolate_eq]
  have := mul_le_mul_of_nonneg_left hst (sub_nonneg.2 hab)
  linarith

theorem le_interpolate (hab : a ≤ b) (hs : 0 ≤ s) : a ≤ interpolate a b s := by
  have h := interpolate_mono hab hs
  rwa [interpolate_eq a b 0, mul_zero, add_zero] at h

theorem interpolate_le (hab : a ≤ b) (hs : s ≤ 1) : interpolate a b s ≤ b := by
  have h := interpolate_mono hab hs
  rwa [interpolate_eq a b 1, mul_one, add_sub_cancel] at h

end Interpolation

/-! ### Positions in an ascending list -/

/-- Where a share of a list is, counted in elements from the first one. -/
def sharePosition (sorted : List ℚ) (q : ℚ) : ℚ := q * ((sorted.length - 1 : Nat) : ℚ)

section Positions

variable {sorted : List ℚ} {q r : ℚ}

theorem sharePosition_mono (sorted : List ℚ) (h : q ≤ r) :
    sharePosition sorted q ≤ sharePosition sorted r :=
  mul_le_mul_of_nonneg_right h (Nat.cast_nonneg _)

theorem sharePosition_nonneg (h : 0 ≤ q) : 0 ≤ sharePosition sorted q :=
  mul_nonneg h (Nat.cast_nonneg _)

theorem ceil_sharePosition_lt (hne : sorted ≠ []) (h : q ≤ 1) :
    ⌈sharePosition sorted q⌉₊ < sorted.length := by
  have hlast : sharePosition sorted q ≤ ((sorted.length - 1 : Nat) : ℚ) := by
    have hle := sharePosition_mono sorted h
    rwa [sharePosition, sharePosition, one_mul] at hle
  have hpos := List.length_pos_of_ne_nil hne
  exact Nat.lt_of_le_pred hpos (Nat.ceil_le.2 hlast)

theorem le_of_getElem? {i j : Nat} {a b : ℚ} (hsorted : sorted.Pairwise (· ≤ ·)) (hij : i ≤ j)
    (ha : sorted[i]? = some a) (hb : sorted[j]? = some b) : a ≤ b := by
  obtain ⟨hi, rfl⟩ := List.getElem?_eq_some_iff.1 ha
  obtain ⟨hj, rfl⟩ := List.getElem?_eq_some_iff.1 hb
  rcases Nat.eq_or_lt_of_le hij with rfl | hlt
  · exact le_rfl
  · exact List.pairwise_iff_getElem.1 hsorted i j hi hj hlt

/-- A value interpolated at a share of a list, between the elements next to its position. -/
structure Interpolated (sorted : List ℚ) (q a b v : ℚ) : Prop where
  below : sorted[⌊sharePosition sorted q⌋₊]? = some a
  above : sorted[⌈sharePosition sorted q⌉₊]? = some b
  value : v = interpolate a b (sharePosition sorted q - ⌊sharePosition sorted q⌋₊)

theorem exists_interpolated (hne : sorted ≠ []) (h : q ≤ 1) : ∃ a b v, Interpolated sorted q a b v := by
  have hceil := ceil_sharePosition_lt hne h
  have hfloor := (Nat.floor_le_ceil (sharePosition sorted q)).trans_lt hceil
  exact ⟨_, _, _, List.getElem?_eq_getElem hfloor, List.getElem?_eq_getElem hceil, rfl⟩

namespace Interpolated

variable {a b v c d w : ℚ}

theorem percentile_eq (h : Interpolated sorted q a b v) : percentile sorted q = some v := by
  obtain ⟨hbelow, habove, rfl⟩ := h
  match sorted with
  | [] => cases hbelow
  | [x] =>
    have hzero : sharePosition [x] q = 0 := mul_zero q
    rw [hzero, Nat.floor_zero] at hbelow
    rw [hzero, Nat.ceil_zero] at habove
    obtain rfl : x = a := Option.some.inj hbelow
    obtain rfl : x = b := Option.some.inj habove
    rw [interpolate_self]
    rfl
  | x :: y :: rest =>
    generalize hp : sharePosition (x :: y :: rest) q = p at *
    have hunfold : percentile (x :: y :: rest) q =
        if ⌊p⌋₊ = ⌈p⌉₊ then (x :: y :: rest)[⌊p⌋₊]?
        else (x :: y :: rest)[⌊p⌋₊]?.bind fun a => (x :: y :: rest)[⌈p⌉₊]?.bind fun b =>
          some (interpolate a b (p - ⌊p⌋₊)) := hp ▸ rfl
    rw [hunfold]
    split
    case isTrue heq =>
      rw [← heq, hbelow] at habove
      obtain rfl := Option.some.inj habove
      rw [hbelow, interpolate_self]
    case isFalse =>
      rw [hbelow, habove]
      rfl

theorem neighbours_le (h : Interpolated sorted q a b v) (hsorted : sorted.Pairwise (· ≤ ·)) : a ≤ b :=
  le_of_getElem? hsorted (Nat.floor_le_ceil _) h.below h.above

theorem le_value (h : Interpolated sorted q a b v) (hsorted : sorted.Pairwise (· ≤ ·)) (hq : 0 ≤ q) :
    a ≤ v :=
  h.value ▸ le_interpolate (h.neighbours_le hsorted)
    (sub_nonneg.2 (Nat.floor_le (sharePosition_nonneg hq)))

theorem value_le (h : Interpolated sorted q a b v) (hsorted : sorted.Pairwise (· ≤ ·)) : v ≤ b :=
  h.value ▸ interpolate_le (h.neighbours_le hsorted)
    (sub_le_iff_le_add'.2 (Nat.lt_floor_add_one _).le)

/-- An earlier share has no greater value. -/
theorem mono (h : Interpolated sorted q a b v) (h' : Interpolated sorted r c d w)
    (hsorted : sorted.Pairwise (· ≤ ·)) (hq : 0 ≤ q) (hqr : q ≤ r) : v ≤ w := by
  have hposition := sharePosition_mono sorted hqr
  have hfloor := Nat.floor_mono hposition
  have hceil := Nat.ceil_le_floor_add_one (sharePosition sorted q)
  rcases Nat.eq_or_lt_of_le hfloor with heq | hlt
  · -- Both are on the segment that begins at the same element.
    obtain rfl : a = c := Option.some.inj (h.below.symm.trans (heq ▸ h'.below))
    rcases Nat.eq_or_lt_of_le (Nat.ceil_mono hposition) with heq' | hlt
    · obtain rfl : b = d := Option.some.inj (h.above.symm.trans (heq' ▸ h'.above))
      rw [h.value, h'.value, heq]
      exact interpolate_mono (h.neighbours_le hsorted) (sub_le_sub_right hposition _)
    · have hceil' := Nat.ceil_le_floor_add_one (sharePosition sorted r)
      have hva := (h.value_le hsorted).trans (le_of_getElem? hsorted (by omega) h.above h'.below)
      exact hva.trans (h'.le_value hsorted (hq.trans hqr))
  · -- The segment of the earlier one ends before the other one begins.
    calc v ≤ b := h.value_le hsorted
      _ ≤ c := le_of_getElem? hsorted (by omega) h.above h'.below
      _ ≤ w := h'.le_value hsorted (hq.trans hqr)

end Interpolated

end Positions

/-- What holds of the percentiles of an ascending list at the shares from zero to one. -/
structure OrderedPercentiles (sorted : List ℚ) : Prop where
  indices : ∀ q, 0 ≤ q → q ≤ 1 → Rounding.floor (sharePosition sorted q) < sorted.length ∧
    Rounding.ceil (sharePosition sorted q) < sorted.length
  between : ∀ q, 0 ≤ q → q ≤ 1 → ∃ a b v,
    sorted[Rounding.floor (sharePosition sorted q)]? = some a ∧
    sorted[Rounding.ceil (sharePosition sorted q)]? = some b ∧
    percentile sorted q = some v ∧ a ≤ v ∧ v ≤ b
  within : ∀ q, 0 ≤ q → q ≤ 1 → ∃ first last v, sorted.head? = some first ∧
    sorted.getLast? = some last ∧ percentile sorted q = some v ∧ first ≤ v ∧ v ≤ last
  whole : ∀ q, 0 ≤ q → q ≤ 1 → ∀ i : Nat, sharePosition sorted q = i →
    i < sorted.length ∧ percentile sorted q = sorted[i]?
  mono : ∀ q r v w, 0 ≤ q → q ≤ r → r ≤ 1 → percentile sorted q = some v →
    percentile sorted r = some w → v ≤ w

theorem orderedPercentiles {sorted : List ℚ} (hne : sorted ≠ []) (hsorted : sorted.Pairwise (· ≤ ·)) :
    OrderedPercentiles sorted where
  indices q _ hq' :=
    ⟨(Nat.floor_le_ceil _).trans_lt (ceil_sharePosition_lt hne hq'), ceil_sharePosition_lt hne hq'⟩
  between q hq hq' := by
    obtain ⟨a, b, v, h⟩ := exists_interpolated hne hq'
    exact ⟨a, b, v, h.below, h.above, h.percentile_eq, h.le_value hsorted hq, h.value_le hsorted⟩
  within q hq hq' := by
    obtain ⟨a, b, v, h⟩ := exists_interpolated hne hq'
    have hfirst := List.head?_eq_some_head hne
    have hlast := List.getLast?_eq_some_getLast hne
    refine ⟨_, _, v, hfirst, hlast, h.percentile_eq, ?_, ?_⟩
    · rw [List.head?_eq_getElem?] at hfirst
      exact (le_of_getElem? hsorted (Nat.zero_le _) hfirst h.below).trans (h.le_value hsorted hq)
    · rw [List.getLast?_eq_getElem?] at hlast
      have hceil := ceil_sharePosition_lt hne hq'
      exact (h.value_le hsorted).trans (le_of_getElem? hsorted (by omega) h.above hlast)
  whole q _ hq' i hi := by
    obtain ⟨a, b, v, h⟩ := exists_interpolated hne hq'
    have hceil := ceil_sharePosition_lt hne hq'
    have hvalue := h.value
    have hbelow := h.below
    rw [hi, Nat.ceil_natCast] at hceil
    rw [hi, Nat.floor_natCast, sub_self, interpolate_eq, mul_zero, add_zero] at hvalue
    rw [hi, Nat.floor_natCast] at hbelow
    exact ⟨hceil, by rw [h.percentile_eq, hbelow, hvalue]⟩
  mono q r v w hq hqr hr hv hw := by
    obtain ⟨a, b, v', h⟩ := exists_interpolated hne (hqr.trans hr)
    obtain ⟨c, d, w', h'⟩ := exists_interpolated hne hr
    obtain rfl := Option.some.inj (h.percentile_eq.symm.trans hv)
    obtain rfl := Option.some.inj (h'.percentile_eq.symm.trans hw)
    exact h.mono h' hsorted hq hqr

/-! ### Quartiles -/

/-- The figures that are read off the sorted values. -/
def Statistics.quartiles (s : Statistics) : Quartiles Binary64 :=
  ⟨s.min, s.lowerQuartile, s.median, s.upperQuartile, s.max⟩

namespace Quartiles

/-- None is missing, and each is at most the next one. -/
def Ordered (s : Quartiles ℚ) : Prop :=
  ∃ a b c d e, s = ⟨some a, some b, some c, some d, some e⟩ ∧ a ≤ b ∧ b ≤ c ∧ c ≤ d ∧ d ≤ e

theorem ordered_ofSorted {sorted : List ℚ} (hne : sorted ≠ []) (hsorted : sorted.Pairwise (· ≤ ·)) :
    (ofSorted sorted).Ordered := by
  have hordered := orderedPercentiles hne hsorted
  obtain ⟨first, last, b, hfirst, hlast, hb, hfirst_le, -⟩ :=
    hordered.within ((25 : Nat) / (100 : Nat)) (by norm_num) (by norm_num)
  obtain ⟨-, -, c, -, -, hc, -, -⟩ :=
    hordered.within ((50 : Nat) / (100 : Nat)) (by norm_num) (by norm_num)
  obtain ⟨-, last', d, -, hlast', hd, -, hle_last⟩ :=
    hordered.within ((75 : Nat) / (100 : Nat)) (by norm_num) (by norm_num)
  refine ⟨first, b, c, d, last', ?_, hfirst_le, ?_, ?_, hle_last⟩
  · rw [ofSorted, hfirst, hlast', hb, hc, hd]
  · exact hordered.mono _ _ b c (by norm_num) (by norm_num) (by norm_num) hb hc
  · exact hordered.mono _ _ c d (by norm_num) (by norm_num) (by norm_num) hc hd

end Quartiles

theorem pairwise_sortBy_compare (xs : List ℚ) : (sortBy compare xs).Pairwise (· ≤ ·) :=
  (sortBy_ascending xs).imp fun h => compare_le_iff_le.1 (Ordering.isLE_iff_ne_gt.1 h)

theorem sortBy_ne_nil {α : Type} {order : α → α → Ordering} {xs : List α} (h : xs ≠ []) :
    sortBy order xs ≠ [] :=
  mt (fun hnil => (hnil ▸ sortBy_perm order xs).nil_eq.symm) h

/-- The values of sorted numbers are the sorted values of the numbers. -/
theorem map_exact_sortNumbers (xs : List Binary64) :
    (sortNumbers xs).map Binary64.exact = sortBy compare (xs.map Binary64.exact) := by
  have hperm : ((sortNumbers xs).map Binary64.exact).Perm (sortBy compare (xs.map Binary64.exact)) :=
    ((sortNumbers_perm xs).map Binary64.exact).trans (sortBy_perm compare _).symm
  have hsorted : ((sortNumbers xs).map Binary64.exact).Pairwise (· ≤ ·) :=
    List.pairwise_map.2 ((sortBy_ascending xs).imp fun h =>
      Binary64.exact_le_of_rank_le (Binary64.isLE_totalOrder_iff.1 h))
  exact hperm.eq_of_pairwise (fun _ _ _ _ => le_antisymm) hsorted (pairwise_sortBy_compare _)

theorem Quartiles.ordered_ofSorted_sortBy {xs : List ℚ} (h : xs ≠ []) :
    (Quartiles.ofSorted (sortBy compare xs)).Ordered :=
  Quartiles.ordered_ofSorted (sortBy_ne_nil h) (pairwise_sortBy_compare xs)

/-- Without rounding, the percentiles of ascending numbers lie between the elements next to their positions
and rise with the share, so the quartiles of any numbers are in order. They are found like those of a column,
and the ends of a column are theirs. -/
theorem exact_percentiles_ordered :
    (∀ sorted : List ℚ, sorted ≠ [] → sorted.Pairwise (· ≤ ·) → OrderedPercentiles sorted) ∧
      (∀ xs : List ℚ, xs ≠ [] → (Quartiles.ofSorted (sortBy compare xs)).Ordered) ∧
      ∀ (t : Table) (i : Nat) (s : Statistics), t.describe i = .ok s → s.count ≠ 0 →
        s.quartiles = .ofSorted (sortNumbers (t.numbers i)) ∧
        ∃ exact : Quartiles ℚ, exact = .ofSorted (sortBy compare ((t.numbers i).map Binary64.exact)) ∧
          exact.Ordered ∧ s.min.map Binary64.exact = exact.min ∧ s.max.map Binary64.exact = exact.max := by
  refine ⟨fun sorted => orderedPercentiles, fun xs => Quartiles.ordered_ofSorted_sortBy, ?_⟩
  intro t i s hs hcount
  obtain ⟨mean, -, rfl⟩ := map_eq_ok hs
  have hne : (t.numbers i).map Binary64.exact ≠ [] :=
    mt List.map_eq_nil_iff.1 (mt List.length_eq_zero_iff.2 hcount)
  refine ⟨rfl, _, rfl, Quartiles.ordered_ofSorted_sortBy hne, ?_, ?_⟩
  · rw [← map_exact_sortNumbers]
    exact List.head?_map.symm
  · rw [← map_exact_sortNumbers]
    exact List.getLast?_map.symm

/-- The lower quartile lies between two elements, and the median is one. -/
theorem exact_percentiles_of_four :
    let sorted : List ℚ := [1, 2, 4, 8]
    let t : Table := ⟨⟨[⟨"n", .int64⟩]⟩, [[.int 8], [.int 1], [.null], [.int 4], [.int 2]]⟩
    percentile sorted (1 / 4) = some (7 / 4) ∧ OrderedPercentiles sorted ∧
      (∃ first last v, sorted.head? = some first ∧ sorted.getLast? = some last ∧
        percentile sorted (1 / 4) = some v ∧ first ≤ v ∧ v ≤ last) ∧
      (Quartiles.ofSorted (sortBy compare [4, 1, (2 : ℚ)])).Ordered ∧
      ∃ s, t.describe 0 = .ok s ∧ s.count ≠ 0 ∧ s.quartiles = .ofSorted (sortNumbers (t.numbers 0)) := by
  intro sorted t
  obtain ⟨hpercentiles, hquartiles, hcolumns⟩ := exact_percentiles_ordered
  have hsorted := hpercentiles sorted (by decide) (by decide +kernel)
  obtain ⟨s, hs⟩ : ∃ s, t.describe 0 = .ok s := isOk_iff_exists.1 (by decide +kernel)
  have hcount : s.count ≠ 0 := by
    obtain ⟨mean, -, rfl⟩ := map_eq_ok hs
    exact (by decide +kernel : (t.numbers 0).length ≠ 0)
  exact ⟨by decide +kernel, hsorted, hsorted.within _ (by norm_num) (by norm_num),
    hquartiles _ (by decide), s, hs, hcount, (hcolumns t 0 s hs hcount).1⟩

/-- Rounding can lose the order: half of the least positive number is zero, and so is the median of two of
them, though not their lower quartile. -/
example :
    let quartiles : Quartiles Binary64 := .ofSorted [⟨1⟩, ⟨1⟩]
    quartiles.lower = some ⟨1⟩ ∧ quartiles.median = some 0 := by decide +kernel

end TableReport
