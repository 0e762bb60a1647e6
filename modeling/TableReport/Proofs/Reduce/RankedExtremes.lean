import TableReport.Proofs.Number.Rounding
import TableReport.Proofs.Reduce.Extreme
import TableReport.Proofs.Reduce.Ranking
import TableReport.Proofs.Reduce.Total
/-!
# Extremes, rankings and statistics

The least and the greatest cell of a column are found in three ways: by one pass over the cells, as the cell
of the first row of a ranking, and at the ends of the sorted numbers. Rounding integers to numbers keeps their
order, so all three find the same values.
-/
namespace TableReport

namespace Binary64

variable {x y : Binary64}

theorem isLE_totalOrder_iff : (x.totalOrder y).isLE = true ↔ x.rank ≤ y.rank := Std.isLE_compare

theorem rank_ofMagnitude {negative : Bool} {m : Nat} (h : m < 9223372036854775808) :
    (ofMagnitude negative m).rank = if negative then -(m : Int) - 1 else m := by
  rw [rank, isNegative_ofMagnitude h, magnitude_ofMagnitude h]

theorem nearestMagnitude_lt (n d : Nat) : nearestMagnitude n d < 9223372036854775808 := by
  have hle := nearestMagnitude_le_infinity n d
  rw [infinityMagnitude_eq] at hle
  omega

theorem isNaN_ofInt (a : Int) : (ofInt a).isNaN = false := by
  rw [isNaN, ofInt, magnitude_ofMagnitude (nearestMagnitude_lt _ _), decide_eq_false_iff_not]
  exact Nat.not_lt.2 (nearestMagnitude_le_infinity _ _)

/-- Rounding keeps the order of integers. -/
theorem rank_ofInt_mono {a b : Int} (h : a ≤ b) : (ofInt a).rank ≤ (ofInt b).rank := by
  rw [ofInt, ofInt, rank_ofMagnitude (nearestMagnitude_lt _ _),
    rank_ofMagnitude (nearestMagnitude_lt _ _)]
  simp only [decide_eq_true_eq]
  by_cases hb : b < 0
  · have hmono := nearestMagnitude_mono Nat.one_pos (show b.natAbs ≤ a.natAbs by omega)
    rw [if_pos (by omega), if_pos hb]
    omega
  · rw [if_neg hb]
    split
    · omega
    · have hmono := nearestMagnitude_mono Nat.one_pos (show a.natAbs ≤ b.natAbs by omega)
      omega

end Binary64

/-- What comes first in a sorted list is what precedes all of its members. -/
theorem head?_of_pairwise {α : Type} {r : α → α → Prop} {xs : List α} {x : α} (hsorted : xs.Pairwise r)
    (hantisymm : ∀ y ∈ xs, r x y → r y x → y = x) (hx : x ∈ xs) (hfirst : ∀ y ∈ xs, r x y) :
    xs.head? = some x := by
  cases xs with
  | nil => cases hx
  | cons y ys =>
    rcases List.mem_cons.1 hx with rfl | hmem
    · rfl
    · have hyx := List.rel_of_pairwise_cons hsorted hmem
      have hy := List.mem_cons_self (a := y) (l := ys)
      rw [List.head?_cons, hantisymm y hy (hfirst y hy) hyx]

section SortNumbers

variable {xs : List Binary64} {x : Binary64}

theorem sortNumbers_perm (xs : List Binary64) : (sortNumbers xs).Perm xs := sortBy_perm _ xs

theorem head?_sortNumbers (hx : x ∈ xs) (hleast : ∀ y ∈ xs, x.rank ≤ y.rank) :
    (sortNumbers xs).head? = some x := by
  have hperm := sortNumbers_perm xs
  have hsorted : (sortNumbers xs).Pairwise fun a b => a.rank ≤ b.rank :=
    (sortBy_ascending xs).imp Binary64.isLE_totalOrder_iff.1
  apply head?_of_pairwise hsorted
  · exact fun y _ hxy hyx => Binary64.rank_injective (Int.le_antisymm hyx hxy)
  · exact hperm.mem_iff.2 hx
  · exact fun y hy => hleast y (hperm.mem_iff.1 hy)

theorem getLast?_sortNumbers (hx : x ∈ xs) (hgreatest : ∀ y ∈ xs, y.rank ≤ x.rank) :
    (sortNumbers xs).getLast? = some x := by
  have hperm := sortNumbers_perm xs
  have hsorted : (sortNumbers xs).Pairwise fun a b => a.rank ≤ b.rank :=
    (sortBy_ascending xs).imp Binary64.isLE_totalOrder_iff.1
  rw [← List.head?_reverse]
  apply head?_of_pairwise (List.pairwise_reverse.2 hsorted)
  · exact fun y _ hyx hxy => Binary64.rank_injective (Int.le_antisymm hyx hxy)
  · exact List.mem_reverse.2 (hperm.mem_iff.2 hx)
  · exact fun y hy => hgreatest y (hperm.mem_iff.1 (List.mem_reverse.1 hy))

end SortNumbers

namespace Cell

variable {type : ColumnType} {a b : Cell} {x y : Binary64}

theorem IsOf.rank_le_rank (ha : IsOf type a) (hb : IsOf type b) (hab : (a.order b).isLE = true)
    (hx : a.number? = some x) (hy : b.number? = some y) : x.rank ≤ y.rank := by
  cases ha <;> cases hb <;> cases hx <;> cases hy
  case int.int.refl.refl v w =>
    exact Binary64.rank_ofInt_mono (Std.isLE_compare.1 hab)
  case float.float.refl.refl => exact Binary64.isLE_totalOrder_iff.1 hab

theorem IsOf.exists_number? (ha : IsOf type a) (htype : type = .int64 ∨ type = .float64) :
    ∃ x, a.number? = some x := by
  cases ha with
  | int v => exact ⟨_, rfl⟩
  | float v => exact ⟨_, rfl⟩
  | bool | text | dateTime => simp at htype

end Cell

namespace Direction

variable {type : ColumnType} {direction : Direction} {cells : List Cell} {a b c d : Cell}

theorem eq_of_order_isLE (ha : a.IsOf type) (hb : b.IsOf type)
    (hab : (direction.order a b).isLE = true) (hba : (direction.order b a).isLE = true) : a = b := by
  rw [← ha.order_eq_iff hb]
  have hswap := ha.order_swap hb
  cases direction <;> cases h : b.order a <;> simp_all [order]

/-- An extreme precedes all cells in its direction. -/
theorem order_isLE_of_isExtreme (hof : ∀ c ∈ cells, c.IsOf type)
    (h : IsExtreme direction.ahead cells c) (hd : d ∈ cells) : (direction.order c d).isLE = true := by
  have hnot := h.not_further d hd
  have hswap := (hof c h.mem).order_swap (hof d hd)
  cases direction <;> cases hdc : d.order c <;> simp_all [order, ahead]

end Direction

namespace Table

variable {t : Table} {i : Nat} {c : Cell}

theorem map_cell_rowsWith (t : Table) (i : Nat) :
    (t.rowsWith i).map (Row.cell · i) = t.present i := by
  rw [present, column, List.filter_map]
  rfl

/-- The numbers of a column are those of its present cells. -/
theorem numbers_eq_filterMap (t : Table) (i : Nat) :
    t.numbers i = (t.present i).filterMap Cell.number? := by
  rw [numbers, present, List.filter_filterMap, List.filterMap_filter]
  apply List.filterMap_congr
  intro c _
  cases c with
  | float v => cases h : v.isNaN <;> simp [Cell.number?, Cell.isMissing, Option.filter, h]
  | int v => simp [Cell.number?, Cell.isMissing, Option.filter, Binary64.ofInt64, Binary64.isNaN_ofInt]
  | null | bool | text | dateTime => rfl

theorem WellFormed.exists_rank_one (ht : t.WellFormed) (direction : Direction)
    (h : IsExtreme direction.ahead (t.present i) c) :
    ∃ row ∈ t.rows, t.rank i 1 direction = [row] ∧ row.cell i = c := by
  have hof : ∀ row ∈ t.rowsWith i, (Row.cell row i).IsOf (t.typeAt i) := by
    intro row hrow
    apply ht.isOf_of_mem_present
    rw [← map_cell_rowsWith]
    exact List.mem_map_of_mem hrow
  have hofcells : ∀ d ∈ t.present i, d.IsOf (t.typeAt i) := fun d => ht.isOf_of_mem_present
  have hperm : (sortRows direction i (t.rowsWith i)).Perm (t.rowsWith i) := sortBy_perm _ _
  have hcells : ((sortRows direction i (t.rowsWith i)).map (Row.cell · i)).Perm (t.present i) :=
    map_cell_rowsWith t i ▸ hperm.map _
  have hsorted : ((sortRows direction i (t.rowsWith i)).map (Row.cell · i)).Pairwise
      fun a b => (direction.order a b).isLE = true :=
    List.pairwise_map.2 (Direction.lawfulOn hof direction).sortBy_ascending
  have hhead := head?_of_pairwise (x := c) hsorted ?_ (hcells.mem_iff.2 h.mem) ?_
  · rw [List.head?_map] at hhead
    obtain ⟨row, hrow, hcell⟩ := Option.map_eq_some_iff.1 hhead
    refine ⟨row, ?_, ?_, hcell⟩
    · exact List.mem_of_mem_filter (hperm.mem_iff.1 (List.mem_of_mem_head? hrow))
    · rw [rank, List.take_one, hrow, Option.toList_some]
  · intro d hd hcd hdc
    exact Direction.eq_of_order_isLE (hofcells d (hcells.mem_iff.1 hd)) (hofcells c h.mem) hdc hcd
  · exact fun d hd => Direction.order_isLE_of_isExtreme hofcells h (hcells.mem_iff.1 hd)

theorem WellFormed.head?_sortNumbers (ht : t.WellFormed) (h : IsExtreme .lt (t.present i) c)
    {x : Binary64} (hx : c.number? = some x) : (sortNumbers (t.numbers i)).head? = some x := by
  rw [numbers_eq_filterMap]
  apply TableReport.head?_sortNumbers (List.mem_filterMap.2 ⟨c, h.mem, hx⟩)
  intro y hy
  obtain ⟨d, hd, hy⟩ := List.mem_filterMap.1 hy
  have hle : (Direction.ascending.order c d).isLE = true :=
    Direction.order_isLE_of_isExtreme (fun _ => ht.isOf_of_mem_present) h hd
  exact (ht.isOf_of_mem_present h.mem).rank_le_rank (ht.isOf_of_mem_present hd) hle hx hy

theorem WellFormed.getLast?_sortNumbers (ht : t.WellFormed) (h : IsExtreme .gt (t.present i) c)
    {x : Binary64} (hx : c.number? = some x) : (sortNumbers (t.numbers i)).getLast? = some x := by
  rw [numbers_eq_filterMap]
  apply TableReport.getLast?_sortNumbers (List.mem_filterMap.2 ⟨c, h.mem, hx⟩)
  intro y hy
  obtain ⟨d, hd, hy⟩ := List.mem_filterMap.1 hy
  have hofc := ht.isOf_of_mem_present h.mem
  have hofd := ht.isOf_of_mem_present hd
  have hle : (Direction.descending.order c d).isLE = true :=
    Direction.order_isLE_of_isExtreme (fun _ => ht.isOf_of_mem_present) h hd
  rw [Direction.order, ← hofd.order_swap hofc] at hle
  exact hofd.rank_le_rank hofc hle hy hx

theorem WellFormed.exists_extreme (ht : t.WellFormed) {further : Ordering} (hne : further ≠ .eq)
    (hpresent : t.present i ≠ []) :
    ∃ c, extreme further (t.present i) = some c ∧ IsExtreme further (t.present i) c := by
  obtain ⟨c, hc⟩ : ∃ c, extreme further (t.present i) = some c := by
    cases h : t.present i with
    | nil => exact absurd h hpresent
    | cons d cells => exact ⟨_, rfl⟩
  exact ⟨c, hc, isExtreme_of_extreme hne (fun _ => ht.isOf_of_mem_present) hc⟩

/-- One cell is the least and one the greatest of a column, wherever these are looked for. -/
structure HasExtremes (t : Table) (i : Nat) (least greatest : Cell) : Prop where
  isLeast : IsExtreme .lt (t.present i) least
  isGreatest : IsExtreme .gt (t.present i) greatest
  min : ∀ name, t.schema.indexOf? name = some i → t.reduce name .min = .ok least
  max : ∀ name, t.schema.indexOf? name = some i → t.reduce name .max = .ok greatest
  bottom : ∃ row ∈ t.rows, t.rank i 1 .ascending = [row] ∧ row.cell i = least
  top : ∃ row ∈ t.rows, t.rank i 1 .descending = [row] ∧ row.cell i = greatest
  described : ∃ x y, least.number? = some x ∧ greatest.number? = some y ∧
    ∀ s, t.describe i = .ok s → s.min = some x ∧ s.max = some y

/-- No extreme is found anywhere. -/
structure LacksExtremes (t : Table) (i : Nat) : Prop where
  min : ∀ name, t.schema.indexOf? name = some i → t.reduce name .min = .ok .null
  max : ∀ name, t.schema.indexOf? name = some i → t.reduce name .max = .ok .null
  rank : ∀ n direction, t.rank i n direction = []
  described : ∀ s, t.describe i = .ok s → s.min = none ∧ s.max = none

theorem lacksExtremes_of_present (h : t.present i = []) : t.LacksExtremes i where
  min name hname := by rw [reduce_min hname, h]; rfl
  max name hname := by rw [reduce_max hname, h]; rfl
  rank n direction := by
    have hrows : t.rowsWith i = [] := by
      rw [← map_cell_rowsWith, List.map_eq_nil_iff] at h
      exact h
    rw [Table.rank, hrows]
    exact List.take_nil
  described s hs := by
    obtain ⟨m, -, rfl⟩ := map_eq_ok hs
    rw [numbers_eq_filterMap, h]
    exact ⟨rfl, rfl⟩

/-- The cell that a column is reduced to as its least is that of the first row in ascending order, and
its number is the least that is described; the same holds of the greatest. Without a present cell there is
nothing to find. -/
theorem WellFormed.extremes_agree (ht : t.WellFormed)
    (htype : t.typeAt i = .int64 ∨ t.typeAt i = .float64 ∨ t.typeAt i = .null) :
    ((∃ c ∈ t.column i, c.isMissing = false) → ∃ least greatest, t.HasExtremes i least greatest) ∧
      ((∀ c ∈ t.column i, c.isMissing = true) → t.LacksExtremes i) := by
  constructor
  · rintro ⟨c, hc, hpresent⟩
    have hmem : c ∈ t.present i := List.mem_filter.2 ⟨hc, by simp [hpresent]⟩
    have hnumeric : t.typeAt i = .int64 ∨ t.typeAt i = .float64 := by
      have hof := ht.isOf_of_mem_present hmem
      rcases htype with h | h | h
      · exact .inl h
      · exact .inr h
      · rw [h] at hof
        cases hof
    have hne : t.present i ≠ [] := List.ne_nil_of_mem hmem
    obtain ⟨least, hleast, hmin⟩ := ht.exists_extreme (show Ordering.lt ≠ .eq by decide) hne
    obtain ⟨greatest, hgreatest, hmax⟩ := ht.exists_extreme (show Ordering.gt ≠ .eq by decide) hne
    obtain ⟨x, hx⟩ := (ht.isOf_of_mem_present hmin.mem).exists_number? hnumeric
    obtain ⟨y, hy⟩ := (ht.isOf_of_mem_present hmax.mem).exists_number? hnumeric
    refine ⟨least, greatest, hmin, hmax, ?_, ?_, ht.exists_rank_one .ascending hmin,
      ht.exists_rank_one .descending hmax, x, y, hx, hy, ?_⟩
    · intro name hname
      rw [reduce_min hname, hleast, Option.getD_some]
    · intro name hname
      rw [reduce_max hname, hgreatest, Option.getD_some]
    · intro s hs
      obtain ⟨m, -, rfl⟩ := map_eq_ok hs
      exact ⟨ht.head?_sortNumbers hmin hx, ht.getLast?_sortNumbers hmax hy⟩
  · intro hmissing
    apply lacksExtremes_of_present
    rw [present, List.filter_eq_nil_iff]
    intro c hc
    simp [hmissing c hc]

/-- Integers that are rounded to one number, both zeros, and a column without values. -/
theorem extremes_of_close_integers :
    let t : Table := ⟨⟨[⟨"n", .int64⟩, ⟨"x", .float64⟩, ⟨"e", .null⟩]⟩,
      [[.int 9007199254740993, .float 0, .null], [.null, .float .nan, .null],
        [.int 9007199254740992, .float (-0), .null]]⟩
    t.WellFormed ∧ t.HasExtremes 0 (.int 9007199254740992) (.int 9007199254740993) ∧
      (∃ s, t.describe 0 = .ok s ∧ s.min = s.max) ∧ t.HasExtremes 1 (.float (-0)) (.float 0) ∧
      t.LacksExtremes 2 := by
  intro t
  have ht : t.WellFormed := by decide
  have hn : t.reduce "n" .min = .ok (.int 9007199254740992) ∧
      t.reduce "n" .max = .ok (.int 9007199254740993) := by decide +kernel
  have hx : t.reduce "x" .min = .ok (.float (-0)) ∧ t.reduce "x" .max = .ok (.float 0) := by
    decide +kernel
  obtain ⟨l, g, hints⟩ := (ht.extremes_agree (i := 0) (.inl rfl)).1 (by decide +kernel)
  obtain ⟨l', g', hzeros⟩ := (ht.extremes_agree (i := 1) (.inr (.inl rfl))).1 (by decide +kernel)
  obtain rfl := Except.ok.inj ((hints.min "n" rfl).symm.trans hn.1)
  obtain rfl := Except.ok.inj ((hints.max "n" rfl).symm.trans hn.2)
  obtain rfl := Except.ok.inj ((hzeros.min "x" rfl).symm.trans hx.1)
  obtain rfl := Except.ok.inj ((hzeros.max "x" rfl).symm.trans hx.2)
  refine ⟨ht, hints, ?_, hzeros, (ht.extremes_agree (i := 2) (.inr (.inr rfl))).2 (by decide)⟩
  obtain ⟨s, hs⟩ : ∃ s, t.describe 0 = .ok s := ht.exists_describe_iff.2 fun _ => by decide
  obtain ⟨x, y, hx, hy, hdescribed⟩ := hints.described
  obtain ⟨hmin, hmax⟩ := hdescribed s hs
  refine ⟨s, hs, hmin.trans (Eq.trans ?_ hmax.symm)⟩
  rw [← hx, ← hy]
  decide +kernel

end Table

end TableReport
