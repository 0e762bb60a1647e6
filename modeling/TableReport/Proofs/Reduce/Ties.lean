import TableReport.Condition.Compare
import TableReport.Proofs.Reduce.GroupKeys
import TableReport.Proofs.Reduce.Ranking
/-!
# Ties in a ranking

Conditions do not tell the two zeros apart, and neither do groups and distinct values, but rankings do. So
rows with equal values are shown in the order of their numbers unless both have zeros, and the later one
has the zero that is ranked first.
-/
namespace TableReport

namespace Binary64

variable {x y : Binary64}

theorem natAbs_signedMagnitude (x : Binary64) : x.signedMagnitude.natAbs = x.magnitude := by
  unfold signedMagnitude
  split <;> omega

theorem signedMagnitude_eq_iff : x.signedMagnitude = y.signedMagnitude ↔
    x = y ∨ x.isZero = true ∧ y.isZero = true := by
  simp only [isZero, beq_iff_eq]
  constructor
  · intro h
    have hmagnitude : x.magnitude = y.magnitude := by
      rw [← natAbs_signedMagnitude, h, natAbs_signedMagnitude]
    by_cases hsign : x.isNegative = y.isNegative
    · left
      rw [← ofMagnitude_magnitude x, ← ofMagnitude_magnitude y, hsign, hmagnitude]
    · -- A number and its negation are the same only when they are zero.
      have hzero : x.magnitude = 0 := by
        simp only [signedMagnitude] at h
        cases hx : x.isNegative <;> cases hy : y.isNegative <;> simp [hx, hy] at h hsign <;> omega
      exact .inr ⟨hzero, hmagnitude ▸ hzero⟩
  · rintro (rfl | ⟨hx, hy⟩)
    · rfl
    · simp [signedMagnitude, hx, hy]

theorem plusZero_eq_iff : (if x.isZero then 0 else x) = (if y.isZero then 0 else y) ↔
    x = y ∨ x.isZero = true ∧ y.isZero = true := by
  have hzero : (0 : Binary64).isZero = true := by decide
  by_cases hx : x.isZero = true <;> by_cases hy : y.isZero = true <;> grind

theorem eq_zero_or_of_isZero (h : x.isZero = true) : x = 0 ∨ x = -0 := by
  rw [isZero, beq_iff_eq] at h
  rw [← ofMagnitude_magnitude x, h]
  cases x.isNegative with
  | false => exact .inl rfl
  | true => exact .inr (by decide)

end Binary64

namespace Direction

/-- The zero that is ranked ahead of the other one. -/
def firstZero : Direction → Binary64
  | .ascending => -0
  | .descending => 0

def lastZero : Direction → Binary64
  | .ascending => 0
  | .descending => -0

theorem order?_zeros (direction : Direction) :
    (Cell.float direction.lastZero).order? (.float direction.firstZero) =
      some direction.ahead.swap := by
  cases direction <;> decide

end Direction

namespace Cell

variable {type : ColumnType} {a b : Cell} {direction : Direction}

/-- Cells are equal in conditions when they are the same, negative zero being read as zero. -/
theorem IsOf.between_eq_iff (ha : IsOf type a) (hb : IsOf type b) (hapresent : a.isMissing = false)
    (hbpresent : b.isMissing = false) :
    Comparison.eq.between a b = true ↔ a.plusZero = b.plusZero := by
  by_cases htype : type = .float64
  · subst htype
    cases ha with | float v =>
    cases hb with | float w =>
    have hv : v.isNaN = false := hapresent
    have hw : w.isNaN = false := hbpresent
    simp [Comparison.between, Relation.ofCells, Relation.ofNumbers, Binary64.order?, hv, hw,
      Relation.satisfies, Comparison.holds, plusZero, Binary64.signedMagnitude_eq_iff,
      Binary64.plusZero_eq_iff]
  · have hrelation : Relation.ofCells a b = .ordered (a.order b) := by
      cases ha <;> cases hb <;> first | rfl | exact absurd rfl htype
    have hself : ∀ {c}, IsOf type c → c.plusZero = c := by
      intro c hc
      cases hc <;> first | rfl | exact absurd rfl htype
    rw [Comparison.between, hrelation, hself ha, hself hb, ← ha.order_eq_iff hb]
    exact beq_iff_eq

/-- Of equal cells, only the zeros are ranked one ahead of the other. -/
theorem IsOf.zeros_of_ahead (ha : IsOf type a) (hb : IsOf type b) (heq : a.plusZero = b.plusZero)
    (hahead : a.order? b = some direction.ahead) :
    a = .float direction.firstZero ∧ b = .float direction.lastZero := by
  have hne : a ≠ b := by
    intro h
    rw [(ha.order?_eq_iff hb).2 h] at hahead
    cases direction <;> cases hahead
  cases ha with
  | float v =>
    cases hb with | float w =>
    simp only [plusZero, float.injEq, Binary64.plusZero_eq_iff] at heq
    have hzeros : v.isZero = true ∧ w.isZero = true := heq.resolve_left fun h => hne (h ▸ rfl)
    rcases Binary64.eq_zero_or_of_isZero hzeros.1 with rfl | rfl <;>
      rcases Binary64.eq_zero_or_of_isZero hzeros.2 with rfl | rfl <;>
      cases direction <;> revert hahead <;> decide
  | int | bool | text | dateTime =>
    cases hb
    exact absurd heq hne

end Cell

namespace Table

/-- Rows that are equal in conditions by a column come in the order of their numbers. -/
def KeepsTies (t : Table) (i : Nat) (numbers : List Nat) : Prop :=
  numbers.Pairwise fun a b =>
    Comparison.eq.between ((t.row a).cell i) ((t.row b).cell i) = true → a < b

instance (t : Table) (i : Nat) (numbers : List Nat) : Decidable (t.KeepsTies i numbers) :=
  inferInstanceAs (Decidable (numbers.Pairwise _))

/-- A row has the zero that is ranked first, and one with a smaller number has the other zero. -/
def Overtakes (t : Table) (i : Nat) (direction : Direction) (a b : Nat) : Prop :=
  b < a ∧ (t.row a).cell i = .float direction.firstZero ∧
    (t.row b).cell i = .float direction.lastZero

instance (t : Table) (i : Nat) (direction : Direction) (a b : Nat) :
    Decidable (t.Overtakes i direction a b) :=
  inferInstanceAs (Decidable (_ ∧ _))

variable {t : Table} {i : Nat} {direction : Direction} {numbers : List Nat} {a b : Nat}

theorem WellFormed.between_eq_iff (ht : t.WellFormed)
    (ha : a ∈ t.numbersWhere fun row => !(row.cell i).isMissing)
    (hb : b ∈ t.numbersWhere fun row => !(row.cell i).isMissing) :
    Comparison.eq.between ((t.row a).cell i) ((t.row b).cell i) = true ↔
      ((t.row a).cell i).plusZero = ((t.row b).cell i).plusZero := by
  apply (ht.isOf_of_mem_numbersWhere ha).between_eq_iff (ht.isOf_of_mem_numbersWhere hb)
  · simpa using (mem_numbersWhere.1 ha).2
  · simpa using (mem_numbersWhere.1 hb).2

/-- Of two rows that are equal in conditions, the later one is ranked ahead only when it overtakes. -/
theorem WellFormed.lt_or_overtakes_of_ahead (ht : t.WellFormed)
    (ha : a ∈ t.numbersWhere fun row => !(row.cell i).isMissing)
    (hb : b ∈ t.numbersWhere fun row => !(row.cell i).isMissing) (hahead : t.Ahead i direction a b)
    (hequal : Comparison.eq.between ((t.row a).cell i) ((t.row b).cell i) = true) :
    a < b ∨ t.Overtakes i direction a b := by
  have hofa := ht.isOf_of_mem_numbersWhere ha
  have hofb := ht.isOf_of_mem_numbersWhere hb
  rw [ht.between_eq_iff ha hb] at hequal
  cases hahead with
  | inr htie => exact .inl htie.2
  | inl hfirst =>
    have hzeros := hofa.zeros_of_ahead hofb hequal hfirst
    have hne : a ≠ b := by
      intro hab
      rw [hab, (hofb.order?_eq_iff hofb).2 rfl] at hfirst
      cases direction <;> cases hfirst
    rcases Nat.lt_or_gt_of_ne hne with hlt | hgt
    · exact .inl hlt
    · exact .inr ⟨hgt, hzeros⟩

theorem not_ahead_of_overtakes (h : t.Overtakes i direction a b) : ¬t.Ahead i direction b a := by
  rw [Ahead, h.2.1, h.2.2, direction.order?_zeros]
  cases direction <;> simp [Direction.ahead]

theorem between_of_overtakes (h : t.Overtakes i direction a b) :
    Comparison.eq.between ((t.row a).cell i) ((t.row b).cell i) = true := by
  rw [h.2.1, h.2.2]
  cases direction <;> decide

theorem WellFormed.keepsTies_iff_of_ahead (ht : t.WellFormed)
    (hmem : ∀ a ∈ numbers, a ∈ t.numbersWhere fun row => !(row.cell i).isMissing)
    (hordered : numbers.Pairwise (t.Ahead i direction)) :
    t.KeepsTies i numbers ↔ ∀ a ∈ numbers, ∀ b ∈ numbers, ¬t.Overtakes i direction a b := by
  constructor
  · intro hties
    apply List.Pairwise.forall_of_forall_of_flip
    · exact fun a _ hself => absurd hself.1 (Nat.lt_irrefl a)
    · apply hties.imp
      intro a b htie hovertakes
      exact absurd (htie (between_of_overtakes hovertakes)) (Nat.lt_asymm hovertakes.1)
    · apply hordered.imp
      intro a b hahead hovertakes
      exact not_ahead_of_overtakes hovertakes hahead
  · intro hnone
    apply hordered.imp_of_mem
    intro a b ha hb hahead hequal
    have hcases := ht.lt_or_overtakes_of_ahead (hmem a ha) (hmem b hb) hahead hequal
    exact hcases.resolve_right (hnone a ha b hb)

/-- The first rows of a ranking keep ties exactly when none of them has the zero that is ranked first while
an earlier one has the other zero. So columns of another type than floating point keep all ties. -/
theorem WellFormed.keepsTies_take_ranking (ht : t.WellFormed) (i n : Nat) (direction : Direction) :
    let shown := (t.ranking i direction).take n
    t.rank i n direction = t.rowsAt shown ∧
      (t.KeepsTies i shown ↔ ∀ a ∈ shown, ∀ b ∈ shown, ¬t.Overtakes i direction a b) ∧
      (t.typeAt i ≠ .float64 → t.KeepsTies i shown) := by
  intro shown
  have hranking := ht.isRanking_ranking i direction
  have hmem : ∀ a ∈ shown, a ∈ t.numbersWhere fun row => !(row.cell i).isMissing :=
    fun a ha => hranking.perm.mem_iff.1 (List.mem_of_mem_take ha)
  have hkeeps := ht.keepsTies_iff_of_ahead hmem (hranking.ordered.sublist (List.take_sublist n _))
  refine ⟨t.rank_eq_rowsAt i n direction, hkeeps, ?_⟩
  intro htype
  rw [hkeeps]
  intro a ha b hb hovertakes
  have hof := ht.isOf_of_mem_numbersWhere (hmem a ha)
  rw [hovertakes.2.1] at hof
  generalize t.typeAt i = type at hof htype
  cases hof
  exact htype rfl

/-- In one direction the zeros are ranked in the order of their rows, in the other one they change places. -/
theorem keepsTies_of_negative_zero_first :
    let t : Table := ⟨⟨[⟨"n", .int64⟩, ⟨"x", .float64⟩]⟩,
      [[.int 1, .float (.ofNat 2)], [.int 2, .float (-0)], [.int 3, .float .nan],
        [.int 4, .float (.ofNat 2)], [.int 5, .float 0]]⟩
    t.WellFormed ∧ t.rank 1 4 .ascending = t.rowsAt [1, 4, 0, 3] ∧ t.KeepsTies 1 [1, 4, 0, 3] ∧
      t.rank 1 4 .descending = t.rowsAt [0, 3, 4, 1] ∧ ¬t.KeepsTies 1 [0, 3, 4, 1] := by
  intro t
  have ht : t.WellFormed := by decide
  have hascending : (t.ranking 1 .ascending).take 4 = [1, 4, 0, 3] := by decide +kernel
  have hdescending : (t.ranking 1 .descending).take 4 = [0, 3, 4, 1] := by decide +kernel
  obtain ⟨hup, hkeeps, -⟩ := ht.keepsTies_take_ranking 1 4 .ascending
  obtain ⟨hdown, hloses, -⟩ := ht.keepsTies_take_ranking 1 4 .descending
  rw [hascending] at hup hkeeps
  rw [hdescending] at hdown hloses
  refine ⟨ht, hup, hkeeps.2 (by decide +kernel), hdown, ?_⟩
  rw [hloses]
  decide +kernel

/-- Zero is ranked after negative zero although its row comes first and the two are equal in conditions. -/
theorem not_keepsTies_of_zeros :
    let t : Table := ⟨⟨[⟨"n", .int64⟩, ⟨"x", .float64⟩]⟩,
      [[.int 1, .float 0], [.int 2, .float (-0)]]⟩
    t.WellFormed ∧ (t.ranking 1 .ascending).take 2 = [1, 0] ∧
      t.rank 1 2 .ascending = [[.int 2, .float (-0)], [.int 1, .float 0]] ∧
      Comparison.eq.between (.float (-0)) (.float 0) = true ∧ ¬t.KeepsTies 1 [1, 0] := by
  decide +kernel

end Table

end TableReport
