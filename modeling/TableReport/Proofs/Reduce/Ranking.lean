import TableReport.Proofs.Table.CellOrder
import TableReport.Proofs.Table.RowNumbers
import TableReport.Reduce.Total
/-!
# Rankings

A ranking has each row with a value in its column once, in the order of these values, and rows that tie
stay in the order in which they were. No other list of rows is like that, and what is shown of a ranking is
its beginning.
-/
namespace TableReport

namespace Direction

/-- How a cell compares with those that come behind it. -/
def ahead : Direction → Ordering
  | .ascending => .lt
  | .descending => .gt

variable {direction : Direction} {a b : Cell}

theorem order_eq_lt_iff : direction.order a b = .lt ↔ a.order b = direction.ahead := by
  cases direction <;> simp [order, ahead, Ordering.swap_eq_iff_eq_swap]

theorem order_eq_eq_iff : direction.order a b = .eq ↔ a.order b = .eq := by
  cases direction <;> simp [order]

theorem lawfulOn {α : Type} {cell : α → Cell} {xs : List α} {type : ColumnType}
    (h : ∀ x ∈ xs, (cell x).IsOf type) (direction : Direction) :
    LawfulOn (fun x y => direction.order (cell x) (cell y)) xs := by
  cases direction with
  | ascending => exact lawfulOn_order h
  | descending => exact (lawfulOn_order h).swap

end Direction

namespace Table

/-- The numbers of the rows with a value in a column, in the order of these values. -/
def ranking (t : Table) (i : Nat) (direction : Direction) : List Nat :=
  sortBy (fun a b => direction.order ((t.row a).cell i) ((t.row b).cell i))
    (t.numbersWhere fun row => !(row.cell i).isMissing)

/-- A row comes ahead of another by its cell or, when the two cells tie, by its number. -/
def Ahead (t : Table) (i : Nat) (direction : Direction) (a b : Nat) : Prop :=
  ((t.row a).cell i).order? ((t.row b).cell i) = some direction.ahead ∨
    ((t.row a).cell i).order? ((t.row b).cell i) = some .eq ∧ a < b

instance (t : Table) (i : Nat) (direction : Direction) (a b : Nat) :
    Decidable (t.Ahead i direction a b) :=
  inferInstanceAs (Decidable (_ ∨ _))

/-- The numbers of the rows with a value in a column, each of them once, and each ahead of those that
follow. -/
structure IsRanking (t : Table) (i : Nat) (direction : Direction) (numbers : List Nat) : Prop where
  perm : numbers.Perm (t.numbersWhere fun row => !(row.cell i).isMissing)
  ordered : numbers.Pairwise (t.Ahead i direction)

variable {t : Table} {i : Nat} {direction : Direction} {numbers : List Nat} {a b : Nat}

theorem mem_numbersWhere {keep : Row → Bool} :
    a ∈ t.numbersWhere keep ↔ a < t.size ∧ keep (t.row a) = true := by
  simp [numbersWhere]

theorem numbersWhere_ascending (t : Table) (keep : Row → Bool) :
    (t.numbersWhere keep).Pairwise (· < ·) :=
  List.pairwise_lt_range.filter _

theorem WellFormed.isOf_of_mem_numbersWhere (ht : t.WellFormed)
    (ha : a ∈ t.numbersWhere fun row => !(row.cell i).isMissing) :
    ((t.row a).cell i).IsOf (t.typeAt i) := by
  simp only [mem_numbersWhere, Bool.not_eq_true'] at ha
  have hrow : t.row a ∈ t.rows := by simp [row, show a < t.rows.length from ha.1]
  exact ht.isOf_of_mem_column (List.mem_map_of_mem hrow) ha.2

theorem ahead_iff {type : ColumnType} (ha : ((t.row a).cell i).IsOf type)
    (hb : ((t.row b).cell i).IsOf type) : t.Ahead i direction a b ↔
      direction.order ((t.row a).cell i) ((t.row b).cell i) = .lt ∨
        direction.order ((t.row a).cell i) ((t.row b).cell i) = .eq ∧ a < b := by
  rw [Ahead, ha.order?_eq hb, Direction.order_eq_lt_iff, Direction.order_eq_eq_iff, Option.some_inj,
    Option.some_inj]

theorem ahead_asymm {type : ColumnType} (ha : ((t.row a).cell i).IsOf type)
    (hb : ((t.row b).cell i).IsOf type) (hab : t.Ahead i direction a b) :
    ¬t.Ahead i direction b a := by
  have hswap := ha.order_swap hb
  rw [Ahead, ha.order?_eq hb] at hab
  rw [Ahead, hb.order?_eq ha]
  cases direction <;> grind [Direction.ahead, Ordering.swap]

theorem WellFormed.isRanking_ranking (ht : t.WellFormed) (i : Nat) (direction : Direction) :
    t.IsRanking i direction (t.ranking i direction) where
  perm := sortBy_perm _ _
  ordered := by
    have hof : ∀ a ∈ t.numbersWhere fun row => !(row.cell i).isMissing,
        ((t.row a).cell i).IsOf (t.typeAt i) := fun a ha => ht.isOf_of_mem_numbersWhere ha
    have hsorted := (Direction.lawfulOn hof direction).sortBy_pairwise (t.numbersWhere_ascending _)
    apply hsorted.imp_of_mem
    intro a b ha hb hab
    rw [(sortBy_perm _ _).mem_iff] at ha hb
    exact (ahead_iff (hof a ha) (hof b hb)).2 hab

/-- Two rows are not ahead of each other, so there is one way to rank them. -/
theorem WellFormed.eq_of_isRanking (ht : t.WellFormed) {other : List Nat}
    (h : t.IsRanking i direction numbers) (h' : t.IsRanking i direction other) : other = numbers := by
  apply (h'.perm.trans h.perm.symm).eq_of_pairwise _ h'.ordered h.ordered
  intro a b ha hb hab hba
  have ha := ht.isOf_of_mem_numbersWhere (h'.perm.mem_iff.1 ha)
  have hb := ht.isOf_of_mem_numbersWhere (h.perm.mem_iff.1 hb)
  exact absurd hba (ahead_asymm ha hb hab)

theorem rank_eq_rowsAt (t : Table) (i n : Nat) (direction : Direction) :
    t.rank i n direction = t.rowsAt ((t.ranking i direction).take n) :=
  (t.rowsAt_rankedNumbers i n direction).symm

theorem length_ranking (t : Table) (i : Nat) (direction : Direction) :
    (t.ranking i direction).length = t.count i := by
  have hrows := congrArg List.length (t.rowsAt_numbersWhere fun row => !(row.cell i).isMissing)
  rw [ranking, (sortBy_perm _ _).length_eq]
  simpa [rowsAt, count, present, column, List.filter_map, Function.comp_def] using hrows

/-- The rows with a value can be ranked in one way, and any number of first rows are the beginning of this
ranking. -/
theorem WellFormed.rank_of_isRanking (ht : t.WellFormed) (i : Nat) (direction : Direction) :
    ∃ numbers, (∀ other, t.IsRanking i direction other ↔ other = numbers) ∧
      ∀ n, t.rank i n direction = t.rowsAt (numbers.take n) ∧
        (t.rank i n direction).length = min n (t.count i) ∧
        ∀ m, n ≤ m → t.rank i n direction <+: t.rank i m direction := by
  have hranking := ht.isRanking_ranking i direction
  refine ⟨t.ranking i direction, ?_, ?_⟩
  · intro other
    constructor
    · exact ht.eq_of_isRanking hranking
    · rintro rfl
      exact hranking
  · intro n
    simp only [rank_eq_rowsAt, rowsAt, true_and]
    constructor
    · rw [List.length_map, List.length_take, length_ranking]
    · intro m hm
      exact (List.take_prefix_take_left hm).map _

/-- Ties in both directions, and rows without a value. -/
theorem rank_ties :
    let t : Table := ⟨⟨[⟨"n", .int64⟩, ⟨"x", .float64⟩]⟩,
      [[.int 1, .float (.ofNat 2)], [.int 2, .float .nan], [.int 3, .float (.ofNat 5)],
        [.int 4, .float (.ofNat 2)], [.int 5, .null], [.int 6, .float (.ofNat 5)]]⟩
    t.WellFormed ∧ t.count 1 = 4 ∧ t.IsRanking 1 .descending [2, 5, 0, 3] ∧
      t.IsRanking 1 .ascending [0, 3, 2, 5] ∧
      t.rank 1 3 .descending = t.rowsAt [2, 5, 0] ∧ t.rank 1 3 .ascending = t.rowsAt [0, 3, 2] := by
  intro t
  have ht : t.WellFormed := by decide
  have hdescending : t.IsRanking 1 .descending [2, 5, 0, 3] := ⟨by decide +kernel, by decide +kernel⟩
  have hascending : t.IsRanking 1 .ascending [0, 3, 2, 5] := ⟨by decide +kernel, by decide +kernel⟩
  obtain ⟨numbers, hnumbers, hrank⟩ := ht.rank_of_isRanking 1 .descending
  obtain ⟨numbers', hnumbers', hrank'⟩ := ht.rank_of_isRanking 1 .ascending
  obtain rfl := (hnumbers _).1 hdescending
  obtain rfl := (hnumbers' _).1 hascending
  exact ⟨ht, by decide +kernel, hdescending, hascending, (hrank 3).1, (hrank' 3).1⟩

end Table

end TableReport
