import TableReport.Condition.Compare
import TableReport.Proofs.Reduce.RankedExtremes
/-!
# How cells compare in conditions

The six comparisons of two cells are read off one relation between them, so they agree with each other
and with the comparisons the other way round. Integers are compared exactly and are rounded only opposite
other numbers. Since rounding keeps their order, being less is transitive also where the two are mixed.
-/
namespace TableReport

namespace Binary64

variable {x y : Binary64}

theorem order?_swap (x y : Binary64) : y.order? x = (x.order? y).map Ordering.swap := by
  unfold order?
  rw [Bool.or_comm, @Std.OrientedCmp.eq_swap Int compare _ y.signedMagnitude]
  split <;> rfl

theorem order?_eq_lt_iff : x.order? y = some .lt ↔
    (x.isNaN = false ∧ y.isNaN = false) ∧ x.signedMagnitude < y.signedMagnitude := by
  cases hx : x.isNaN <;> cases hy : y.isNaN <;> simp [order?, hx, hy, Int.compare_eq_lt]

theorem signedMagnitude_le_of_rank_le (h : x.rank ≤ y.rank) :
    x.signedMagnitude ≤ y.signedMagnitude := by
  unfold rank at h
  unfold signedMagnitude
  cases hx : x.isNegative <;> cases hy : y.isNegative <;> simp [hx, hy] at h ⊢ <;> omega

theorem signedMagnitude_ofInt64_mono {v w : Int64} (h : v.toInt ≤ w.toInt) :
    (ofInt64 v).signedMagnitude ≤ (ofInt64 w).signedMagnitude :=
  signedMagnitude_le_of_rank_le (rank_ofInt_mono h)

/-- Only a smaller integer is rounded to a smaller number. -/
theorem toInt_lt_of_signedMagnitude_lt {v w : Int64}
    (h : (ofInt64 v).signedMagnitude < (ofInt64 w).signedMagnitude) : v.toInt < w.toInt := by
  by_contra hle
  exact absurd h (Int.not_lt.2 (signedMagnitude_ofInt64_mono (Int.not_lt.1 hle)))

theorem isNaN_ofInt64 (v : Int64) : (ofInt64 v).isNaN = false := isNaN_ofInt v.toInt

end Binary64

/-- The type that a cell is compared as: integers are compared as other numbers are. -/
def Cell.comparedAs : Cell → ColumnType
  | .null => .null
  | .int _ | .float _ => .float64
  | .bool _ => .bool
  | .text _ => .utf8
  | .dateTime _ => .dateTime

/-- Both cells have values, and the values are of different kinds. -/
def Cell.Apart (a b : Cell) : Prop := a ≠ .null ∧ b ≠ .null ∧ a.comparedAs ≠ b.comparedAs

instance (a b : Cell) : Decidable (a.Apart b) := inferInstanceAs (Decidable (_ ∧ _))

namespace Relation

variable {a b c : Cell} {x y z : Binary64}

theorem forall_iff {p : Relation → Prop} : (∀ r, p r) ↔
    p (.ordered .lt) ∧ p (.ordered .eq) ∧ p (.ordered .gt) ∧ p .unequal ∧ p .unrelated := by
  constructor
  · intro h
    exact ⟨h _, h _, h _, h _, h _⟩
  · rintro ⟨hlt, heq, hgt, hunequal, hunrelated⟩ r
    cases r with
    | ordered o => cases o <;> assumption
    | unequal | unrelated => assumption

/-- There are five relations, so what is said of all of them can be checked. -/
instance {p : Relation → Prop} [DecidablePred p] : Decidable (∀ r, p r) :=
  decidable_of_iff' _ forall_iff

theorem satisfies_exclusive : ∀ r : Relation, ∀ op ∈ [Comparison.lt, .eq, .gt],
    ∀ op' ∈ [Comparison.lt, .eq, .gt], r.satisfies op = true → r.satisfies op' = true → op = op' := by
  decide

theorem satisfies_le_iff : ∀ r : Relation,
    r.satisfies .le = true ↔ r.satisfies .lt = true ∨ r.satisfies .eq = true := by
  decide

theorem satisfies_ge_iff : ∀ r : Relation,
    r.satisfies .ge = true ↔ r.satisfies .gt = true ∨ r.satisfies .eq = true := by
  decide

theorem satisfies_ne_iff : ∀ r : Relation, r ≠ .unrelated →
    (r.satisfies .ne = true ↔ ¬r.satisfies .eq = true) := by
  decide

theorem satisfies_lt_iff : ∀ r : Relation, r.satisfies .lt = true ↔ r = .ordered .lt := by
  decide

/-- Values in an order are less, equal or greater. -/
theorem satisfies_ordered (o : Ordering) :
    ∃ op ∈ [Comparison.lt, .eq, .gt], (Relation.ordered o).satisfies op = true := by
  cases o <;> decide

/-- The relation seen from the other side. -/
def swap : Relation → Relation
  | .ordered o => .ordered o.swap
  | .unequal => .unequal
  | .unrelated => .unrelated

theorem satisfies_swap (op : Comparison) (r : Relation) :
    r.swap.satisfies op.swapped = r.satisfies op := by
  cases r with
  | ordered o => cases op <;> cases o <;> rfl
  | unequal | unrelated => cases op <;> rfl

theorem ofNumbers_swap (x y : Binary64) : ofNumbers y x = (ofNumbers x y).swap := by
  unfold ofNumbers
  rw [Binary64.order?_swap x y]
  cases x.order? y <;> rfl

theorem ofCells_swap (a b : Cell) : ofCells b a = (ofCells a b).swap := by
  cases a <;> cases b
  case int.int v w => exact congrArg ordered (@Std.OrientedCmp.eq_swap Int compare _ _ _)
  case int.float v y => exact ofNumbers_swap _ y
  case float.int x w => exact ofNumbers_swap x _
  case float.float x y => exact ofNumbers_swap x y
  case text.text v w => exact congrArg ordered (@Std.OrientedCmp.eq_swap String compare _ w v)
  case bool.bool v w => cases v <;> cases w <;> rfl
  case dateTime.dateTime v w =>
    exact congrArg ordered (@Std.OrientedCmp.eq_swap _ DateTime.order _ w v)
  all_goals rfl

theorem ofNumbers_ne_unrelated (x y : Binary64) : ofNumbers x y ≠ .unrelated := by
  unfold ofNumbers
  cases x.order? y <;> simp

theorem ofCells_eq_unrelated_iff : ofCells a b = .unrelated ↔ a.Apart b := by
  cases a <;> cases b <;> simp [ofCells, Cell.Apart, Cell.comparedAs, ofNumbers_ne_unrelated]

theorem ofNumbers_eq_unequal_iff : ofNumbers x y = .unequal ↔ x.isNaN = true ∨ y.isNaN = true := by
  cases hx : x.isNaN <;> cases hy : y.isNaN <;> simp [ofNumbers, Binary64.order?, hx, hy]

theorem ofNumbers_eq_lt_iff : ofNumbers x y = .ordered .lt ↔
    (x.isNaN = false ∧ y.isNaN = false) ∧ x.signedMagnitude < y.signedMagnitude := by
  rw [← Binary64.order?_eq_lt_iff]
  unfold ofNumbers
  cases x.order? y <;> simp

theorem ofNumbers_lt_trans (hxy : ofNumbers x y = .ordered .lt) (hyz : ofNumbers y z = .ordered .lt) :
    ofNumbers x z = .ordered .lt := by
  rw [ofNumbers_eq_lt_iff] at hxy hyz ⊢
  exact ⟨⟨hxy.1.1, hyz.1.2⟩, Int.lt_trans hxy.2 hyz.2⟩

theorem ofCells_eq_unequal_iff :
    ofCells a b = .unequal ↔ (a.isMissing = true ∨ b.isMissing = true) ∧ ¬a.Apart b := by
  cases a <;> cases b <;>
    simp [ofCells, ofNumbers_eq_unequal_iff, Cell.isMissing, Cell.Apart, Cell.comparedAs,
      Binary64.isNaN_ofInt64]

theorem exists_ordered (ha : a.isMissing = false) (hb : b.isMissing = false)
    (h : a.comparedAs = b.comparedAs) : ∃ o, ofCells a b = .ordered o := by
  cases hrelation : ofCells a b with
  | ordered o => exact ⟨o, rfl⟩
  | unequal =>
    obtain ⟨hmissing, -⟩ := ofCells_eq_unequal_iff.1 hrelation
    simp [ha, hb] at hmissing
  | unrelated =>
    obtain ⟨-, -, hne⟩ := ofCells_eq_unrelated_iff.1 hrelation
    exact absurd h hne

theorem compare_toInt_eq_lt_iff {v w : Int64} :
    ordered (compare v.toInt w.toInt) = .ordered .lt ↔ v.toInt < w.toInt := by
  rw [ordered.injEq, Int.compare_eq_lt]

theorem ofCells_lt_trans (hab : ofCells a b = .ordered .lt) (hbc : ofCells b c = .ordered .lt) :
    ofCells a c = .ordered .lt := by
  cases a <;> cases b <;> try cases hab
  all_goals cases c <;> try cases hbc
  case int.int.int u v w =>
    simp only [ofCells, compare_toInt_eq_lt_iff] at hab hbc ⊢
    exact Int.lt_trans hab hbc
  case int.int.float u v z =>
    simp only [ofCells, compare_toInt_eq_lt_iff, ofNumbers_eq_lt_iff] at hab hbc ⊢
    have hle := Binary64.signedMagnitude_ofInt64_mono (Int.le_of_lt hab)
    exact ⟨⟨Binary64.isNaN_ofInt64 u, hbc.1.2⟩, Int.lt_of_le_of_lt hle hbc.2⟩
  case float.int.int x v w =>
    simp only [ofCells, compare_toInt_eq_lt_iff, ofNumbers_eq_lt_iff] at hab hbc ⊢
    have hle := Binary64.signedMagnitude_ofInt64_mono (Int.le_of_lt hbc)
    exact ⟨⟨hab.1.1, Binary64.isNaN_ofInt64 w⟩, Int.lt_of_lt_of_le hab.2 hle⟩
  case int.float.int u y w =>
    simp only [ofCells, compare_toInt_eq_lt_iff, ofNumbers_eq_lt_iff] at hab hbc ⊢
    exact Binary64.toInt_lt_of_signedMagnitude_lt (Int.lt_trans hab.2 hbc.2)
  case int.float.float u y z => exact ofNumbers_lt_trans hab hbc
  case float.int.float x v z => exact ofNumbers_lt_trans hab hbc
  case float.float.int x y w => exact ofNumbers_lt_trans hab hbc
  case float.float.float x y z => exact ofNumbers_lt_trans hab hbc
  case bool.bool.bool u v w =>
    revert hab hbc
    cases u <;> cases v <;> cases w <;> decide
  case text.text.text u v w =>
    simp only [ofCells, ordered.injEq] at hab hbc ⊢
    exact Std.TransCmp.lt_trans hab hbc
  case dateTime.dateTime.dateTime u v w =>
    simp only [ofCells, ordered.injEq] at hab hbc ⊢
    exact Std.TransCmp.lt_trans hab hbc

end Relation

namespace Comparison

variable {a b c : Cell}

theorem between_swapped (op : Comparison) (a b : Cell) : op.swapped.between b a = op.between a b := by
  rw [between, Relation.ofCells_swap, Relation.satisfies_swap, between]

theorem between_null (op : Comparison) (a : Cell) :
    op.between .null a = (op == .ne) ∧ op.between a .null = (op == .ne) := by
  cases a <;> exact ⟨rfl, rfl⟩

/-- The comparisons of two cells agree with each other. -/
structure Coherent (a b : Cell) : Prop where
  mirrored : ∀ op : Comparison, op.between a b = op.swapped.between b a
  exclusive : ∀ op ∈ [lt, eq, gt], ∀ op' ∈ [lt, eq, gt], op.between a b = true →
    op'.between a b = true → op = op'
  exhaustive : a.isMissing = false → b.isMissing = false → a.comparedAs = b.comparedAs →
    ∃ op ∈ [lt, eq, gt], op.between a b = true
  le_iff : le.between a b = true ↔ lt.between a b = true ∨ eq.between a b = true
  ge_iff : ge.between a b = true ↔ gt.between a b = true ∨ eq.between a b = true
  ne_iff : ¬a.Apart b → (ne.between a b = true ↔ ¬eq.between a b = true)
  apart : a.Apart b → ∀ op : Comparison, op.between a b = false
  null : a = .null ∨ b = .null → ∀ op : Comparison, op.between a b = (op == .ne)

theorem coherent (a b : Cell) : Coherent a b where
  mirrored op := (op.between_swapped a b).symm
  exclusive := Relation.satisfies_exclusive _
  exhaustive ha hb h := by
    obtain ⟨o, ho⟩ := Relation.exists_ordered ha hb h
    simp only [between, ho]
    exact Relation.satisfies_ordered o
  le_iff := Relation.satisfies_le_iff _
  ge_iff := Relation.satisfies_ge_iff _
  ne_iff h := Relation.satisfies_ne_iff _ (mt Relation.ofCells_eq_unrelated_iff.1 h)
  apart h op := by
    rw [between, Relation.ofCells_eq_unrelated_iff.2 h]
    rfl
  null := by
    rintro (rfl | rfl) op
    · exact (op.between_null b).1
    · exact (op.between_null a).2

theorem not_lt_between_self (a : Cell) : ¬lt.between a a = true := by
  intro hlt
  have hgt : gt.between a a = true := ((coherent a a).mirrored .gt).trans hlt
  have heq := (coherent a a).exclusive .lt (by decide) .gt (by decide) hlt hgt
  cases heq

theorem lt_between_trans (hab : lt.between a b = true) (hbc : lt.between b c = true) :
    lt.between a c = true := by
  rw [between, Relation.satisfies_lt_iff] at hab hbc ⊢
  exact Relation.ofCells_lt_trans hab hbc

/-- For any two cells the comparisons agree with each other and with those the other way round, and being
less is a strict order on all cells, however integers and other numbers are mixed. -/
theorem coherent_and_lt_strict (a b c : Cell) :
    Coherent a b ∧ ¬lt.between a a = true ∧
      (lt.between a b = true → lt.between b c = true → lt.between a c = true) :=
  ⟨coherent a b, not_lt_between_self a, lt_between_trans⟩

/-- Two integers that are rounded to the same number are told apart, and one of them is equal to that
number. A NaN differs from itself and is not compared with a text. -/
theorem coherent_beyond_exact_integers :
    let a : Cell := .int 9007199254740992
    let b : Cell := .int 9007199254740993
    let c : Cell := .float (.ofNat 9007199254740994)
    lt.between a b = true ∧ lt.between b c = true ∧ lt.between a c = true ∧
      eq.between b (.float (.ofNat 9007199254740992)) = true ∧
      ne.between (.float .nan) (.float .nan) = true ∧
      ∀ op : Comparison, op.between (.float .nan) (.text "a") = false := by
  intro a b c
  have hab : lt.between a b = true := by decide
  have hbc : lt.between b c = true := by decide +kernel
  obtain ⟨-, -, htrans⟩ := coherent_and_lt_strict a b c
  obtain ⟨hnan, -, -⟩ := coherent_and_lt_strict (.float .nan) (.text "a") a
  exact ⟨hab, hbc, htrans hab hbc, by decide +kernel, by decide +kernel, hnan.apart (by decide)⟩

end Comparison

end TableReport
