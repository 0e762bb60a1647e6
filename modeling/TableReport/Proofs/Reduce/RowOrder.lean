import TableReport.Proofs.Reduce.Distinct
import TableReport.Proofs.Reduce.Extreme
import TableReport.Proofs.Reduce.Grouping
import TableReport.Proofs.Reduce.Total
import TableReport.Reduce.Selection
/-!
# Results that do not depend on the order of rows

Counts, exact sums, extremes and what is read off sorted values are the same for every order of the rows.
-/
namespace TableReport

/-- The statistics that are read off the sorted values; the others are sums of rounded numbers. -/
def Statistics.ranked (s : Statistics) : Statistics := { s with mean := none, deviation := none }

namespace Table

/-- The same columns, and the same rows in any order. -/
structure SameRows (t t' : Table) : Prop where
  schema : t.schema = t'.schema
  rows : t.rows.Perm t'.rows

/-- Two tables agree on everything that is said of a table regardless of the order of its rows. -/
structure AgreeUnordered (t t' : Table) : Prop where
  sum : ∀ i, t.typeAt i = .int64 → t.sum i = t'.sum i
  mean : ∀ i, t.typeAt i = .int64 → t.mean i = t'.mean i
  groups : ∀ key i, t.typeAt i = .int64 → t.groupSum key i = t'.groupSum key i
  missing : ∀ i, t.missing i = t'.missing i
  matching : ∀ p n, (t.select p n).matching = (t'.select p n).matching
  percentage : ∀ p n, (t.select p n).percentage = (t'.select p n).percentage
  distinct : ∀ i n, (t.unique i n).count = (t'.unique i n).count
  repeated : ∀ columns n, (t.duplicates columns n).count = (t'.duplicates columns n).count
  reduced : ∀ column, ∀ reduction ∈ [.count, .countPresent, .min, .max],
    t.reduce column reduction = t'.reduce column reduction
  statistics : ∀ i, (t.describe i).map Statistics.ranked = (t'.describe i).map Statistics.ranked
  statisticsOfAll : t.describeAll.map (List.map (Prod.map id Statistics.ranked)) =
    t'.describeAll.map (List.map (Prod.map id Statistics.ranked))

end Table

/-! ### Lists in another order -/

theorem integerSum_of_perm {cells cells' : List Cell} (h : cells.Perm cells') :
    integerSum cells = integerSum cells' :=
  (h.map Cell.integer).sum_eq

theorem sortNumbers_of_perm {xs ys : List Binary64} (h : xs.Perm ys) :
    sortNumbers xs = sortNumbers ys := by
  have hperm : (sortNumbers xs).Perm (sortNumbers ys) :=
    (sortBy_perm _ xs).trans (h.trans (sortBy_perm _ ys).symm)
  apply hperm.eq_of_pairwise _ (sortBy_ascending xs) (sortBy_ascending ys)
  intro x y _ _ hxy hyx
  rw [← Binary64.totalOrder_eq_iff]
  exact Std.OrientedCmp.isLE_antisymm hxy hyx

theorem ranked_ofNumbers_of_perm {xs ys : List Binary64} (h : xs.Perm ys)
    (m m' : Option Binary64) :
    (Statistics.ofNumbers m xs).ranked = (Statistics.ofNumbers m' ys).ranked := by
  simp only [Statistics.ranked, Statistics.ofNumbers, sortNumbers_of_perm h, h.length_eq]

theorem Group.Totals.eq_of_perm {keyType : ColumnType} {entries entries' : List (Cell × Cell)}
    {parts parts' : List (Cell × Total)} (hof : ∀ e ∈ entries, e.1.IsOf keyType)
    (h : Totals .int64 entries parts) (h' : Totals .int64 entries' parts')
    (hperm : entries.Perm entries') : parts = parts' := by
  -- The totals are determined by the keys, and the keys are an increasing list with known members.
  have hparts : ∀ {es : List (Cell × Cell)} {ps : List (Cell × Total)}, Totals .int64 es ps →
      ps = (ps.map Prod.fst).map fun k => (k, .int (integerSum (valuesOf k es))) := by
    intro es ps hps
    rw [List.map_map]
    symm
    apply (List.map_congr_left _).trans (List.map_id ps)
    intro p hp
    obtain ⟨k, total⟩ := p
    rw [hps.total_eq k total hp, Total.ofCells_int64]
    rfl
  have hkeys : parts.map Prod.fst = parts'.map Prod.fst := by
    have hkeysOf : ∀ k ∈ parts.map Prod.fst, k.IsOf keyType := by
      intro k hk
      obtain ⟨e, he, rfl⟩ := List.mem_map.1 ((h.mem_keys_iff k).1 hk)
      exact hof e he
    apply Increasing.eq_of_mem_iff hkeysOf h.ascending h'.ascending
    intro k
    rw [h.mem_keys_iff, h'.mem_keys_iff, (hperm.map Prod.fst).mem_iff]
  have hvalues : ∀ k, integerSum (valuesOf k entries) = integerSum (valuesOf k entries') :=
    fun k => integerSum_of_perm ((hperm.filter _).map Prod.snd)
  rw [hparts h, hparts h', hkeys]
  simp only [hvalues]

namespace Table

variable {t t' : Table} {i : Nat}

namespace SameRows

theorem wellFormed (h : SameRows t t') (ht : t.WellFormed) : t'.WellFormed := by
  intro row hrow
  rw [← h.schema]
  exact ht row (h.rows.mem_iff.2 hrow)

theorem size_eq (h : SameRows t t') : t.size = t'.size := h.rows.length_eq

theorem typeAt_eq (h : SameRows t t') (i : Nat) : t.typeAt i = t'.typeAt i := by
  rw [typeAt, h.schema, typeAt]

theorem nameAt_eq (h : SameRows t t') (i : Nat) : t.nameAt i = t'.nameAt i := by
  rw [nameAt, h.schema, nameAt]

theorem column_perm (h : SameRows t t') (i : Nat) : (t.column i).Perm (t'.column i) :=
  h.rows.map _

theorem present_perm (h : SameRows t t') (i : Nat) : (t.present i).Perm (t'.present i) :=
  (h.column_perm i).filter _

theorem numbers_perm (h : SameRows t t') (i : Nat) : (t.numbers i).Perm (t'.numbers i) :=
  ((h.column_perm i).filterMap _).filter _

theorem entries_perm (h : SameRows t t') (key i : Nat) :
    (Group.entries t key i).Perm (Group.entries t' key i) :=
  h.rows.filterMap _

theorem count_eq (h : SameRows t t') (i : Nat) : t.count i = t'.count i :=
  (h.present_perm i).length_eq

theorem sum_eq (h : SameRows t t') (htype : t.typeAt i = .int64) : t.sum i = t'.sum i := by
  have htotal : t.total i = t'.total i := by
    rw [total, total, ← h.typeAt_eq, ← h.nameAt_eq, htype, Total.ofCells_int64,
      Total.ofCells_int64, integerSum_of_perm (h.column_perm i)]
  rw [sum, htotal, sum]

theorem mean_eq (h : SameRows t t') (htype : t.typeAt i = .int64) : t.mean i = t'.mean i := by
  rw [mean, h.count_eq, h.sum_eq htype, mean]

theorem groupSum_eq (h : SameRows t t') (ht : t.WellFormed) (key : Nat)
    (htype : t.typeAt i = .int64) : t.groupSum key i = t'.groupSum key i := by
  have hparts : t.parts key i = t'.parts key i := by
    have htotals := ht.totals key i
    have htotals' := (h.wellFormed ht).totals key i
    rw [htype] at htotals
    rw [← h.typeAt_eq, htype] at htotals'
    exact htotals.eq_of_perm (fun e he => (ht.key_of_mem_entries he).1) htotals'
      (h.entries_perm key i)
  unfold parts at hparts
  rw [groupSum, hparts, h.nameAt_eq, groupSum]

theorem matching_eq (h : SameRows t t') (p : Predicate) (n : Nat) :
    (t.select p n).matching = (t'.select p n).matching :=
  (h.rows.filter _).length_eq

theorem percentage_eq (h : SameRows t t') (p : Predicate) (n : Nat) :
    (t.select p n).percentage = (t'.select p n).percentage :=
  congrArg₂ percentOf (h.matching_eq p n) h.size_eq

theorem repeated_eq (h : SameRows t t') (columns : List Nat) (n : Nat) :
    (t.duplicates columns n).count = (t'.duplicates columns n).count := by
  have hcolumns : t.comparedColumns columns = t'.comparedColumns columns := by
    rw [comparedColumns, h.schema, comparedColumns]
  simp only [duplicates, repeated, hcolumns,
    (h.rows.map (Row.keys (t'.comparedColumns columns))).count_eq]
  exact (h.rows.filter _).length_eq

theorem extreme_eq (h : SameRows t t') (ht : t.WellFormed) {further : Ordering}
    (hne : further ≠ .eq) (i : Nat) :
    extreme further (t.present i) = extreme further (t'.present i) :=
  extreme_of_perm hne (fun _ => ht.isOf_of_mem_present) (h.present_perm i)

theorem reduce_eq (h : SameRows t t') (ht : t.WellFormed) (column : String) {reduction : Reduction}
    (hr : reduction ∈ [.count, .countPresent, .min, .max]) :
    t.reduce column reduction = t'.reduce column reduction := by
  unfold reduce
  rw [← h.schema]
  congr 1
  funext i
  cases reduction with
  | count => simp only [h.size_eq]
  | countPresent => simp only [h.count_eq]
  | min => simp only [h.extreme_eq ht (show Ordering.lt ≠ .eq by decide)]
  | max => simp only [h.extreme_eq ht (show Ordering.gt ≠ .eq by decide)]
  | sum | mean => simp at hr

theorem describe_eq (h : SameRows t t') (ht : t.WellFormed) (i : Nat) :
    (t.describe i).map Statistics.ranked = (t'.describe i).map Statistics.ranked := by
  have hranked := ranked_ofNumbers_of_perm (h.numbers_perm i)
  unfold describe
  by_cases htype : t.typeAt i = .int64
  · rw [h.mean_eq htype]
    cases t'.mean i with
    | error e => rfl
    | ok m => exact congrArg Except.ok (hranked m m)
  · -- Without integers a mean does not fail.
    obtain ⟨m, hm⟩ := ht.exists_mean_iff.2 fun h => absurd h htype
    obtain ⟨m', hm'⟩ := (h.wellFormed ht).exists_mean_iff.2 fun h' => absurd (h.typeAt_eq i ▸ h') htype
    rw [hm, hm']
    exact congrArg Except.ok (hranked m m')

theorem describeAll_eq (h : SameRows t t') (ht : t.WellFormed) :
    t.describeAll.map (List.map (Prod.map id Statistics.ranked)) =
      t'.describeAll.map (List.map (Prod.map id Statistics.ranked)) := by
  have hnamed : ∀ (name : String) (x : Except ColumnError Statistics),
      (x.map fun s => (name, s)).map (Prod.map id Statistics.ranked) =
        (x.map Statistics.ranked).map fun s => (name, s) := by
    intro name x
    cases x <;> rfl
  unfold describeAll
  rw [← h.schema]
  apply map_mapM_congr
  rintro ⟨f, i⟩ -
  rw [hnamed, hnamed, h.describe_eq ht i]

end SameRows

/-- What is said of a well-formed table regardless of the order of its rows is the same for the same rows
in any order. -/
theorem WellFormed.agree_of_sameRows (ht : t.WellFormed) (h : SameRows t t') :
    AgreeUnordered t t' where
  sum _ htype := h.sum_eq htype
  mean _ htype := h.mean_eq htype
  groups key _ htype := h.groupSum_eq ht key htype
  missing _ := h.rows.countP_eq _
  matching := h.matching_eq
  percentage := h.percentage_eq
  distinct i _ := length_firstSeen_of_perm (h.column_perm i)
  repeated := h.repeated_eq
  reduced column _ hr := h.reduce_eq ht column hr
  statistics := h.describe_eq ht
  statisticsOfAll := h.describeAll_eq ht

/-- A total that is too large halfway comes out in any order, and so do extremes with both zeros. -/
theorem agree_of_reversed_rows :
    let t : Table := ⟨⟨[⟨"n", .int64⟩, ⟨"x", .float64⟩]⟩,
      [[.int 9223372036854775807, .float 0], [.int 1, .null], [.int (-1), .float (-0)]]⟩
    let t' : Table := ⟨t.schema, t.rows.reverse⟩
    t.WellFormed ∧ t.SameRows t' ∧
      t.reduce "x" .min = .ok (.float (-0)) ∧ t'.reduce "x" .min = .ok (.float (-0)) ∧
      ∃ total, t.sum 0 = .ok total ∧ t'.sum 0 = .ok total := by
  intro t t'
  have ht : t.WellFormed := by decide
  have hsame : t.SameRows t' := ⟨rfl, t.rows.reverse_perm.symm⟩
  have hmin : t.reduce "x" .min = .ok (.float (-0)) := by decide +kernel
  obtain ⟨total, htotal⟩ : ∃ total, t.sum 0 = .ok total := exists_sum_iff.2 fun _ => by decide +kernel
  have hagree := ht.agree_of_sameRows hsame
  refine ⟨ht, hsame, hmin, ?_, total, htotal, ?_⟩
  · rw [← hagree.reduced "x" .min (by decide), hmin]
  · rw [← hagree.sum 0 rfl, htotal]

end Table

end TableReport
