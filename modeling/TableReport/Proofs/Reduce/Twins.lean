import TableReport.Proofs.Analysis.Findings
import TableReport.Proofs.Table.SameCells
/-!
# Rows with twins

Repeated rows are found by counting keys. What is found is said here of pairs of rows: a row is counted when
another one has the same cells in the columns that are compared, so no row is counted alone, and the fewer
columns are compared, the more rows are counted.
-/
namespace TableReport.Table

/-- Two rows have the same cells in given columns, or in every column of the table when none are given. -/
def RowsAgree (t : Table) (columns : List Nat) (j k : Nat) : Prop :=
  ∀ i, i ∈ columns ∨ (columns = [] ∧ i < t.schema.width) →
    ((t.row j).cell i).Same ((t.row k).cell i)

variable {t : Table} {columns columns' : List Nat} {j k : Nat}

theorem mem_comparedColumns {i : Nat} :
    i ∈ t.comparedColumns columns ↔ i ∈ columns ∨ (columns = [] ∧ i < t.schema.width) := by
  cases columns <;> simp [comparedColumns]

theorem rowsAgree_iff : t.RowsAgree columns j k ↔
    ∀ i ∈ t.comparedColumns columns, ((t.row j).cell i).Same ((t.row k).cell i) :=
  forall_congr' fun _ => imp_congr_left mem_comparedColumns.symm

theorem RowsAgree.symm (h : t.RowsAgree columns j k) : t.RowsAgree columns k j :=
  fun i hi => (h i hi).symm

/-- Rows that agree do so on fewer columns. -/
theorem RowsAgree.mono (hne : columns' ≠ []) (hsubset : columns' ⊆ t.comparedColumns columns)
    (h : t.RowsAgree columns j k) : t.RowsAgree columns' j k := by
  intro i hi
  exact rowsAgree_iff.1 h i (hsubset (hi.resolve_right fun hempty => hne hempty.1))

theorem rowsAgree_singleton {i : Nat} :
    t.RowsAgree [i] j k ↔ ((t.row j).cell i).Same ((t.row k).cell i) := by
  simp [RowsAgree]

theorem hasTwin_comparedColumns_iff : t.HasTwin (t.comparedColumns columns) k ↔
    ∃ j < t.size, j ≠ k ∧ t.RowsAgree columns j k := by
  simp only [HasTwin, rowsAgree_iff, Cell.same_iff_key]

theorem mem_repeatedNumbers_iff : k ∈ t.repeatedNumbers columns ↔
    k < t.size ∧ ∃ j < t.size, j ≠ k ∧ t.RowsAgree columns j k := by
  rw [repeatedNumbers_eq, List.mem_filter, List.mem_range, decide_eq_true_eq,
    hasTwin_comparedColumns_iff]

theorem repeatedNumbers_ascending : (t.repeatedNumbers columns).Pairwise (· < ·) := by
  rw [repeatedNumbers_eq]
  exact List.pairwise_lt_range.filter _

/-- The twin of a row that is counted is counted too. -/
theorem length_repeatedNumbers_ne_one : (t.repeatedNumbers columns).length ≠ 1 := by
  intro hone
  obtain ⟨k, hk⟩ := List.length_eq_one_iff.1 hone
  have hmem : k ∈ t.repeatedNumbers columns := by simp [hk]
  obtain ⟨hsize, j, hj, hne, hagree⟩ := mem_repeatedNumbers_iff.1 hmem
  have htwin : j ∈ t.repeatedNumbers columns :=
    mem_repeatedNumbers_iff.2 ⟨hj, k, hsize, hne.symm, hagree.symm⟩
  rw [hk, List.mem_singleton] at htwin
  exact hne htwin

theorem repeatedNumbers_mono (hne : columns' ≠ []) (hsubset : columns' ⊆ t.comparedColumns columns) :
    t.repeatedNumbers columns ⊆ t.repeatedNumbers columns' := by
  intro k hk
  obtain ⟨hsize, j, hj, hjk, hagree⟩ := mem_repeatedNumbers_iff.1 hk
  exact mem_repeatedNumbers_iff.2 ⟨hsize, j, hj, hjk, hagree.mono hne hsubset⟩

/-- Neither the order of columns nor their repetition matters. -/
theorem repeatedNumbers_congr (hne : columns ≠ []) (hsame : ∀ i, i ∈ columns' ↔ i ∈ columns) :
    t.repeatedNumbers columns' = t.repeatedNumbers columns := by
  have hne' : columns' ≠ [] := by
    obtain ⟨i, hi⟩ := List.exists_mem_of_ne_nil columns hne
    exact List.ne_nil_of_mem ((hsame i).2 hi)
  have hmem : ∀ i, i ∈ t.comparedColumns columns' ↔ i ∈ t.comparedColumns columns := by
    intro i
    rw [mem_comparedColumns, mem_comparedColumns, hsame]
    simp [hne, hne']
  rw [repeatedNumbers_eq, repeatedNumbers_eq]
  apply List.filter_congr
  intro k _
  rw [decide_eq_decide, HasTwin, HasTwin]
  simp only [hmem]

/-- A row is counted exactly when another one agrees with it. The counted rows are listed in order, from the
first one on, and there is never a single one. Which rows are counted depends on the set of columns that
are compared, and rows that are counted for more columns are counted for fewer. -/
theorem duplicates_iff_rowsAgree (t : Table) (columns : List Nat) (sample : Nat) :
    let counted := t.repeatedNumbers columns
    let found := t.duplicates columns sample
    (∀ k, k ∈ counted ↔ k < t.size ∧ ∃ j < t.size, j ≠ k ∧ t.RowsAgree columns j k) ∧
      counted.Pairwise (· < ·) ∧ found.count = counted.length ∧
      found.sample = t.rowsAt (counted.take (min sample found.count)) ∧ found.count ≠ 1 ∧
      (columns ≠ [] → ∀ columns', (∀ i, i ∈ columns' ↔ i ∈ columns) →
        t.duplicates columns' sample = found) ∧
      ∀ columns' ≠ [], columns' ⊆ t.comparedColumns columns →
        counted ⊆ t.repeatedNumbers columns' := by
  intro counted found
  have hfound : found = ⟨counted.length, t.rowsAt (counted.take sample)⟩ :=
    t.duplicates_eq columns sample
  refine ⟨fun k => mem_repeatedNumbers_iff, repeatedNumbers_ascending, ?_, ?_, ?_, ?_, ?_⟩
  · rw [hfound]
  · rw [hfound, List.take_eq_take_min]
  · rw [hfound]
    exact length_repeatedNumbers_ne_one
  · intro hne columns' hsame
    rw [hfound, t.duplicates_eq, repeatedNumbers_congr hne hsame]
  · intro columns' hne hsubset
    exact repeatedNumbers_mono hne hsubset

end TableReport.Table
