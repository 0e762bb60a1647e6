import Mathlib.Data.List.Nodup
import TableReport.Proofs.Reduce.GroupKeys
import TableReport.Proofs.Reduce.Ranking
import TableReport.Proofs.Reduce.Total
/-!
# Groups by the numbers of their rows

Every row with a key is in one group, and the total of a group is that of its rows in their order. Sums by
groups come out as such a partition, and fail only when the integers of one group have a sum out of range.
-/
namespace TableReport

namespace Table

/-- The numbers of the rows with a key, negative zero being read as zero. -/
def groupNumbers (t : Table) (key : Nat) (k : Cell) : List Nat :=
  t.numbersWhere fun row => !(row.cell key).isMissing && decide ((row.cell key).plusZero = k)

def cellsAt (t : Table) (i : Nat) (numbers : List Nat) : List Cell :=
  numbers.map fun a => (t.row a).cell i

/-- The groups have ascending keys, each row with a key is in one of them, and the total of a group is that
of the cells of its rows, which are taken up one by one. -/
structure IsPartition (t : Table) (key value : Nat) (groups : List Group) : Prop where
  ascending : (groups.map Group.key).Pairwise fun a b => a.order? b = some .lt
  nonempty : ∀ g ∈ groups, t.groupNumbers key g.key ≠ []
  covers : (groups.flatMap fun g => t.groupNumbers key g.key).Perm
    (t.numbersWhere fun row => !(row.cell key).isMissing)
  totals : ∀ g ∈ groups, ((t.cellsAt value (t.groupNumbers key g.key)).foldl Total.add
    (Total.start (t.typeAt value))).finish (t.nameAt value) = .ok g.total

variable {t : Table} {key value : Nat} {groups : List Group} {k : Cell} {a : Nat}

theorem mem_groupNumbers : a ∈ t.groupNumbers key k ↔
    a ∈ (t.numbersWhere fun row => !(row.cell key).isMissing) ∧
      ((t.row a).cell key).plusZero = k := by
  simp [groupNumbers, mem_numbersWhere, and_assoc]

theorem cellsAt_groupNumbers (k : Cell) :
    t.cellsAt value (t.groupNumbers key k) = t.groupCells key value k := by
  have hrows := t.rowsAt_numbersWhere fun row =>
    !(row.cell key).isMissing && decide ((row.cell key).plusZero = k)
  have hcells := congrArg (List.map (Row.cell · value)) hrows
  rw [rowsAt, List.map_map] at hcells
  rw [cellsAt, groupNumbers, groupCells]
  refine hcells.trans (congrArg _ (List.filter_congr ?_))
  intro row _
  cases hmissing : (row.cell key).isMissing with
  | true => rfl
  | false => rw [Cell.key_eq_plusZero hmissing]

theorem groupCells_ne_nil : t.groupCells key value k ≠ [] ↔ t.groupNumbers key k ≠ [] := by
  rw [← cellsAt_groupNumbers, cellsAt, ne_eq, List.map_eq_nil_iff]

/-- The rows with a key are the rows of the keys among them. -/
theorem flatMap_groupNumbers_perm {keys : List Cell} (hnodup : keys.Nodup)
    (hkeys : ∀ a ∈ t.numbersWhere fun row => !(row.cell key).isMissing,
      ((t.row a).cell key).plusZero ∈ keys) :
    (keys.flatMap (t.groupNumbers key)).Perm
      (t.numbersWhere fun row => !(row.cell key).isMissing) := by
  have hnumbers : ∀ keep, (t.numbersWhere keep).Nodup := fun keep =>
    (t.numbersWhere_ascending keep).imp Nat.ne_of_lt
  rw [List.perm_ext_iff_of_nodup _ (hnumbers _)]
  · intro a
    simp only [List.mem_flatMap, mem_groupNumbers]
    constructor
    · rintro ⟨k, -, hpresent, -⟩
      exact hpresent
    · intro hpresent
      exact ⟨_, hkeys a hpresent, hpresent, rfl⟩
  · rw [List.nodup_flatMap]
    refine ⟨fun k _ => hnumbers _, hnodup.imp ?_⟩
    intro k k' hne a ha ha'
    exact hne ((mem_groupNumbers.1 ha).2.symm.trans (mem_groupNumbers.1 ha').2)

theorem WellFormed.isOf_of_groupNumbers_ne_nil (ht : t.WellFormed)
    (h : t.groupNumbers key k ≠ []) : k.IsOf (t.typeAt key) := by
  obtain ⟨a, ha⟩ := List.exists_mem_of_ne_nil _ h
  obtain ⟨hpresent, rfl⟩ := mem_groupNumbers.1 ha
  rw [← Cell.key_eq_plusZero (by simpa using (mem_numbersWhere.1 hpresent).2)]
  exact (ht.isOf_of_mem_numbersWhere hpresent).key

/-! ### Partitions -/

theorem IsPartition.mem_keys_iff (h : t.IsPartition key value groups) (k : Cell) :
    k ∈ groups.map Group.key ↔ t.groupNumbers key k ≠ [] := by
  constructor
  · intro hk
    obtain ⟨g, hg, rfl⟩ := List.mem_map.1 hk
    exact h.nonempty g hg
  · intro hk
    obtain ⟨a, ha⟩ := List.exists_mem_of_ne_nil _ hk
    obtain ⟨hpresent, rfl⟩ := mem_groupNumbers.1 ha
    obtain ⟨g, hg, hag⟩ := List.mem_flatMap.1 (h.covers.mem_iff.2 hpresent)
    exact List.mem_map.2 ⟨g, hg, (mem_groupNumbers.1 hag).2.symm⟩

theorem WellFormed.isPartition_of_groupSum (ht : t.WellFormed)
    (h : t.groupSum key value = .ok groups) : t.IsPartition key value groups where
  ascending := (increasing_iff_order? (ht.isOf_of_mem_keys h)).1 (ht.groupSum_ascending h)
  nonempty g hg := by
    rw [← groupCells_ne_nil, ← ht.mem_groupSum_keys_iff h]
    exact List.mem_map_of_mem hg
  covers := by
    rw [← List.flatMap_map]
    apply flatMap_groupNumbers_perm (Increasing.nodup (ht.isOf_of_mem_keys h) (ht.groupSum_ascending h))
    intro a ha
    rw [ht.mem_groupSum_keys_iff h, groupCells_ne_nil]
    exact List.ne_nil_of_mem (mem_groupNumbers.2 ⟨ha, rfl⟩)
  totals g hg := by
    rw [cellsAt_groupNumbers]
    exact ht.groupSum_total h hg

theorem WellFormed.groupSum_of_isPartition (ht : t.WellFormed)
    (h : t.IsPartition key value groups) : t.groupSum key value = .ok groups := by
  have hof : ∀ k ∈ groups.map Group.key, k.IsOf (t.typeAt key) :=
    fun k hk => ht.isOf_of_groupNumbers_ne_nil ((h.mem_keys_iff k).1 hk)
  have hkeys : groups.map Group.key = (t.parts key value).map Prod.fst := by
    apply Increasing.eq_of_mem_iff hof ((increasing_iff_order? hof).2 h.ascending)
    · exact (ht.totals key value).ascending
    · intro k
      rw [h.mem_keys_iff, ht.mem_keys_parts_iff, groupCells_ne_nil]
  rw [ht.groupSum_eq_mapM, ← hkeys, List.mapM_map, mapM_eq_ok_iff, List.forall₂_same]
  intro g hg
  rw [Function.comp_apply, Total.ofCells, ← cellsAt_groupNumbers, h.totals g hg]
  rfl

theorem WellFormed.overflow_of_groupSum (ht : t.WellFormed) {e : ColumnError}
    (h : t.groupSum key value = .error e) : e = .overflow (t.nameAt value) ∧
      t.typeAt value = .int64 ∧
        ∃ k, fitsInt64 (integerSum (t.cellsAt value (t.groupNumbers key k))) = false := by
  rw [ht.groupSum_eq_mapM] at h
  obtain ⟨k, -, hk⟩ := exists_of_mapM_error h
  rw [← cellsAt_groupNumbers, map_eq_error_iff, Total.finish_ofCells_eq_error_iff] at hk
  exact ⟨hk.1, hk.2.1, k, hk.2.2⟩

theorem WellFormed.groupSum_of_not_fits (ht : t.WellFormed) (htype : t.typeAt value = .int64)
    (hk : fitsInt64 (integerSum (t.cellsAt value (t.groupNumbers key k))) = false) :
    t.groupSum key value = .error (.overflow (t.nameAt value)) := by
  cases h : t.groupSum key value with
  | error e => rw [(ht.overflow_of_groupSum h).1]
  | ok groups =>
    have htotal := ht.exists_groupSum_iff.1 ⟨groups, h⟩ k
    rw [← cellsAt_groupNumbers, Total.exists_finish_iff] at htotal
    exact absurd (htotal htype) (by simp [hk])

/-- Sums by groups are the partitions of the rows by their keys, and they fail exactly when the integers of
one group have a sum out of range, whatever the other groups have. -/
theorem WellFormed.groupSum_iff_isPartition (ht : t.WellFormed) (key value : Nat) :
    (∀ groups, t.groupSum key value = .ok groups ↔ t.IsPartition key value groups) ∧
      ∀ e, t.groupSum key value = .error e ↔
        e = .overflow (t.nameAt value) ∧ t.typeAt value = .int64 ∧
          ∃ k, fitsInt64 (integerSum (t.cellsAt value (t.groupNumbers key k))) = false := by
  constructor
  · intro groups
    exact ⟨ht.isPartition_of_groupSum, ht.groupSum_of_isPartition⟩
  · intro e
    constructor
    · exact ht.overflow_of_groupSum
    · rintro ⟨rfl, htype, k, hk⟩
      exact ht.groupSum_of_not_fits htype hk

/-- The zeros share a group, rows without a key are in none, and one group is out of range although the
total of all rows is not. -/
theorem groupSum_of_shared_zero :
    let schema : Schema := ⟨[⟨"x", .float64⟩, ⟨"n", .int64⟩]⟩
    let t : Table := ⟨schema, [[.float (.ofNat 2), .int 5], [.float 0, .int 1], [.null, .int 7],
      [.float (-0), .int (-3)], [.float .nan, .int 9], [.float (.ofNat 2), .null]]⟩
    let large : Table := ⟨schema, [[.float 0, .int Int64.maxValue], [.float (.ofNat 2), .int (-1)],
      [.float (-0), .int 1]]⟩
    t.WellFormed ∧ t.IsPartition 0 1 [⟨.float 0, .int (-2)⟩, ⟨.float (.ofNat 2), .int 5⟩] ∧
      large.WellFormed ∧ fitsInt64 (integerSum (large.column 1)) = true ∧
      large.groupSum 0 1 = .error (.overflow "n") := by
  intro schema t large
  have ht : t.WellFormed := by decide
  have hlarge : large.WellFormed := by decide
  refine ⟨ht, ?_, hlarge, by decide +kernel, ?_⟩
  · rw [← (ht.groupSum_iff_isPartition 0 1).1]
    decide +kernel
  · rw [(hlarge.groupSum_iff_isPartition 0 1).2]
    exact ⟨rfl, rfl, .float 0, by decide +kernel⟩

end Table

end TableReport
