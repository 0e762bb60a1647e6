import TableReport.Proofs.Reduce.Distinct
import TableReport.Proofs.Reduce.Grouping
/-!
# Groups and distinct values

Groups are found by sorting the rows, and distinct values by remembering the keys that were seen. Both tell
values apart in the same way, so that there is one group for each distinct value that is not missing.
-/
namespace TableReport

namespace Cell

/-- Zero in place of negative zero. -/
def plusZero : Cell → Cell
  | .float v => .float (if v.isZero then 0 else v)
  | c => c

theorem key_eq_plusZero {c : Cell} (h : c.isMissing = false) : c.key = c.plusZero := by
  cases c with
  | float v =>
    have hnumber : v.isNaN = false := h
    simp [key, plusZero, Binary64.canonical, hnumber]
  | null | int | bool | text | dateTime => rfl

/-- Leaving out missing cells is leaving out their keys. -/
theorem map_plusZero_present (cells : List Cell) :
    (cells.filter (!·.isMissing)).map plusZero = (cells.map key).filter (!·.isMissing) := by
  rw [List.filter_map]
  simp only [Function.comp_def, isMissing_key]
  apply List.map_congr_left
  intro c hc
  exact (key_eq_plusZero (by simpa using (List.mem_filter.1 hc).2)).symm

end Cell

namespace Table

variable {t : Table} {key value limit : Nat} {groups : List Group}

/-- A group has rows when its key is that of a cell of the key column. -/
theorem groupCells_ne_nil_iff {k : Cell} : t.groupCells key value k ≠ [] ↔
    k ∈ (t.column key).map Cell.key ∧ k.isMissing = false := by
  simp only [groupCells, column, ne_eq, List.map_eq_nil_iff, List.filter_eq_nil_iff, not_forall,
    not_not, Bool.and_eq_true, Bool.not_eq_true', decide_eq_true_eq, List.map_map, List.mem_map,
    Function.comp_apply]
  constructor
  · rintro ⟨row, hrow, hpresent, rfl⟩
    exact ⟨⟨row, hrow, rfl⟩, (Cell.isMissing_key _).trans hpresent⟩
  · rintro ⟨⟨row, hrow, rfl⟩, hpresent⟩
    exact ⟨row, hrow, (Cell.isMissing_key _).symm.trans hpresent, rfl⟩

theorem WellFormed.mem_keys_iff (ht : t.WellFormed) (h : t.groupSum key value = .ok groups)
    (k : Cell) : k ∈ groups.map Group.key ↔
      k ∈ (t.column key).map Cell.key ∧ k.isMissing = false := by
  rw [ht.mem_groupSum_keys_iff h, groupCells_ne_nil_iff]

theorem WellFormed.isOf_of_mem_keys (ht : t.WellFormed) (h : t.groupSum key value = .ok groups) :
    ∀ k ∈ groups.map Group.key, k.IsOf (t.typeAt key) := by
  intro k hk
  obtain ⟨g, hg, rfl⟩ := List.mem_map.1 hk
  exact (ht.groupSum_key h hg).1

/-- Groups and distinct values have the same keys. -/
theorem WellFormed.mem_keys_iff_mem_unique (ht : t.WellFormed)
    (h : t.groupSum key value = .ok groups) (hlimit : t.size ≤ limit) (k : Cell) :
    k ∈ groups.map Group.key ↔
      k ∈ ((t.unique key limit).values.map Cell.key).filter (!·.isMissing) := by
  rw [ht.mem_keys_iff h, unique_values_of_size_le hlimit, List.mem_filter, mem_keys_firstSeen]
  simp

theorem WellFormed.existsUnique_group (ht : t.WellFormed) (h : t.groupSum key value = .ok groups)
    {row : Row} (hrow : row ∈ t.rows) (hpresent : (row.cell key).isMissing = false) :
    ∃! g, g ∈ groups ∧ g.key = (row.cell key).key := by
  have hmem : (row.cell key).key ∈ groups.map Group.key := by
    rw [ht.mem_keys_iff h, Cell.isMissing_key]
    exact ⟨List.mem_map_of_mem (List.mem_map_of_mem hrow), hpresent⟩
  have hnodup : (groups.map Group.key).Nodup :=
    Increasing.nodup (ht.isOf_of_mem_keys h) (ht.groupSum_ascending h)
  obtain ⟨g, hg, hkey⟩ := List.mem_map.1 hmem
  refine ⟨g, ⟨hg, hkey⟩, ?_⟩
  rintro g' ⟨hg', hkey'⟩
  exact List.inj_on_of_nodup_map hnodup hg' hg (hkey'.trans hkey.symm)

/-- The keys of the groups are the distinct values of the key column without the missing ones, negative
zero being read as zero, in ascending order. So each value that a row has there is the key of exactly one
group. -/
theorem WellFormed.groupSum_keys_eq_unique (ht : t.WellFormed)
    (h : t.groupSum key value = .ok groups) (hlimit : t.size ≤ limit) :
    groups.map Group.key = sortBy Cell.order
        (((t.unique key limit).values.filter (!·.isMissing)).map Cell.plusZero) ∧
      Increasing (groups.map Group.key) ∧
      ∀ row ∈ t.rows, (row.cell key).isMissing = false →
        ∃! g, g ∈ groups ∧ g.key = (row.cell key).plusZero := by
  have hmem := ht.mem_keys_iff_mem_unique h hlimit
  have hkeysOf := ht.isOf_of_mem_keys h
  refine ⟨?_, ht.groupSum_ascending h, ?_⟩
  · rw [Cell.map_plusZero_present]
    apply Increasing.eq_of_mem_iff hkeysOf (ht.groupSum_ascending h)
    · exact increasing_sortBy (fun k hk => hkeysOf k ((hmem k).2 hk)) (nodup_keys_unique.filter _)
    · intro k
      rw [hmem, (sortBy_perm _ _).mem_iff]
  · intro row hrow hpresent
    rw [← Cell.key_eq_plusZero hpresent]
    exact ht.existsUnique_group h hrow hpresent

/-- Negative zero is seen first, and listed as it is; its group is that of zero. -/
theorem groupSum_keys_of_zeros :
    let t : Table := ⟨⟨[⟨"x", .float64⟩, ⟨"n", .int64⟩]⟩,
      [[.float (.ofNat 2), .int 1], [.float (-0), .int 2], [.float .nan, .int 3], [.float 0, .int 4],
        [.null, .int 5], [.float (-.ofNat 1), .int 6]]⟩
    let groups : List Group := [⟨.float (-.ofNat 1), .int 6⟩, ⟨.float 0, .int 6⟩,
      ⟨.float (.ofNat 2), .int 1⟩]
    t.WellFormed ∧ t.groupSum 0 1 = .ok groups ∧
      (t.unique 0 6).values =
        [.float (.ofNat 2), .float (-0), .float .nan, .null, .float (-.ofNat 1)] ∧
      groups.map Group.key = sortBy Cell.order
        (((t.unique 0 6).values.filter (!·.isMissing)).map Cell.plusZero) := by
  intro t groups
  have ht : t.WellFormed := by decide
  have hgroups : t.groupSum 0 1 = .ok groups := by decide +kernel
  exact ⟨ht, hgroups, by decide +kernel, (ht.groupSum_keys_eq_unique hgroups (by decide)).1⟩

end Table

end TableReport
