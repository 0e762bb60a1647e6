import Mathlib.Data.List.Nodup
import TableReport.Reduce.Distinct
/-!
# The distinct values of a column

The values that are listed are cells of the column, no two of them with the same key, and every cell has
the key of one of them.
-/
namespace TableReport

section FirstSeen

variable {seen cells cells' : List Cell} {k : Cell}

theorem firstSeen_sublist : (firstSeen seen cells).Sublist cells := by
  induction cells generalizing seen with
  | nil => simp [firstSeen]
  | cons c cells ih =>
    unfold firstSeen
    split
    · exact ih.cons c
    · exact ih.cons_cons c

theorem mem_keys_firstSeen : k ∈ (firstSeen seen cells).map Cell.key ↔
    k ∈ cells.map Cell.key ∧ k ∉ seen := by
  induction cells generalizing seen with
  | nil => simp [firstSeen]
  | cons c cells ih =>
    unfold firstSeen
    by_cases hc : c.key ∈ seen
    · have hne : k ∉ seen → k ≠ c.key := by
        rintro hk rfl
        exact hk hc
      simp [hc, ih]
      tauto
    · by_cases hk : k = c.key <;> simp [hc, hk, ih]

theorem nodup_keys_firstSeen : ((firstSeen seen cells).map Cell.key).Nodup := by
  induction cells generalizing seen with
  | nil => simp [firstSeen]
  | cons c cells ih =>
    unfold firstSeen
    split
    · exact ih
    · rw [List.map_cons, List.nodup_cons, mem_keys_firstSeen]
      exact ⟨fun h => h.2 List.mem_cons_self, ih⟩

/-- The number of distinct values does not depend on the order in which they are seen. -/
theorem length_firstSeen_of_perm (h : cells.Perm cells') :
    (firstSeen [] cells).length = (firstSeen [] cells').length := by
  have hkeys : ((firstSeen [] cells).map Cell.key).Perm ((firstSeen [] cells').map Cell.key) := by
    rw [List.perm_ext_iff_of_nodup nodup_keys_firstSeen nodup_keys_firstSeen]
    intro k
    rw [mem_keys_firstSeen, mem_keys_firstSeen, (h.map Cell.key).mem_iff]
  simpa using hkeys.length_eq

end FirstSeen

namespace Table

variable {t : Table} {i limit : Nat} {c : Cell}

theorem nodup_keys_unique : ((t.unique i limit).values.map Cell.key).Nodup :=
  nodup_keys_firstSeen.sublist ((List.take_sublist limit _).map Cell.key)

theorem mem_column_of_mem_unique (h : c ∈ (t.unique i limit).values) : c ∈ t.column i :=
  firstSeen_sublist.subset (List.mem_of_mem_take h)

/-- A limit that no column reaches cuts nothing off. -/
theorem unique_values_of_size_le (h : t.size ≤ limit) :
    (t.unique i limit).values = firstSeen [] (t.column i) := by
  have hsublist : (firstSeen [] (t.column i)).Sublist (t.column i) := firstSeen_sublist
  have hsize : (t.column i).length = t.size := List.length_map _
  apply List.take_of_length_le
  exact Nat.le_trans hsublist.length_le (hsize ▸ h)

end Table

end TableReport
