import Mathlib.Data.Finset.Card
import TableReport.Proofs.Reduce.Distinct
import TableReport.Proofs.Reduce.Twins
/-!
# First members

Cells that are the same make up a class. The distinct values of a column are the first member of each class
as it stands there, in the order of the rows, and all classes are counted however few values are listed. So
there are as many classes as rows exactly when no row has a twin in the column.
-/
namespace TableReport

section Positions

/-- The positions in a list of the cells whose key is not in `seen` and not that of an earlier cell. -/
def newPositions (seen cells : List Cell) : List Nat :=
  (List.range cells.length).filter fun k => (cells.getD k .null).key ∉ seen ∧
    ∀ j < k, (cells.getD j .null).key ≠ (cells.getD k .null).key

variable {seen cells : List Cell} {c : Cell}

theorem newPositions_cons : newPositions seen (c :: cells) =
    if c.key ∈ seen then (newPositions seen cells).map Nat.succ
    else 0 :: (newPositions (c.key :: seen) cells).map Nat.succ := by
  -- Behind the first cell its key is one of those seen, whether or not it has been seen before.
  have hrest : ∀ seen', (∀ k, k ∈ seen' ↔ k = c.key ∨ k ∈ seen) →
      (List.range cells.length).filter ((fun k => decide (((c :: cells).getD k .null).key ∉ seen ∧
        ∀ j < k, ((c :: cells).getD j .null).key ≠ ((c :: cells).getD k .null).key)) ∘ Nat.succ) =
        newPositions seen' cells := by
    intro seen' hseen
    apply List.filter_congr
    intro k _
    simp only [Function.comp_apply, Nat.succ_eq_add_one, decide_eq_decide, Nat.forall_lt_succ_left,
      List.getD_cons_zero, List.getD_cons_succ, hseen]
    grind
  rw [newPositions, List.length_cons, List.range_succ_eq_map, List.filter_cons, List.filter_map]
  by_cases hc : c.key ∈ seen
  · rw [hrest seen (by grind)]
    simp [hc]
  · rw [hrest (c.key :: seen) (by simp)]
    simp [hc]

theorem firstSeen_eq_map_newPositions (seen cells : List Cell) :
    firstSeen seen cells = (newPositions seen cells).map (cells.getD · .null) := by
  induction cells generalizing seen with
  | nil => rfl
  | cons c cells ih =>
    have htail : ∀ positions : List Nat, (positions.map Nat.succ).map ((c :: cells).getD · .null) =
        positions.map (cells.getD · .null) := by
      intro positions
      rw [List.map_map]
      rfl
    rw [newPositions_cons, firstSeen]
    by_cases hc : c.key ∈ seen
    · rw [if_pos hc, if_pos (by simpa using hc), htail, ih]
    · rw [if_neg hc, if_neg (by simpa using hc), List.map_cons, htail, ih, List.getD_cons_zero]

end Positions

namespace Table

/-- The numbers of the rows whose cell is not the same as that of an earlier row. -/
def firstMembers (t : Table) (i : Nat) : List Nat :=
  (List.range t.size).filter fun k => ∀ j < k, ¬((t.row j).cell i).Same ((t.row k).cell i)

/-- The classes of same cells that there are in a column. -/
def classes (t : Table) (i : Nat) : Finset (Quotient Cell.setoid) :=
  ((t.column i).map (Quotient.mk Cell.setoid)).toFinset

variable {t : Table} {i : Nat}

theorem firstSeen_column : firstSeen [] (t.column i) =
    (t.firstMembers i).map fun k => (t.row k).cell i := by
  have hlength : (t.column i).length = t.size := List.length_map _
  have hpositions : newPositions [] (t.column i) = t.firstMembers i := by
    unfold newPositions firstMembers
    rw [hlength]
    apply List.filter_congr
    intro k _
    simp only [cell_row, Cell.same_iff_key, List.not_mem_nil, not_false_eq_true, true_and]
  rw [firstSeen_eq_map_newPositions, hpositions]
  simp only [cell_row]

/-- Each class has one first member. -/
theorem card_classes : (t.classes i).card = (firstSeen [] (t.column i)).length := by
  have hclass : ∀ a b : Cell, Quotient.mk Cell.setoid a = Quotient.mk Cell.setoid b ↔ a.key = b.key :=
    fun a b => Quotient.eq.trans Cell.same_iff_key
  have hnodup : ((firstSeen [] (t.column i)).map (Quotient.mk Cell.setoid)).Nodup := by
    have hkeys : ((firstSeen [] (t.column i)).map Cell.key).Nodup := nodup_keys_firstSeen
    rw [List.Nodup, List.pairwise_map] at hkeys ⊢
    apply hkeys.imp
    intro a b hne heq
    exact hne ((hclass a b).1 heq)
  have hcover : t.classes i = ((firstSeen [] (t.column i)).map (Quotient.mk Cell.setoid)).toFinset := by
    ext q
    simp only [classes, List.mem_toFinset, List.mem_map]
    constructor
    · rintro ⟨c, hc, rfl⟩
      have hkey : c.key ∈ (firstSeen [] (t.column i)).map Cell.key :=
        mem_keys_firstSeen.2 ⟨List.mem_map_of_mem hc, List.not_mem_nil⟩
      obtain ⟨d, hd, hsame⟩ := List.mem_map.1 hkey
      exact ⟨d, hd, (hclass d c).2 hsame⟩
    · rintro ⟨c, hc, rfl⟩
      exact ⟨c, firstSeen_sublist.subset hc, rfl⟩
  rw [hcover, List.toFinset_card_of_nodup hnodup, List.length_map]

theorem repeatedNumbers_singleton_eq_nil_iff : t.repeatedNumbers [i] = [] ↔
    ∀ k < t.size, ∀ j < k, ¬((t.row j).cell i).Same ((t.row k).cell i) := by
  simp only [List.eq_nil_iff_forall_not_mem, mem_repeatedNumbers_iff, rowsAgree_singleton, not_and,
    not_exists]
  constructor
  · intro h k hk j hj
    exact h k hk j (hj.trans hk) hj.ne
  · intro h k hk j hj hne hsame
    obtain hlt | hgt := Nat.lt_or_gt_of_ne hne
    · exact h k hk j hlt hsame
    · exact h j hj k hgt hsame.symm

/-- The distinct values of a column are its cells that are not the same as an earlier one, in the order of
the rows and as they stand there, and their number is that of all classes, whatever the limit. It reaches
the number of rows exactly when no two rows agree on the column. -/
theorem unique_of_firstMembers (t : Table) (i limit : Nat) :
    let found := t.unique i limit
    found.count = (t.classes i).card ∧ found.count = (t.firstMembers i).length ∧
      found.values = ((t.firstMembers i).map fun k => (t.row k).cell i).take (min limit found.count) ∧
      found.count ≤ t.size ∧ (∀ limit', (t.unique i limit').count = found.count) ∧
      ∀ sample, found.count = t.size ↔ (t.duplicates [i] sample).count = 0 := by
  intro found
  have hcount : found.count = (t.firstMembers i).length := by
    have hlength := congrArg List.length (firstSeen_column (t := t) (i := i))
    rwa [List.length_map] at hlength
  have hvalues : found.values = ((t.firstMembers i).map fun k => (t.row k).cell i).take limit :=
    congrArg (List.take limit) firstSeen_column
  refine ⟨card_classes.symm, hcount, ?_, ?_, fun _ => rfl, ?_⟩
  · rw [hvalues, hcount, List.take_eq_take_min, List.length_map]
  · rw [hcount]
    exact (List.length_filter_le _ _).trans List.length_range.le
  · intro sample
    have hrepeated : (t.duplicates [i] sample).count = (t.repeatedNumbers [i]).length :=
      congrArg RepeatedRows.count (t.duplicates_eq [i] sample)
    have hall : (t.firstMembers i).length = t.size ↔
        ∀ k < t.size, ∀ j < k, ¬((t.row j).cell i).Same ((t.row k).cell i) := by
      have hrange : (t.firstMembers i).length = (List.range t.size).length ↔ _ :=
        List.length_filter_eq_length_iff
      simpa only [List.length_range, List.mem_range, decide_eq_true_eq] using hrange
    rw [hcount, hrepeated, List.length_eq_zero_iff, hall, repeatedNumbers_singleton_eq_nil_iff]

/-- Zero and NaN are listed as they are seen first; a row that is too short has null. -/
example :
    let t : Table := ⟨⟨[⟨"x", .float64⟩]⟩, [[.float (-0)], [], [.float .nan], [.float 0], [.null]]⟩
    t.unique 0 2 = ⟨3, [.float (-0), .null]⟩ ∧ t.firstMembers 0 = [0, 1, 2] ∧
      (t.duplicates [0] 10).count = 4 := by
  decide +kernel

end Table

end TableReport
