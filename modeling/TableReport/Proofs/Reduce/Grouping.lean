import TableReport.Proofs.Outcome
import TableReport.Proofs.Table.CellOrder
import TableReport.Reduce.Grouping
/-!
# Groups partition the rows

Over a key column of one type, the groups stand in ascending order of their keys, each key that a row has
is the key of exactly one group, and its total is that of the values of all rows with that key, in row
order.
-/
namespace TableReport

namespace Group

/-- The values of the entries with a key. -/
def valuesOf (k : Cell) (entries : List (Cell × Cell)) : List Cell :=
  (entries.filter (·.1 = k)).map Prod.snd

/-- Totals of entries by key: each key once, in ascending order. -/
structure Totals (type : ColumnType) (entries : List (Cell × Cell)) (parts : List (Cell × Total)) :
    Prop where
  ascending : (parts.map Prod.fst).Pairwise fun a b => a.order b = .lt
  mem_keys_iff : ∀ k, k ∈ parts.map Prod.fst ↔ k ∈ entries.map Prod.fst
  total_eq : ∀ k total, (k, total) ∈ parts → total = .ofCells type (valuesOf k entries)

section Values

variable {k : Cell} {entries more : List (Cell × Cell)} {values : List Cell}

theorem valuesOf_append : valuesOf k (entries ++ more) = valuesOf k entries ++ valuesOf k more := by
  simp [valuesOf]

theorem valuesOf_run_self : valuesOf k (values.map (k, ·)) = values := by
  rw [valuesOf, List.filter_map, List.map_map, List.filter_eq_self.2 (by simp)]
  exact List.map_id values

theorem valuesOf_eq_nil_iff : valuesOf k entries = [] ↔ k ∉ entries.map Prod.fst := by
  rw [valuesOf, List.map_eq_nil_iff, List.filter_eq_nil_iff]
  constructor
  · intro h hk
    obtain ⟨e, he, rfl⟩ := List.mem_map.1 hk
    exact h e he (decide_eq_true rfl)
  · intro h e he heq
    exact h (of_decide_eq_true heq ▸ List.mem_map_of_mem he)

end Values

/-! ### Runs of sorted entries -/

section Runs

variable {type keyType : ColumnType} {key : Cell} {values : List Cell}
  {entries : List (Cell × Cell)} {parts : List (Cell × Total)}

/-- A run in front of entries with greater keys makes one more group. -/
theorem Totals.cons (h : Totals type entries parts)
    (hless : ∀ k ∈ entries.map Prod.fst, key.order k = .lt) (hfresh : key ∉ entries.map Prod.fst)
    (hvalues : values ≠ []) :
    Totals type (values.map (key, ·) ++ entries) ((key, .ofCells type values) :: parts) where
  ascending :=
    List.pairwise_cons.2 ⟨fun k hk => hless k ((h.mem_keys_iff k).1 hk), h.ascending⟩
  mem_keys_iff k := by
    obtain ⟨v, values, rfl⟩ := List.exists_cons_of_ne_nil hvalues
    rw [List.map_cons, List.mem_cons, h.mem_keys_iff]
    simp
    tauto
  total_eq k total hmem := by
    rw [valuesOf_append]
    rcases List.mem_cons.1 hmem with heq | hmem
    · obtain ⟨rfl, rfl⟩ := Prod.mk.inj heq
      rw [valuesOf_run_self, valuesOf_eq_nil_iff.2 hfresh, List.append_nil]
    · have hk : k ∈ entries.map Prod.fst := (h.mem_keys_iff k).1 (List.mem_map_of_mem hmem)
      have hne : k ≠ key := fun heq => hfresh (heq ▸ hk)
      have hother : valuesOf k (values.map (key, ·)) = [] := by
        refine valuesOf_eq_nil_iff.2 fun hk => ?_
        rw [List.map_map] at hk
        obtain ⟨v, -, heq⟩ := List.mem_map.1 hk
        exact hne heq.symm
      rw [hother, List.nil_append, h.total_eq k total hmem]

/-- The run that has begun has taken up some values already. -/
theorem totals_runs (hof : ∀ k ∈ key :: entries.map Prod.fst, k.IsOf keyType)
    (hsorted : Ascending Cell.order (key :: entries.map Prod.fst)) (hvalues : values ≠ []) :
    Totals type (values.map (key, ·) ++ entries)
      (runs type key (.ofCells type values) entries) := by
  induction entries generalizing key values with
  | nil =>
    have hnil : Totals type [] [] := ⟨List.Pairwise.nil, fun _ => Iff.rfl, fun _ _ h => nomatch h⟩
    exact hnil.cons (fun k hk => nomatch hk) (fun hk => nomatch hk) hvalues
  | cons e rest ih =>
    obtain ⟨k, v⟩ := e
    have hkey : key.IsOf keyType := hof key List.mem_cons_self
    have hk : k.IsOf keyType := hof k (List.mem_cons_of_mem _ List.mem_cons_self)
    have hrest : ∀ k' ∈ k :: rest.map Prod.fst, k'.IsOf keyType :=
      fun k' hk' => hof k' (List.mem_cons_of_mem _ hk')
    obtain ⟨hle, htail⟩ := List.pairwise_cons.1 hsorted
    unfold runs
    split
    case isTrue heq =>
      obtain rfl := (hkey.order?_eq_iff hk).1 heq
      have hnext : Totals type ((values ++ [v]).map (key, ·) ++ rest)
          (runs type key (.ofCells type (values ++ [v])) rest) := ih hrest htail (by simp)
      rw [List.map_append, List.append_assoc, Total.ofCells, List.foldl_append] at hnext
      exact hnext
    case isFalse hne =>
      have hnext : Totals type ([v].map (k, ·) ++ rest) (runs type k (.ofCells type [v]) rest) :=
        ih hrest htail (by simp)
      -- Every key from here on is at least `k`, which is above the key of the run that ends.
      have hlt : key.order k = .lt :=
        (hkey.order_lt_iff hk).2
          ⟨hle k List.mem_cons_self, fun heq => hne ((hkey.order?_eq_iff hk).2 heq)⟩
      have hless : ∀ k' ∈ k :: rest.map Prod.fst, key.order k' = .lt := by
        intro k' hk'
        rcases List.mem_cons.1 hk' with rfl | hmem
        · exact hlt
        · exact hkey.order_lt_of_lt_of_isLE hk (hrest k' hk') hlt
            ((List.pairwise_cons.1 htail).1 k' hmem)
      refine hnext.cons hless (fun hmem => ?_) hvalues
      exact ((hkey.order_lt_iff hkey).1 (hless key hmem)).2 rfl

theorem totals_partition_of_sorted (hof : ∀ k ∈ entries.map Prod.fst, k.IsOf keyType)
    (hsorted : Ascending Cell.order (entries.map Prod.fst)) :
    Totals type entries (partition type entries) := by
  cases entries with
  | nil => exact ⟨List.Pairwise.nil, fun _ => Iff.rfl, fun _ _ h => nomatch h⟩
  | cons e rest => 
    have h : Totals type ([e.2].map (e.1, ·) ++ rest) _ := totals_runs hof hsorted (by simp)
    exact h

end Runs

/-! ### Groups of any entries -/

variable {type keyType : ColumnType} {entries : List (Cell × Cell)}

/-- Sorting leaves the values of each key in their order. -/
theorem valuesOf_sortEntries (hof : ∀ e ∈ entries, e.1.IsOf keyType) (k : Cell) :
    valuesOf k (sortEntries entries) = valuesOf k entries := by
  have hperm : (sortEntries entries).Perm entries := sortBy_perm _ entries
  by_cases hk : k ∈ entries.map Prod.fst
  · obtain ⟨e, he, rfl⟩ := List.mem_map.1 hk
    have hfilter : (sortEntries entries).filter (fun x => x.1.order e.1 == .eq) =
        entries.filter (fun x => x.1.order e.1 == .eq) := (lawfulOn_order hof).filter_sortBy he
    have hsame : ∀ x ∈ entries, (x.1.order e.1 == .eq) = decide (x.1 = e.1) := by
      intro x hx
      rw [Bool.eq_iff_iff, beq_iff_eq, decide_eq_true_iff]
      exact (hof x hx).order_eq_iff (hof e he)
    rw [List.filter_congr hsame] at hfilter
    rw [List.filter_congr fun x hx => hsame x (hperm.mem_iff.1 hx)] at hfilter
    exact congrArg (List.map Prod.snd) hfilter
  · rw [valuesOf_eq_nil_iff.2 hk, valuesOf_eq_nil_iff]
    rwa [(hperm.map Prod.fst).mem_iff]

theorem totals_partition (hof : ∀ e ∈ entries, e.1.IsOf keyType) :
    Totals type entries (partition type (sortEntries entries)) := by
  have hperm : (sortEntries entries).Perm entries := sortBy_perm _ entries
  have hsorted : Ascending Cell.order ((sortEntries entries).map Prod.fst) :=
    List.pairwise_map.2 (lawfulOn_order hof).sortBy_ascending
  have hof' : ∀ k ∈ (sortEntries entries).map Prod.fst, k.IsOf keyType := by
    intro k hk
    obtain ⟨e, he, rfl⟩ := List.mem_map.1 hk
    exact hof e (hperm.mem_iff.1 he)
  have h : Totals type _ (partition type (sortEntries entries)) :=
    totals_partition_of_sorted hof' hsorted
  refine ⟨h.ascending, fun k => ?_, fun k total hmem => ?_⟩
  · rw [h.mem_keys_iff, (hperm.map Prod.fst).mem_iff]
  · rw [h.total_eq k total hmem, valuesOf_sortEntries hof]

end Group

/-! ### Groups of a table -/

/-- Nothing adds up to zero, which is in range. -/
theorem Total.finish_ofCells_nil (type : ColumnType) (column : String) :
    ∃ c, (Total.ofCells type []).finish column = .ok c := by
  cases type <;> exact ⟨_, rfl⟩

namespace Table

variable {t : Table} {key value : Nat}

/-- The values of one column in the rows that have a key in another. -/
def groupCells (t : Table) (key value : Nat) (k : Cell) : List Cell :=
  (t.rows.filter fun row => !(row.cell key).isMissing && (row.cell key).key = k).map (Row.cell · value)

theorem valuesOf_entries (k : Cell) :
    Group.valuesOf k (Group.entries t key value) = t.groupCells key value k := by
  unfold Group.valuesOf Group.entries groupCells
  induction t.rows with
  | nil => rfl
  | cons row rows ih =>
    cases hmissing : (row.cell key).isMissing <;> by_cases hkey : (row.cell key).key = k <;>
      simp_all

/-- The key of a row is of the type of its column, and not missing. -/
theorem WellFormed.key_of_mem_entries (ht : t.WellFormed) {e : Cell × Cell}
    (he : e ∈ Group.entries t key value) : e.1.IsOf (t.typeAt key) ∧ e.1.isMissing = false := by
  obtain ⟨row, hrow, he⟩ := List.mem_filterMap.1 he
  split at he
  · cases he
  case isFalse hpresent =>
    obtain rfl := Option.some.inj he
    rw [Bool.not_eq_true] at hpresent
    have hcell : row.cell key ∈ t.column key := List.mem_map_of_mem hrow
    exact ⟨(ht.isOf_of_mem_column hcell hpresent).key, (Cell.isMissing_key _).trans hpresent⟩

/-- The totals of a well-formed table by key. -/
def parts (t : Table) (key value : Nat) : List (Cell × Total) :=
  Group.partition (t.typeAt value) (Group.sortEntries (Group.entries t key value))

theorem WellFormed.totals (ht : t.WellFormed) (key value : Nat) :
    Group.Totals (t.typeAt value) (Group.entries t key value) (t.parts key value) :=
  Group.totals_partition fun _ he => (ht.key_of_mem_entries he).1

theorem WellFormed.mem_keys_parts_iff (ht : t.WellFormed) (key value : Nat) (k : Cell) :
    k ∈ (t.parts key value).map Prod.fst ↔ t.groupCells key value k ≠ [] := by
  rw [(ht.totals key value).mem_keys_iff, ← valuesOf_entries, ne_eq, Group.valuesOf_eq_nil_iff,
    not_not]

/-- The groups are the totals by key, each of them finished. -/
theorem WellFormed.groupSum_eq_mapM (ht : t.WellFormed) (key value : Nat) :
    t.groupSum key value = ((t.parts key value).map Prod.fst).mapM fun k =>
      ((Total.ofCells (t.typeAt value) (t.groupCells key value k)).finish (t.nameAt value)).map
        (Group.mk k) := by
  rw [List.mapM_map]
  apply mapM_congr
  rintro ⟨k, total⟩ hp
  rw [(ht.totals key value).total_eq k total hp, valuesOf_entries]
  rfl

theorem groupSum_keys {groups : List Group} (h : t.groupSum key value = .ok groups) :
    groups.map Group.key = (t.parts key value).map Prod.fst := by
  have hkeys : List.Forall₂ (fun (p : Cell × Total) g => p.1 = g.key) (t.parts key value) groups := by
    apply (mapM_eq_ok_iff.1 h).imp
    intro p g hg
    obtain ⟨total, -, rfl⟩ := map_eq_ok hg
    rfl
  rw [← List.forall₂_map_right_iff, ← List.forall₂_map_left_iff, List.forall₂_eq_eq_eq] at hkeys
  exact hkeys.symm

/-- Groups stand in ascending order of their keys, so that no two have the same. -/
theorem WellFormed.groupSum_ascending (ht : t.WellFormed) {groups : List Group}
    (h : t.groupSum key value = .ok groups) :
    (groups.map Group.key).Pairwise fun a b => a.order b = .lt := by
  rw [groupSum_keys h]
  exact (ht.totals key value).ascending

theorem WellFormed.groupSum_key (ht : t.WellFormed) {groups : List Group}
    (h : t.groupSum key value = .ok groups) {g : Group} (hg : g ∈ groups) :
    g.key.IsOf (t.typeAt key) ∧ g.key.isMissing = false := by
  have hmem : g.key ∈ (t.parts key value).map Prod.fst := groupSum_keys h ▸ List.mem_map_of_mem hg
  obtain ⟨e, he, hkey⟩ := List.mem_map.1 (((ht.totals key value).mem_keys_iff g.key).1 hmem)
  exact hkey ▸ ht.key_of_mem_entries he

/-- There is a group for each key that a row has. -/
theorem WellFormed.mem_groupSum_keys_iff (ht : t.WellFormed) {groups : List Group}
    (h : t.groupSum key value = .ok groups) (k : Cell) :
    k ∈ groups.map Group.key ↔ t.groupCells key value k ≠ [] := by
  rw [groupSum_keys h, ht.mem_keys_parts_iff]

/-- The total of a group is that of the rows with its key, in their order. -/
theorem WellFormed.groupSum_total (ht : t.WellFormed) {groups : List Group}
    (h : t.groupSum key value = .ok groups) {g : Group} (hg : g ∈ groups) :
    (Total.ofCells (t.typeAt value) (t.groupCells key value g.key)).finish (t.nameAt value) =
      .ok g.total := by
  rw [ht.groupSum_eq_mapM] at h
  obtain ⟨k, -, hfinish⟩ := exists_of_mem_mapM h hg
  obtain ⟨c, hc, rfl⟩ := map_eq_ok hfinish
  exact hc

/-- A sum by groups comes out exactly when the total of each key does. -/
theorem WellFormed.exists_groupSum_iff (ht : t.WellFormed) :
    (∃ groups, t.groupSum key value = .ok groups) ↔
      ∀ k, ∃ c, (Total.ofCells (t.typeAt value) (t.groupCells key value k)).finish (t.nameAt value) =
        .ok c := by
  rw [ht.groupSum_eq_mapM, exists_mapM_eq_ok_iff]
  simp only [exists_map_eq_ok_iff]
  constructor
  · intro h k
    by_cases hk : t.groupCells key value k = []
    · rw [hk]
      exact Total.finish_ofCells_nil _ _
    · exact h k ((ht.mem_keys_parts_iff key value k).2 hk)
  · intro h k _
    exact h k

end Table

end TableReport
