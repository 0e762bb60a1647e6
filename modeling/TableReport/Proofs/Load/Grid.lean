import Mathlib.Data.List.Nodup
import TableReport.Load.CellRules
import TableReport.Proofs.Outcome
/-!
# Records under headers

Wanted columns are found by their names among the headers. Two grids that have the same columns of the
wanted names give the same rows, wherever the columns stand in them, or else the same wanted column is
missing in both.
-/
namespace TableReport

/-- The same complaint, but for the headers among which a column is missing. -/
inductive ShapeProblem.Same : ShapeProblem → ShapeProblem → Prop
  | rfl (p : ShapeProblem) : Same p p
  | missingColumn (name : String) (headers headers' : List String) :
    Same (.missingColumn name headers) (.missingColumn name headers')
  | inSheet (sheet : String) {p p' : ShapeProblem} (h : Same p p') :
    Same (.inSheet sheet p) (.inSheet sheet p')

inductive LoadError.Same : LoadError → LoadError → Prop
  | rfl (e : LoadError) : Same e e
  | shape {p p' : ShapeProblem} (h : p.Same p') : Same (.shape p) (.shape p')

/-- Records, and the names of the columns they stand in. -/
structure Grid (α : Type) where
  headers : List String
  records : List (List α)

namespace Grid

variable {α : Type} {blank : α} {names : List String} {g g' : Grid α}

/-- The values of the records at a position. -/
def column (g : Grid α) (blank : α) (i : Nat) : List α := g.records.map (·.getD i blank)

/-- The columns in order, with their names. -/
def columns (g : Grid α) (blank : α) : List (String × List α) :=
  g.headers.zipIdx.map fun (name, i) => (name, g.column blank i)

/-- The columns that have one of the given names. -/
def columnsNamed (g : Grid α) (names : List String) (blank : α) : List (String × List α) :=
  (g.columns blank).filter (·.1 ∈ names)

/-- The rows with the values at given positions; the first one has number two. -/
def rows (g : Grid α) (blank : α) (sheet : Option String) (positions : List Nat) :
    List (SourceRow α) :=
  (g.records.zipIdx 2).map fun (values, number) =>
    ⟨⟨number, sheet⟩, positions.map (values.getD · blank)⟩

/-- There are as many records in both, and the columns with the given names are the same, in whatever order.
No two of these have the same name. -/
structure SameColumns (names : List String) (blank : α) (g g' : Grid α) : Prop where
  length : g.records.length = g'.records.length
  columns : (g.columnsNamed names blank).Perm (g'.columnsNamed names blank)
  distinct : ((g.columnsNamed names blank).map Prod.fst).Nodup

theorem map_fst_columns (g : Grid α) (blank : α) : (g.columns blank).map Prod.fst = g.headers := by
  rw [columns, List.map_map]
  exact List.zipIdx_map_fst 0 g.headers

/-- Different headers are enough. -/
theorem nodup_columnsNamed (h : g.headers.Nodup) (names : List String) (blank : α) :
    ((g.columnsNamed names blank).map Prod.fst).Nodup := by
  rw [← g.map_fst_columns blank] at h
  exact h.sublist (List.filter_sublist.map Prod.fst)

theorem exists_mem_columnsNamed_iff {name : String} (hname : name ∈ names) :
    (∃ values, (name, values) ∈ g.columnsNamed names blank) ↔ name ∈ g.headers := by
  rw [← g.map_fst_columns blank]
  simp [columnsNamed, hname]

theorem mem_columnsNamed_of_findIdx? {name : String} {i : Nat}
    (h : g.headers.findIdx? (· == name) = some i) (hname : name ∈ names) (blank : α) :
    (name, g.column blank i) ∈ g.columnsNamed names blank := by
  obtain ⟨hi, heq, -⟩ := List.findIdx?_eq_some_iff_getElem.1 h
  refine List.mem_filter.2 ⟨List.mem_map.2 ⟨(name, i), ?_, rfl⟩, decide_eq_true hname⟩
  rw [List.mem_zipIdx_iff_getElem?, List.getElem?_eq_getElem hi, beq_iff_eq.1 heq]

theorem findIdx?_eq_none_iff {headers : List String} {name : String} :
    headers.findIdx? (· == name) = none ↔ name ∉ headers := by
  rw [List.findIdx?_eq_none_iff]
  constructor
  · intro h hmem
    simpa using h name hmem
  · intro h other hother
    rw [beq_eq_false_iff_ne]
    rintro rfl
    exact h hother

/-- Each wanted column is found in both or in neither, and it is the same one. -/
theorem SameColumns.agree_findColumns (h : SameColumns names blank g g') :
    Agree ShapeProblem.Same (List.Forall₂ fun i i' => g.column blank i = g'.column blank i')
      (findColumns g.headers names) (findColumns g'.headers names) := by
  refine Agree.mapM fun name hname => ?_
  have hheaders : name ∈ g.headers ↔ name ∈ g'.headers := by
    rw [← exists_mem_columnsNamed_iff hname, ← exists_mem_columnsNamed_iff hname]
    exact exists_congr fun _ => h.columns.mem_iff
  cases hi : g.headers.findIdx? (· == name) with
  | none =>
    rw [findIdx?_eq_none_iff, hheaders, ← findIdx?_eq_none_iff] at hi
    rw [hi]
    exact .error (.missingColumn name g.headers g'.headers)
  | some i =>
    cases hi' : g'.headers.findIdx? (· == name) with
    | none =>
      rw [findIdx?_eq_none_iff, ← hheaders, ← findIdx?_eq_none_iff, hi] at hi'
      cases hi'
    | some i' =>
      have hmem := mem_columnsNamed_of_findIdx? hi hname blank
      have hmem' := h.columns.mem_iff.2 (mem_columnsNamed_of_findIdx? hi' hname blank)
      exact .ok (Prod.mk.inj (List.inj_on_of_nodup_map h.distinct hmem hmem' rfl)).2

/-- Where the values of a column stand is not seen in the rows. -/
theorem rows_eq (hlength : g.records.length = g'.records.length) {sheet : Option String}
    {positions positions' : List Nat}
    (h : List.Forall₂ (fun i i' => g.column blank i = g'.column blank i') positions positions') :
    g.rows blank sheet positions = g'.rows blank sheet positions' := by
  apply List.ext_getElem
  · simp [rows, hlength]
  · intro k hrow hrow'
    have hk : k < g.records.length := by simpa [rows] using hrow
    have hk' : k < g'.records.length := hlength ▸ hk
    have hvalues : List.Forall₂ (· = ·) (positions.map (g.records[k].getD · blank))
        (positions'.map (g'.records[k].getD · blank)) := by
      rw [List.forall₂_map_left_iff, List.forall₂_map_right_iff]
      refine h.imp fun i i' hcolumn => ?_
      have hvalue := congrArg (·[k]?) hcolumn
      simpa [column, hk, hk'] using hvalue
    rw [List.forall₂_eq_eq_eq] at hvalues
    simp only [rows, List.getElem_map, List.getElem_zipIdx, hvalues]

theorem SameColumns.agree_rows (h : SameColumns names blank g g') (sheet : Option String) :
    Agree ShapeProblem.Same (· = ·) ((findColumns g.headers names).map (g.rows blank sheet))
      ((findColumns g'.headers names).map (g'.rows blank sheet)) :=
  h.agree_findColumns.map fun _ _ => rows_eq h.length

/-- The grid with the columns at given positions, in their order. -/
def arrange (g : Grid α) (blank : α) (order : List Nat) : Grid α :=
  ⟨order.map (g.headers.getD · ""), g.records.map fun values => order.map (values.getD · blank)⟩

theorem columns_eq_map (g : Grid α) (blank : α) : g.columns blank =
    (List.range g.headers.length).map fun i => (g.headers.getD i "", g.column blank i) := by
  apply List.ext_getElem
  · simp [columns]
  · intro i hi hi'
    have hlength : i < g.headers.length := by simpa using hi'
    simp [columns, hlength]

theorem columns_arrange (g : Grid α) (blank : α) (order : List Nat) :
    (g.arrange blank order).columns blank =
      order.map fun i => (g.headers.getD i "", g.column blank i) := by
  apply List.ext_getElem
  · simp [columns, arrange]
  · intro i hi hi'
    have hlength : i < order.length := by simpa using hi'
    simp [columns, arrange, column, hlength]

/-- Columns may be put into another order, and those without a given name may be left out. -/
theorem sameColumns_arrange {order : List Nat} (hheaders : g.headers.Nodup) (hnodup : order.Nodup)
    (hwithin : ∀ i ∈ order, i < g.headers.length)
    (hnamed : ∀ i < g.headers.length, g.headers.getD i "" ∈ names → i ∈ order) :
    SameColumns names blank g (g.arrange blank order) where
  length := by simp [arrange]
  columns := by
    rw [columnsNamed, columnsNamed, columns_eq_map, columns_arrange, List.filter_map, List.filter_map]
    apply List.Perm.map
    rw [List.perm_ext_iff_of_nodup (List.nodup_range.filter _) (hnodup.filter _)]
    intro i
    simp only [List.mem_filter, List.mem_range, Function.comp_apply, decide_eq_true_eq]
    constructor
    · rintro ⟨hi, hname⟩
      exact ⟨hnamed i hi hname, hname⟩
    · rintro ⟨hi, hname⟩
      exact ⟨hwithin i hi, hname⟩
  distinct := nodup_columnsNamed hheaders names blank

end Grid

end TableReport
