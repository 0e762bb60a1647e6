import TableReport.Load.CellRules
import TableReport.Proofs.Outcome
import TableReport.Proofs.Table.WellFormed
/-!
# Tables of source rows

Rules for cells are lawful when what they make of a value fits its column, and is null for just those
values that look like nothing. A table that such rules make of rows as wide as its schema is well
formed, and the columns of type null among the inferred ones are those without any value.
-/
namespace TableReport

theorem ColumnType.ofKinds_eq_null_iff {kinds : List CellKind} :
    ofKinds kinds = .null ↔ kinds = [] := by
  constructor
  · intro h
    rw [List.eq_nil_iff_forall_not_mem]
    intro kind hkind
    have hseen : kinds.contains kind = true := List.contains_iff_mem.2 hkind
    unfold ofKinds at h
    cases kind <;> grind
  · rintro rfl
    rfl

namespace CellRules

variable {α : Type}

/-- What a value becomes fits its column, and is null just when the value is missing or its column has
no values. -/
structure Lawful (rules : CellRules α) : Prop where
  fits : ∀ {type v c}, rules.cell type v = .ok c → c.fits type = true
  null_iff : ∀ {type v c}, rules.cell type v = .ok c →
    (c = .null ↔ rules.kind? v = none ∨ type = .null)

variable {rules : CellRules α} {schema : Schema} {rows : List (SourceRow α)} {t : Table}

/-! ### Rows -/

section Rows

variable {row : SourceRow α} {cells : Row}

theorem cells_eq_ok (h : row.cells rules schema = .ok cells) :
    List.Forall₂ (fun (p : Field × α) c => rules.cell p.1.type p.2 = .ok c)
      (schema.fields.zip row.values) cells := by
  refine (mapM_eq_ok_iff.1 h).imp fun p c hc => ?_
  exact mapError_eq_ok.1 hc

theorem fits_of_cells (hrules : rules.Lawful) (hwidth : row.values.length = schema.width)
    (h : row.cells rules schema = .ok cells) : cells.Fits schema := by
  have hfields : (schema.fields.zip row.values).map Prod.fst = schema.fields :=
    List.map_fst_zip (Nat.le_of_eq hwidth.symm)
  rw [Row.Fits, ← hfields, List.forall₂_map_right_iff]
  exact ((cells_eq_ok h).imp fun p c hc => hrules.fits hc).flip

/-- The cell at a position is made of the value there. -/
theorem cell_of_cells {i : Nat} {field : Field} {value : α} (h : row.cells rules schema = .ok cells)
    (hfield : schema.fields[i]? = some field) (hvalue : row.values[i]? = some value) :
    rules.cell field.type value = .ok (cells.cell i) := by
  have hcells := cells_eq_ok h
  have hpair : (schema.fields.zip row.values)[i]? = some (field, value) := by
    rw [List.getElem?_zip_eq_some]
    exact ⟨hfield, hvalue⟩
  obtain ⟨hi, hget⟩ := List.getElem?_eq_some_iff.1 hpair
  have hi' : i < cells.length := Nat.lt_of_lt_of_eq hi hcells.length_eq
  have hcell := hcells.get hi hi'
  simp only [List.get_eq_getElem, hget] at hcell
  rw [hcell, Row.cell, List.getD_eq_getElem?_getD, List.getElem?_eq_getElem hi', Option.getD_some]

end Rows

/-! ### Tables -/

theorem table_eq_ok (h : rules.table schema rows = .ok t) :
    t.schema = schema ∧ rows.mapM (·.cells rules schema) = .ok t.rows := by
  obtain ⟨cells, hcells, h⟩ := bind_eq_ok h
  obtain rfl := Except.ok.inj h
  exact ⟨rfl, hcells⟩

/-- A table is made when each value has a cell of the type of its column. -/
theorem exists_table_iff : (∃ t, rules.table schema rows = .ok t) ↔
    ∀ row ∈ rows, ∀ p ∈ schema.fields.zip row.values, ∃ c, rules.cell p.1.type p.2 = .ok c := by
  rw [table, exists_bind_ok_iff, exists_mapM_eq_ok_iff]
  refine forall₂_congr fun row hrow => ?_
  rw [SourceRow.cells, exists_mapM_eq_ok_iff]
  simp only [RowPlace.cell, mapError_eq_ok]

/-- No table is made when a value has no cell of the type of its column. -/
theorem table_eq_error {e : LoadError} (h : rules.table schema rows = .error e) :
    ∃ row ∈ rows, ∃ p ∈ schema.fields.zip row.values, ∃ problem,
      rules.cell p.1.type p.2 = .error problem ∧
        e = .value row.place.number (row.place.label p.1.name) (rules.shown p.2) problem := by
  obtain hrows | ⟨cells, -, h⟩ := bind_eq_error h
  · obtain ⟨row, hrow, hcells⟩ := exists_of_mapM_error hrows
    obtain ⟨p, hp, hcell⟩ := exists_of_mapM_error hcells
    obtain ⟨problem, hproblem, rfl⟩ := mapError_eq_error hcell
    exact ⟨row, hrow, p, hp, problem, hproblem, rfl⟩
  · cases h

theorem wellFormed_of_table (hrules : rules.Lawful)
    (hwidth : ∀ row ∈ rows, row.values.length = schema.width) (h : rules.table schema rows = .ok t) :
    t.WellFormed := by
  obtain ⟨rfl, hrows⟩ := table_eq_ok h
  intro cells hcells
  obtain ⟨row, hrow, h⟩ := exists_of_mem_mapM hrows hcells
  exact fits_of_cells hrules (hwidth row hrow) h

section Inference

variable {names : List String}

theorem inferSchema_names (values : List (List α)) :
    (rules.inferSchema names values).names = names := by
  simp [Schema.names, inferSchema, Function.comp_def]

theorem inferSchema_type {values : List (List α)} {i : Nat} {field : Field}
    (h : (rules.inferSchema names values).fields[i]? = some field) :
    field.type = .ofKinds (rules.kindsAt values i) := by
  simp only [inferSchema, List.getElem?_map, Option.map_eq_some_iff] at h
  obtain ⟨⟨name, j⟩, hname, rfl⟩ := h
  rw [List.getElem?_zipIdx, Option.map_eq_some_iff] at hname
  obtain ⟨name', -, hpair⟩ := hname
  obtain ⟨-, rfl⟩ := Prod.mk.inj hpair
  rw [Nat.zero_add]

theorem inferTable_eq_ok (h : rules.inferTable names rows = .ok t) :
    names.Nodup ∧
      rules.table (rules.inferSchema names (rows.map SourceRow.values)) rows = .ok t := by
  have hdup : (rules.inferSchema names (rows.map SourceRow.values)).firstDuplicate? = none := by
    cases hfirst : (rules.inferSchema names (rows.map SourceRow.values)).firstDuplicate? with
    | none => rfl
    | some name => simp [inferTable, hfirst] at h
  have hnames := Schema.firstDuplicate?_eq_none_iff.1 hdup
  rw [inferSchema_names] at hnames
  simp only [inferTable, hdup] at h
  exact ⟨hnames, h⟩

/-- A column with a value among the source rows is not empty in the table. -/
theorem exists_present (hrules : rules.Lawful) {i : Nat} {field : Field} {kind : CellKind}
    (h : rules.table schema rows = .ok t) (hfield : schema.fields[i]? = some field)
    (htype : field.type ≠ .null) (hkind : kind ∈ rules.kindsAt (rows.map SourceRow.values) i) :
    ∃ c ∈ t.column i, c ≠ .null := by
  obtain ⟨rfl, hrows⟩ := table_eq_ok h
  obtain ⟨values, hvalues, hkind⟩ := List.mem_filterMap.1 hkind
  obtain ⟨row, hrow, rfl⟩ := List.mem_map.1 hvalues
  obtain ⟨value, hvalue, hkind⟩ := Option.bind_eq_some_iff.1 hkind
  obtain ⟨cells, hmem, hcells⟩ := exists_of_mapM_mem hrows hrow
  refine ⟨cells.cell i, List.mem_map_of_mem hmem, ?_⟩
  intro hnull
  rcases (hrules.null_iff (cell_of_cells hcells hfield hvalue)).1 hnull with hnone | hnull
  · exact absurd (hnone.symm.trans hkind) (by simp)
  · exact htype hnull

theorem inferred_of_inferTable (hrules : rules.Lawful)
    (hwidth : ∀ row ∈ rows, row.values.length = names.length)
    (h : rules.inferTable names rows = .ok t) : t.WellFormed ∧ t.Inferred := by
  obtain ⟨hnodup, h⟩ := inferTable_eq_ok h
  have hschema := (table_eq_ok h).1
  have hwell : t.WellFormed := by
    refine wellFormed_of_table hrules (fun row hrow => ?_) h
    simp [Schema.width, inferSchema, hwidth row hrow]
  refine ⟨hwell, ?_, ?_⟩
  · rw [hschema, inferSchema_names]
    exact hnodup
  · intro i hi
    constructor
    · intro htype c hc
      exact Cell.fits_null_iff.1 (htype ▸ hwell.fits_of_mem_column hc)
    · intro hnull
      obtain ⟨field, hfield⟩ : ∃ field, t.schema.fields[i]? = some field :=
        ⟨_, List.getElem?_eq_getElem hi⟩
      have htype : t.typeAt i = field.type := by simp [Table.typeAt, Schema.typeAt?, hfield]
      rw [hschema] at hfield
      rw [htype, inferSchema_type hfield, ColumnType.ofKinds_eq_null_iff,
        List.eq_nil_iff_forall_not_mem]
      intro kind hkind
      have hvalues : field.type ≠ .null := by
        rw [inferSchema_type hfield, ne_eq, ColumnType.ofKinds_eq_null_iff]
        exact List.ne_nil_of_mem hkind
      obtain ⟨c, hc, hpresent⟩ := exists_present hrules h hfield hvalues hkind
      exact hpresent (hnull c hc)

end Inference

end CellRules

end TableReport
