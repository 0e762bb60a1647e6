import TableReport.Proofs.Load.CellRules
/-!
# Inferred types

The type that a column is given holds every kind of value in it, and no narrower type does. Where rules
make a cell of each value whose kind the type holds, inference therefore rejects no value.
-/
namespace TableReport

/-- The values of a kind can stand in a column of a type. -/
def CellKind.fits (kind : CellKind) : ColumnType → Bool
  | .null | .utf8 => true
  | .int64 => kind == .int
  | .float64 => kind == .int || kind == .float
  | .bool => kind == .bool
  | .dateTime => kind == .dateTime

namespace ColumnType

variable {kinds : List CellKind} {kind : CellKind} {type : ColumnType}

theorem fits_ofKinds (h : kind ∈ kinds) : kind.fits (ofKinds kinds) = true := by
  have hseen : kinds.contains kind = true := List.contains_iff_mem.2 h
  unfold ofKinds
  cases kind <;> grind [CellKind.fits]

/-- A type that holds everything in a column holds all that the inferred type holds. -/
theorem fits_of_fits_ofKinds (hne : kinds ≠ []) (htype : ∀ k ∈ kinds, k.fits type = true)
    (h : kind.fits (ofKinds kinds) = true) : kind.fits type = true := by
  have habsent : ∀ k, k.fits type = false → kinds.contains k = false := by
    intro k hk
    rw [Bool.eq_false_iff, ne_eq, List.contains_iff_mem]
    intro hmem
    rw [htype k hmem] at hk
    cases hk
  have hnull : ofKinds kinds ≠ .null := by
    rw [ne_eq, ofKinds_eq_null_iff]
    exact hne
  unfold ofKinds at h hnull
  cases type with
  | null | utf8 => rfl
  | int64 =>
    simp only [habsent .float rfl, habsent .bool rfl, habsent .dateTime rfl, habsent .text rfl] at h hnull
    cases hint : kinds.contains .int <;> simp_all [CellKind.fits]
  | float64 =>
    simp only [habsent .bool rfl, habsent .dateTime rfl, habsent .text rfl] at h hnull
    cases hint : kinds.contains .int <;> cases hfloat : kinds.contains .float <;>
      simp_all [CellKind.fits]
  | bool =>
    simp only [habsent .int rfl, habsent .float rfl, habsent .dateTime rfl, habsent .text rfl] at h hnull
    cases hbool : kinds.contains .bool <;> simp_all [CellKind.fits]
  | dateTime =>
    simp only [habsent .int rfl, habsent .float rfl, habsent .bool rfl, habsent .text rfl] at h hnull
    cases hdate : kinds.contains .dateTime <;> simp_all [CellKind.fits]

/-- What the inferred type holds and another type does not is in the column because of some value that
the other type does not hold. -/
theorem exists_not_fits (hne : kinds ≠ []) (h : kind.fits (ofKinds kinds) = true)
    (htype : kind.fits type = false) : ∃ k ∈ kinds, k.fits type = false := by
  by_contra hall
  push Not at hall
  have hholds : kind.fits type = true := by
    apply fits_of_fits_ofKinds hne _ h
    intro k hk
    simpa using hall k hk
  rw [htype] at hholds
  cases hholds

end ColumnType

namespace CellRules

variable {α : Type} {rules : CellRules α}

/-- Missing values can stand in every column, and other values wherever their kind can. -/
structure Sound (rules : CellRules α) : Prop where
  missing : ∀ {type v}, rules.kind? v = none → ∃ c, rules.cell type v = .ok c
  present : ∀ {type v kind}, rules.kind? v = some kind → kind.fits type = true →
    ∃ c, rules.cell type v = .ok c

theorem mem_kindsAt {rows : List (List α)} {i : Nat} {kind : CellKind} :
    kind ∈ rules.kindsAt rows i ↔
      ∃ values ∈ rows, ∃ v, values[i]? = some v ∧ rules.kind? v = some kind := by
  simp [kindsAt, Option.bind_eq_some_iff]

/-- A column with an inferred type, and the value that a row has in it. -/
theorem mem_zip_inferSchema {names : List String} {values : List (List α)} {row : List α}
    {field : Field} {v : α} : (field, v) ∈ (rules.inferSchema names values).fields.zip row ↔
      ∃ i name, names[i]? = some name ∧ row[i]? = some v ∧
        field = ⟨name, .ofKinds (rules.kindsAt values i)⟩ := by
  simp only [List.mem_iff_getElem?, List.getElem?_zip_eq_some, inferSchema, List.getElem?_map,
    List.getElem?_zipIdx, Option.map_eq_some_iff, Option.map_map, Function.comp_def, Nat.zero_add]
  refine exists_congr fun i => ?_
  constructor
  · rintro ⟨⟨name, hname, rfl⟩, hv⟩
    exact ⟨name, hname, hv, rfl⟩
  · rintro ⟨name, hname, hv, rfl⟩
    exact ⟨⟨name, hname, rfl⟩, hv⟩

theorem typeAt_of_inferTable {names : List String} {rows : List (SourceRow α)} {t : Table} {i : Nat}
    (h : rules.inferTable names rows = .ok t) (hi : i < names.length) :
    t.typeAt i = .ofKinds (rules.kindsAt (rows.map SourceRow.values) i) := by
  have hschema := (table_eq_ok (inferTable_eq_ok h).2).1
  have hwidth : i < (rules.inferSchema names (rows.map SourceRow.values)).fields.length := by
    simpa [inferSchema] using hi
  have hfield := List.getElem?_eq_getElem hwidth
  rw [Table.typeAt, hschema, Schema.typeAt?, hfield, Option.map_some, Option.getD_some,
    inferSchema_type hfield]

section Inferred

variable {names : List String} {rows : List (SourceRow α)}

theorem inferTable_eq_table (h : names.Nodup) : rules.inferTable names rows =
    rules.table (rules.inferSchema names (rows.map SourceRow.values)) rows := by
  have hdup : (rules.inferSchema names (rows.map SourceRow.values)).firstDuplicate? = none := by
    rw [Schema.firstDuplicate?_eq_none_iff, inferSchema_names]
    exact h
  simp only [inferTable, hdup]

/-- Under names of which no two are the same, a table is made when each value has a cell of the type
inferred for its column. -/
theorem exists_inferTable_iff (hnames : names.Nodup) : (∃ t, rules.inferTable names rows = .ok t) ↔
    ∀ i name, names[i]? = some name → ∀ v ∈ (rows.map SourceRow.values).filterMap (·[i]?),
      ∃ c, rules.cell (.ofKinds (rules.kindsAt (rows.map SourceRow.values) i)) v = .ok c := by
  simp only [inferTable_eq_table hnames, exists_table_iff, List.mem_filterMap, List.mem_map]
  constructor
  · rintro h i name hname v ⟨values, ⟨row, hrow, rfl⟩, hv⟩
    exact h row hrow _ (mem_zip_inferSchema.2 ⟨i, name, hname, hv, rfl⟩)
  · rintro h row hrow ⟨field, v⟩ hp
    obtain ⟨i, name, hname, hv, rfl⟩ := mem_zip_inferSchema.1 hp
    exact h i name hname v ⟨row.values, ⟨row, hrow, rfl⟩, hv⟩

/-- Under such names nothing else is complained of than a value in a row. -/
theorem inferTable_eq_error (hnames : names.Nodup) {e : LoadError}
    (h : rules.inferTable names rows = .error e) :
    ∃ row ∈ rows, ∃ i name v problem, names[i]? = some name ∧ row.values[i]? = some v ∧
      rules.cell (.ofKinds (rules.kindsAt (rows.map SourceRow.values) i)) v = .error problem ∧
        e = .value row.place.number (row.place.label name) (rules.shown v) problem := by
  rw [inferTable_eq_table hnames] at h
  obtain ⟨row, hrow, ⟨field, v⟩, hp, problem, hproblem, he⟩ := table_eq_error h
  obtain ⟨i, name, hname, hv, rfl⟩ := mem_zip_inferSchema.1 hp
  exact ⟨row, hrow, i, name, v, problem, hname, hv, hproblem, he⟩

/-- What a value in a column looks like is held by the type of the column. -/
theorem fits_of_mem_column {values : List (List α)} {i : Nat} {v : α} {kind : CellKind}
    (hv : v ∈ values.filterMap (·[i]?)) (hkind : rules.kind? v = some kind) :
    kind.fits (.ofKinds (rules.kindsAt values i)) = true := by
  obtain ⟨row, hrow, hv⟩ := List.mem_filterMap.1 hv
  exact ColumnType.fits_ofKinds (mem_kindsAt.2 ⟨row, hrow, v, hv, hkind⟩)

/-- Rows under names of which no two are the same make a table of sound rules. -/
theorem exists_inferTable (hrules : rules.Sound) (hnames : names.Nodup) (rows : List (SourceRow α)) :
    ∃ t, rules.inferTable names rows = .ok t := by
  rw [exists_inferTable_iff hnames]
  intro i name _ v hv
  cases hkind : rules.kind? v with
  | none => exact hrules.missing hkind
  | some kind => exact hrules.present hkind (fits_of_mem_column hv hkind)

end Inferred

end CellRules

end TableReport
