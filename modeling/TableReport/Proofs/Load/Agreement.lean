import Mathlib.Data.List.Nodup
import TableReport.Proofs.Load.Loaders
/-!
# Loading under the schema that was inferred

A table that is loaded without a schema is loaded just the same under its own schema. Its columns have
different names, so looking a column up by its name leads to the column, and a member that is there
is found under its name before any path is followed.
-/
namespace TableReport

/-- Columns with different names stand where their own names are found. -/
theorem findColumns_self {names : List String} (h : names.Nodup) :
    findColumns names names = .ok (List.range names.length) := by
  unfold findColumns
  rw [mapM_eq_ok_iff, List.forall₂_iff_get]
  constructor
  · simp
  · intro i hi hi'
    have hfirst : names.findIdx? (· == names[i]) = some i := by
      rw [List.findIdx?_eq_some_iff_getElem]
      refine ⟨hi, by simp, ?_⟩
      intro j hj hsame
      have hij : j = i := h.getElem_inj_iff.1 (beq_iff_eq.1 hsame)
      omega
    simp [hfirst]

variable {t : Table}

theorem CellRules.table_of_inferTable {α : Type} {rules : CellRules α} {names : List String}
    {rows : List (SourceRow α)} (h : rules.inferTable names rows = .ok t) :
    t.schema.names = names ∧ rules.table t.schema rows = .ok t := by
  have htable := (inferTable_eq_ok h).2
  have hschema := (table_eq_ok htable).1
  constructor
  · rw [hschema, inferSchema_names]
  · rw [hschema]
    exact htable

theorem CellRules.lt_length_of_inferTable {α : Type} {rules : CellRules α} {names : List String}
    {rows : List (SourceRow α)} (h : rules.inferTable names rows = .ok t) {i : Nat} {name : String}
    (hi : t.schema.names[i]? = some name) : i < names.length := by
  rw [(table_of_inferTable h).1] at hi
  exact (List.getElem?_eq_some_iff.1 hi).1

theorem Csv.Document.table_inferred {d : Document} (h : d.table none = .ok t) :
    d.table (some t.schema) = .ok t := by
  obtain ⟨hnames, htable⟩ := CellRules.table_of_inferTable h
  have hheaders := (CellRules.inferTable_eq_ok h).1
  simp only [table, hnames, findColumns_self hheaders]
  exact htable

theorem Csv.loadTable_inferred {text : List UInt8} (h : loadTable text none = .ok t) :
    loadTable text (some t.schema) = .ok t := by
  obtain ⟨d, hd, h⟩ := bind_eq_ok h
  exact bind_eq_ok_iff.2 ⟨d, hd, d.table_inferred h⟩

namespace Json

/-- An object with members of given names. -/
def HasMembers (v : Json) (names : List String) : Prop :=
  ∃ members, v.members? = some members ∧ ∀ name ∈ names, ∃ w, members.get? name = some w

instance (v : Json) (names : List String) : Decidable (v.HasMembers names) :=
  decidable_of_iff
    ((v.members?.any fun members => names.all fun name => (members.get? name).isSome) = true)
    (by simp [HasMembers, Option.any_eq_true, Option.isSome_iff_exists])

/-- The row of an object under names, a member that is not there being null. -/
def memberRow (names : List String) (members : Members) (row : Nat) : SourceRow Json :=
  ⟨⟨row, none⟩, names.map fun name => (members.get? name).getD .null⟩

theorem atPath?_of_get? {members : Members} {name : String} {w : Json}
    (h : members.get? name = some w) : members.atPath? name = some w := by
  simp [Members.atPath?, h]

section Records

variable {s : Schema}

/-- Where all members are there, looking them up one by one gives the row. -/
theorem recordCells_eq {v : Json} {members : Members} {row : Nat} (hmembers : v.members? = some members)
    (hnames : ∀ name ∈ s.names, ∃ w, members.get? name = some w) :
    recordCells s v row = (memberRow s.names members row).cells cellRules s := by
  have hrecord : (asRecord v row).mapError LoadError.shape = .ok members := by
    simp [asRecord, hmembers, Except.mapError]
  have hvalues : s.fields.zip (s.names.map fun name => (members.get? name).getD .null) =
      s.fields.map fun field => (field, (members.get? field.name).getD .null) := by
    rw [Schema.names, List.map_map, List.map_prod_left_eq_zip]
    rfl
  unfold recordCells SourceRow.cells memberRow
  rw [hrecord, hvalues, List.mapM_map]
  apply mapM_congr
  intro field hfield
  obtain ⟨w, hw⟩ := hnames field.name (List.mem_map_of_mem hfield)
  simp [atPath?_of_get? hw, hw]

theorem mapM_recordCells {records : List Json} {objects : List Members}
    (h : List.Forall₂ (fun v members => v.members? = some members) records objects)
    (hrecords : ∀ v ∈ records, v.HasMembers s.names) (row : Nat) :
    (records.zipIdx row).mapM (fun (v, row) => recordCells s v row) =
      ((objects.zipIdx row).map fun (members, row) => memberRow s.names members row).mapM
        (·.cells cellRules s) := by
  induction h generalizing row with
  | nil => rfl
  | @cons v members records objects hv h ih =>
    obtain ⟨hhead, htail⟩ := List.forall_mem_cons.1 hrecords
    obtain ⟨members', hmembers, hnames⟩ := hhead
    obtain rfl : members = members' := Option.some.inj (hv.symm.trans hmembers)
    simp only [List.zipIdx_cons, List.map_cons, List.mapM_cons, ih htail, recordCells_eq hv hnames]

theorem members?_of_asRecord {records : List Json} {objects : List Members} {row : Nat}
    (h : (records.zipIdx row).mapM (fun (v, row) => (asRecord v row).mapError LoadError.shape) =
      .ok objects) :
    List.Forall₂ (fun v members => v.members? = some members) records objects := by
  rw [← List.zipIdx_map_fst row records, List.forall₂_map_left_iff]
  apply (mapM_eq_ok_iff.1 h).imp
  rintro ⟨v, row⟩ members hv
  have hrecord := mapError_eq_ok.1 hv
  unfold asRecord at hrecord
  split at hrecord
  case h_1 found hfound =>
    rw [← Except.ok.inj hrecord]
    exact hfound
  case h_2 => cases hrecord

end Records

theorem loadTable_inferred {input : String} {records : List Json}
    (hrecords : readRecords input = .ok records) (h : loadTable input none = .ok t)
    (hnames : ∀ v ∈ records, v.HasMembers t.schema.names) :
    loadTable input (some t.schema) = .ok t := by
  have hread : (readRecords input).mapError LoadError.shape = .ok records := mapError_eq_ok.2 hrecords
  unfold loadTable at h ⊢
  rw [hread] at h ⊢
  change inferredTable records = .ok t at h
  change strictTable t.schema records = .ok t
  obtain ⟨objects, hobjects, h⟩ := bind_eq_ok h
  obtain ⟨hschema, htable⟩ := CellRules.table_of_inferTable h
  apply bind_eq_ok_iff.2
  refine ⟨t.rows, ?_, rfl⟩
  rw [mapM_recordCells (members?_of_asRecord hobjects) hnames, hschema]
  exact (CellRules.table_eq_ok htable).2

end Json

namespace Workbook

/-- The columns of a sheet that are all wanted may be asked for by name. -/
theorem select_columns_of_none {s : Sheet} {columns : List String} {rows : List (SourceRow SheetCell)}
    (h : s.select none = .ok (columns, rows)) : s.select (some columns) = .ok (columns, rows) := by
  obtain ⟨⟨headers, cells⟩, hsplit, h⟩ := bind_eq_ok h
  obtain ⟨positions, hpositions, h⟩ := bind_eq_ok h
  obtain ⟨rfl, rfl⟩ := Prod.mk.inj (Except.ok.inj h)
  simp only [Sheet.select, hsplit, bind_eq_ok_iff]
  exact ⟨(headers, cells), rfl, positions, hpositions, rfl⟩

/-- After the first sheet the columns are wanted by name in any case. -/
theorem selectRows_columns_of_none {w : Workbook} {names columns : List String}
    {rows : List (SourceRow SheetCell)} (hne : names ≠ [])
    (h : w.selectRows none names = .ok (columns, rows)) :
    w.selectRows (some columns) names = .ok (columns, rows) := by
  cases names with
  | nil => exact absurd rfl hne
  | cons name names =>
    obtain ⟨sheet, hsheet, h⟩ := bind_eq_ok h
    obtain ⟨⟨first, firstRows⟩, hfirst, h⟩ := bind_eq_ok h
    obtain ⟨⟨rest, more⟩, hmore, h⟩ := bind_eq_ok h
    obtain ⟨rfl, rfl⟩ := Prod.mk.inj (Except.ok.inj h)
    obtain rfl := (selectRows_width hmore).2 first rfl
    have hselect := select_columns_of_none (mapError_eq_ok.1 hfirst)
    simp only [selectRows, bind_eq_ok_iff]
    exact ⟨sheet, hsheet, _, mapError_eq_ok.2 hselect, _, hmore, rfl⟩

theorem select_schema {selection : SheetSelection} (h : selection ≠ .first) (sheets : List String)
    (schema : Schema) : selection.select sheets (some schema) = selection.select sheets none := by
  cases selection with
  | first => exact absurd rfl h
  | sheet name => rfl
  | all => rfl
  | these names => rfl

theorem table_inferred {w : Workbook} {selection : SheetSelection} (hselection : selection ≠ .first)
    (h : w.table selection none = .ok t) : w.table selection (some t.schema) = .ok t := by
  unfold table at h ⊢
  dsimp only at h ⊢
  rw [select_schema hselection]
  by_cases hempty : (selection.select w.sheetNames none).isEmpty = true
  · rw [if_pos hempty] at h
    cases h
  · rw [if_neg hempty] at h ⊢
    obtain ⟨⟨columns, rows⟩, hrows, h⟩ := bind_eq_ok h
    obtain ⟨hnames, htable⟩ := CellRules.table_of_inferTable h
    have hne : selection.select w.sheetNames none ≠ [] := by
      simpa using hempty
    apply bind_eq_ok_iff.2
    refine ⟨(columns, rows), ?_, htable⟩
    rw [Option.map_some, hnames]
    exact selectRows_columns_of_none hne hrows

end Workbook

/-- What is loaded without a schema is loaded just the same under the schema that was inferred: from
every CSV text, from JSON records that all have every member, and from a workbook unless its first sheet
alone is selected. -/
theorem inferred_and_strict_loading_agree :
    (∀ text t, Csv.loadTable text none = .ok t → Csv.loadTable text (some t.schema) = .ok t) ∧
    (∀ input records t, Json.readRecords input = .ok records → Json.loadTable input none = .ok t →
      (∀ v ∈ records, v.HasMembers t.schema.names) →
        Json.loadTable input (some t.schema) = .ok t) ∧
    ∀ (w : Workbook) selection t, selection ≠ .first → w.table selection none = .ok t →
      w.table selection (some t.schema) = .ok t := by
  refine ⟨?_, ?_, ?_⟩
  · intro text t h
    exact Csv.loadTable_inferred h
  · intro input records t hrecords h hnames
    exact Json.loadTable_inferred hrecords h hnames
  · intro w selection t hselection h
    exact Workbook.table_inferred hselection h

/-- A CSV text, JSON records with a dot in a name and a null, and two sheets of which the second has the
columns the other way round. -/
theorem loading_agrees_in_three_formats :
    let text := Text.encodeUtf8 "n,x\n1,a\n2,b\n"
    let csv : Table := ⟨⟨[⟨"n", .int64⟩, ⟨"x", .utf8⟩]⟩, [[.int 1, .text "a"], [.int 2, .text "b"]]⟩
    let input := "[\x7b\"n.m\": 1, \"x\": null\x7d, \x7b\"x\": \"b\", \"n.m\": 2\x7d]"
    let json : Table := ⟨⟨[⟨"n.m", .int64⟩, ⟨"x", .utf8⟩]⟩, [[.int 1, .null], [.int 2, .text "b"]]⟩
    let first : Sheet := ⟨"a", [[.text "n", .text "x"], [.int 1, .text "a"]]⟩
    let second : Sheet := ⟨"b", [[.text "x", .text "n"], [.text "b", .int 2]]⟩
    Csv.loadTable text (some csv.schema) = .ok csv ∧
      Json.loadTable input (some json.schema) = .ok json ∧
      Workbook.table ⟨.xlsx, [first, second]⟩ .all (some csv.schema) = .ok csv := by
  intro text csv input json first second
  have hobjects : ((Json.readRecords input).toOption.any
      (·.all fun v => decide (v.HasMembers json.schema.names))) = true := by decide +kernel
  obtain ⟨records, hrecords, hall⟩ := exists_of_any_toOption hobjects
  have hnames : ∀ v ∈ records, v.HasMembers json.schema.names := by simpa using hall
  refine ⟨?_, ?_, ?_⟩
  · exact inferred_and_strict_loading_agree.1 text csv (by decide +kernel)
  · exact inferred_and_strict_loading_agree.2.1 input records json hrecords (by decide +kernel) hnames
  · exact inferred_and_strict_loading_agree.2.2 _ .all csv (by decide) (by decide +kernel)

end TableReport
