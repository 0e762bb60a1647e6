import TableReport.Load.File
import TableReport.Proofs.Load.Lawful
/-!
# What loaders build

Every table that a loader builds is well formed, whatever the format and whether or not a schema is
given. Without a schema no two columns share a name, and a column has type null when it has no values.
-/
namespace TableReport

/-- A well-formed table with the schema that was asked for, or else with an inferred one. -/
def Table.LoadedAs (t : Table) (schema : Option Schema) : Prop :=
  t.WellFormed ∧ match schema with
    | some s => t.schema = s
    | none => t.Inferred

theorem findColumns_length {headers wanted : List String} {positions : List Nat}
    (h : findColumns headers wanted = .ok positions) : positions.length = wanted.length :=
  (mapM_eq_ok_iff.1 h).length_eq.symm

/-- A wanted column stands where its name is found first. -/
theorem exists_of_findColumns {headers wanted : List String} {positions : List Nat}
    (h : findColumns headers wanted = .ok positions) {name : String} {j : Nat}
    (hj : wanted[j]? = some name) :
    ∃ i, headers.findIdx? (· == name) = some i ∧ positions[j]? = some i := by
  obtain ⟨i, hi, hfound⟩ := getElem?_of_mapM h hj
  refine ⟨i, ?_, hi⟩
  cases hfirst : headers.findIdx? (· == name) with
  | none => simp [hfirst] at hfound
  | some k =>
    rw [hfirst] at hfound
    exact congrArg some (Except.ok.inj hfound)

theorem exists_findColumns_iff {headers wanted : List String} :
    (∃ positions, findColumns headers wanted = .ok positions) ↔ wanted ⊆ headers := by
  rw [findColumns, exists_mapM_eq_ok_iff]
  refine forall₂_congr fun name _ => ?_
  cases hi : headers.findIdx? (· == name) with
  | none =>
    have hmem : name ∉ headers := by simpa using List.findIdx?_eq_none_iff.1 hi name
    refine iff_of_false ?_ hmem
    rintro ⟨i, hi⟩
    cases hi
  | some i =>
    have hfound : (headers.findIdx? (· == name)).isSome = true := by rw [hi, Option.isSome_some]
    have hmem : name ∈ headers := by simpa [List.findIdx?_isSome] using hfound
    exact iff_of_true ⟨i, rfl⟩ hmem

/-- Of columns with one name, the first is found. -/
theorem findColumns_eq_ok_iff {headers wanted : List String} {positions : List Nat} :
    findColumns headers wanted = .ok positions ↔
      wanted ⊆ headers ∧ positions = wanted.map (headers.idxOf ·) := by
  have hfirst {found : List Nat} (h : findColumns headers wanted = .ok found) :
      found = wanted.map (headers.idxOf ·) := by
    apply List.ext_getElem (by rw [findColumns_length h, List.length_map])
    intro j hj hj'
    have hwanted : j < wanted.length := by simpa using hj'
    obtain ⟨i, hi, hposition⟩ := exists_of_findColumns h (List.getElem?_eq_getElem hwanted)
    rw [List.getElem?_eq_getElem hj, Option.some.injEq] at hposition
    rw [List.getElem_map, hposition]
    exact (List.findIdx?_eq_some_iff_findIdx_eq.1 hi).2.symm
  constructor
  · intro h
    exact ⟨exists_findColumns_iff.1 ⟨positions, h⟩, hfirst h⟩
  · rintro ⟨hsubset, rfl⟩
    obtain ⟨found, hfound⟩ := exists_findColumns_iff.2 hsubset
    rw [hfound, hfirst hfound]

variable {schema : Option Schema} {t : Table}

namespace Csv

theorem values_rows (d : Document) (positions : List Nat) :
    (d.rows positions).map SourceRow.values =
      d.records.map fun fields => positions.map (fields.getD · "") := by
  rw [Document.rows, List.map_map, ← List.zipIdx_map_fst 2 d.records, List.map_map,
    List.zipIdx_map_fst]
  rfl

theorem rows_width (d : Document) (positions : List Nat) :
    ∀ row ∈ d.rows positions, row.values.length = positions.length := by
  intro row hrow
  obtain ⟨⟨fields, number⟩, -, rfl⟩ := List.mem_map.1 hrow
  simp

theorem loadedAs_of_loadTable {text : List UInt8} (h : loadTable text schema = .ok t) :
    t.LoadedAs schema := by
  obtain ⟨d, -, h⟩ := bind_eq_ok h
  cases schema with
  | some s =>
    obtain ⟨positions, hpositions, h⟩ := bind_eq_ok h
    have hlength := findColumns_length (mapError_eq_ok.1 hpositions)
    refine ⟨CellRules.wellFormed_of_table cellRules_lawful (fun row hrow => ?_) h,
      (CellRules.table_eq_ok h).1⟩
    rw [rows_width d positions row hrow, hlength, Schema.names, List.length_map, Schema.width]
  | none =>
    refine CellRules.inferred_of_inferTable cellRules_lawful (fun row hrow => ?_) h
    rw [rows_width d _ row hrow, List.length_range]

end Csv

namespace Json

theorem fits_of_recordCells {s : Schema} {v : Json} {number : Nat} {cells : Row}
    (h : recordCells s v number = .ok cells) : cells.Fits s := by
  obtain ⟨members, -, h⟩ := bind_eq_ok h
  refine ((mapM_eq_ok_iff.1 h).imp fun field c hc => ?_).flip
  cases hw : members.atPath? field.name with
  | none => rw [hw] at hc; cases hc
  | some w =>
    rw [hw] at hc
    exact cellRules_lawful.fits (mapError_eq_ok.1 hc)

theorem loadedAs_of_loadTable {input : String} (h : loadTable input schema = .ok t) :
    t.LoadedAs schema := by
  obtain ⟨records, -, h⟩ := bind_eq_ok h
  cases schema with
  | some s =>
    obtain ⟨rows, hrows, h⟩ := bind_eq_ok h
    obtain rfl := Except.ok.inj h
    refine ⟨fun cells hcells => ?_, rfl⟩
    obtain ⟨⟨v, number⟩, -, hcells⟩ := exists_of_mem_mapM hrows hcells
    exact fits_of_recordCells hcells
  | none =>
    obtain ⟨records, -, h⟩ := bind_eq_ok h
    refine CellRules.inferred_of_inferTable cellRules_lawful (fun row hrow => ?_) h
    obtain ⟨⟨members, number⟩, -, rfl⟩ := List.mem_map.1 hrow
    simp

end Json

namespace Workbook

/-- The rows of a sheet are as wide as its columns, which are the wanted ones if there are any. -/
theorem select_width {s : Sheet} {wanted : Option (List String)} {columns : List String}
    {rows : List (SourceRow SheetCell)} (h : s.select wanted = .ok (columns, rows)) :
    (∀ row ∈ rows, row.values.length = columns.length) ∧
      ∀ names, wanted = some names → columns = names := by
  obtain ⟨⟨headers, cells⟩, -, h⟩ := bind_eq_ok h
  obtain ⟨positions, hpositions, h⟩ := bind_eq_ok h
  obtain ⟨rfl, rfl⟩ := Prod.mk.inj (Except.ok.inj h)
  refine ⟨fun row hrow => ?_, fun names hnames => by rw [hnames, Option.getD_some]⟩
  obtain ⟨⟨values, number⟩, -, rfl⟩ := List.mem_map.1 hrow
  simp [findColumns_length hpositions]

theorem selectRows_width {w : Workbook} {wanted : Option (List String)} {names columns : List String}
    {rows : List (SourceRow SheetCell)} (h : w.selectRows wanted names = .ok (columns, rows)) :
    (∀ row ∈ rows, row.values.length = columns.length) ∧
      ∀ asked, wanted = some asked → columns = asked := by
  induction names generalizing wanted columns rows with
  | nil =>
    obtain ⟨rfl, rfl⟩ := Prod.mk.inj (Except.ok.inj h)
    simp +contextual
  | cons name names ih =>
    obtain ⟨sheet, -, h⟩ := bind_eq_ok h
    obtain ⟨⟨first, rows⟩, hfirst, h⟩ := bind_eq_ok h
    obtain ⟨⟨rest, more⟩, hmore, h⟩ := bind_eq_ok h
    obtain ⟨rfl, rfl⟩ := Prod.mk.inj (Except.ok.inj h)
    obtain ⟨hrows, hwanted⟩ := select_width (mapError_eq_ok.1 hfirst)
    obtain ⟨hrest, hcolumns⟩ := ih hmore
    obtain rfl := hcolumns first rfl
    exact ⟨List.forall_mem_append.2 ⟨hrows, hrest⟩, hwanted⟩

theorem loadedAs_of_table {w : Workbook} {selection : SheetSelection}
    (h : w.table selection schema = .ok t) : t.LoadedAs schema := by
  unfold table at h
  dsimp only at h
  split at h
  · cases h
  · obtain ⟨⟨columns, rows⟩, hrows, h⟩ := bind_eq_ok h
    obtain ⟨hwidth, hcolumns⟩ := selectRows_width hrows
    cases schema with
    | some s =>
      obtain rfl := hcolumns s.names rfl
      refine ⟨CellRules.wellFormed_of_table SheetCell.cellRules_lawful (fun row hrow => ?_) h,
        (CellRules.table_eq_ok h).1⟩
      rw [hwidth row hrow, Schema.names, List.length_map, Schema.width]
    | none => exact CellRules.inferred_of_inferTable SheetCell.cellRules_lawful hwidth h

end Workbook

/-! ### Files -/

theorem FileContent.loadedAs_of_load {content : FileContent} {path : String} {options : LoadOptions}
    {format : Format} (h : content.load path options format = .ok t) : t.LoadedAs options.schema := by
  cases format with
  | csv =>
    cases content with
    | bytes bs => exact Csv.loadedAs_of_loadTable h
    | directory => cases h
    | workbook w => cases h
  | json =>
    cases content with
    | bytes bs =>
      dsimp only [load, loadJson] at h
      split at h
      · exact Json.loadedAs_of_loadTable h
      · cases h
    | directory => cases h
    | workbook w => cases h
  | workbook =>
    obtain ⟨w, -, h⟩ := bind_eq_ok h
    exact Workbook.loadedAs_of_table h

theorem loadedAs_of_loadFile {content : Option FileContent} {path : String} {options : LoadOptions}
    (h : loadFile content path options = .ok t) : t.LoadedAs options.schema := by
  obtain ⟨⟨content, format⟩, -, h⟩ := bind_eq_ok h
  exact FileContent.loadedAs_of_load h

/-- Every loader builds well-formed tables: from CSV bytes, from JSON text, from the sheets of a
workbook, and from a file in any of these formats. -/
theorem loaders_build_wellFormed :
    (∀ text schema t, Csv.loadTable text schema = .ok t → t.LoadedAs schema) ∧
      (∀ input schema t, Json.loadTable input schema = .ok t → t.LoadedAs schema) ∧
      (∀ (w : Workbook) selection schema t, w.table selection schema = .ok t → t.LoadedAs schema) ∧
      ∀ content path options t, loadFile content path options = .ok t →
        t.LoadedAs options.schema :=
  ⟨fun _ _ _ => Csv.loadedAs_of_loadTable, fun _ _ _ => Json.loadedAs_of_loadTable,
    fun _ _ _ _ => Workbook.loadedAs_of_table, fun _ _ _ _ => loadedAs_of_loadFile⟩

/-- A workbook of two sheets. The second has the columns of the first the other way round, one column
mixes integers with other numbers, and one is empty. -/
theorem loadedAs_two_sheets :
    let half := Binary64.ofDecimal false 5 (-1)
    let first : Sheet := ⟨"a", [[.text "n", .text "x", .text "e"], [.int 1, .number half, .empty]]⟩
    let second : Sheet := ⟨"b", [[.text "e", .text "x", .text "n"], [.empty, .int 3, .int 4]]⟩
    let t : Table := ⟨⟨[⟨"n", .int64⟩, ⟨"x", .float64⟩, ⟨"e", .null⟩]⟩,
      [[.int 1, .float half, .null], [.int 4, .float (.ofNat 3), .null]]⟩
    loadFile (some (.workbook ⟨.xlsx, [first, second]⟩)) "book.xlsx" { sheets := .all } = .ok t ∧
      t.LoadedAs none := by
  intro half first second t
  have h : loadFile (some (.workbook ⟨.xlsx, [first, second]⟩)) "book.xlsx" { sheets := .all } =
      .ok t := by decide +kernel
  exact ⟨h, loaders_build_wellFormed.2.2.2 _ _ { sheets := .all } _ h⟩

end TableReport
