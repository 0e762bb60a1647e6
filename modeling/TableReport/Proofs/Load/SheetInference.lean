import TableReport.Proofs.Load.Missing
/-!
# Inference from sheets

Sheets that can be read together make a table without a schema, whatever stands below their headers,
but for one thing. Every date serial looks like a date, also one that lies beyond the range of dates,
and a column of nothing but dates has no cell for that one. In a column of texts it is kept as a text.
-/
namespace TableReport

namespace SheetCell

/-- A date serial that stands for no date. -/
def isUndated : SheetCell → Bool
  | .date serial => (DateTime.ofSerial? serial).isNone
  | _ => false

theorem isUndated_iff {c : SheetCell} :
    c.isUndated = true ↔ ∃ serial, c = .date serial ∧ DateTime.ofSerial? serial = none := by
  cases c <;> simp [isUndated]

variable {type : ColumnType} {c : SheetCell}

/-- What a text looks like stands among texts, and among dates when it is one. -/
theorem fits_textKind {s : String} (h : (textKind s).fits type = true) :
    type = .null ∨ type = .utf8 ∨ type = .dateTime ∧ ∃ d, readDateTime? s = some d := by
  unfold textKind at h
  cases hread : readDateTime? s with
  | none => cases type <;> simp [hread, CellKind.fits] at h ⊢
  | some d => cases type <;> simp [hread, CellKind.fits] at h ⊢

/-- A type that holds what a cell looks like has a cell for it, unless it is a type of dates and the
cell an undated serial. -/
theorem toCell_eq_error_iff (hfits : ∀ kind, c.kind? = some kind → kind.fits type = true)
    {p : ValueProblem} :
    toCell type c = .error p ↔ p = .serialRange ∧ type = .dateTime ∧ c.isUndated = true := by
  cases c with
  | empty | fault => simp [toCell, isMissing, isUndated]
  | bool b =>
    have hbool := hfits .bool rfl
    cases type with
    | null | utf8 | bool => simp [toCell, isMissing, boolCell, isUndated]
    | int64 | float64 | dateTime => cases hbool
  | int v =>
    have hint := hfits .int rfl
    cases type with
    | null | utf8 | int64 | float64 => simp [toCell, isMissing, intCell, floatCell, isUndated]
    | bool | dateTime => cases hint
  | duration s =>
    have htext := hfits .text rfl
    cases type with
    | null | utf8 => simp [toCell, isMissing, isUndated]
    | int64 | float64 | bool | dateTime => cases htext
  | date serial =>
    have hdate := hfits .dateTime rfl
    cases type with
    | null | utf8 => simp [toCell, isMissing]
    | int64 | float64 | bool => cases hdate
    | dateTime =>
      cases hserial : DateTime.ofSerial? serial <;>
        simp [toCell, isMissing, dateCell, isUndated, hserial, eq_comm]
  | number v =>
    cases hnan : v.isNaN with
    | true => simp [toCell, isMissing, isUndated, hnan]
    | false =>
      have hnumber := hfits (if looksInt v then .int else .float) (by simp [kind?, isMissing, hnan])
      cases type with
      | null | utf8 | float64 => simp [toCell, isMissing, hnan, floatCell, isUndated]
      | int64 =>
        have hwhole : v.isWhole = true := by
          cases hint : looksInt v with
          | true => exact (Bool.and_eq_true_iff.1 hint).1
          | false => simp [hint, CellKind.fits] at hnumber
        simp [toCell, isMissing, hnan, intCell, isUndated, hwhole]
      | bool | dateTime => cases hint : looksInt v <;> simp [hint, CellKind.fits] at hnumber
  | isoDate s =>
    obtain rfl | rfl | ⟨rfl, d, hd⟩ := fits_textKind (hfits (textKind s) rfl)
    · simp [toCell, isMissing, isUndated]
    · simp [toCell, isMissing, isUndated]
    · simp [toCell, isMissing, dateCell, isUndated, hd]
  | text s =>
    cases hmarker : isMissingMarker (Text.trim s) with
    | true => simp [toCell, isMissing, isUndated, hmarker]
    | false =>
      have hkind : (SheetCell.text s).kind? = some (textKind s) := by
        simp [kind?, isMissing, hmarker]
      obtain rfl | rfl | ⟨rfl, d, hd⟩ := fits_textKind (hfits (textKind s) hkind)
      · simp [toCell, isMissing, isUndated, hmarker]
      · simp [toCell, isMissing, isUndated, hmarker]
      · simp [toCell, isMissing, isUndated, hmarker, dateCell, hd]

end SheetCell

namespace Sheet

variable {s : Sheet} {wanted columns : List String} {rows : List (SourceRow SheetCell)}

theorem select_none (s : Sheet) : s.select none = s.select (some s.headers) := by
  rw [select_eq, select_eq]
  rfl

/-- A sheet with a header row has the columns that the header names. -/
theorem offers_of_subset (hheader : s.grid ≠ []) (h : wanted ⊆ s.headers) : s.Offers wanted := by
  obtain ⟨positions, hpositions⟩ := exists_findColumns_iff.2 h
  cases hgrid : s.grid with
  | nil => exact absurd hgrid hheader
  | cons header body =>
    refine ⟨s.rowsAt positions, ?_⟩
    rw [select_eq, hgrid]
    simp [hpositions, Except.map]

/-- The rows of a sheet are said to be in it. -/
theorem label_of_select (h : s.select (some wanted) = .ok (columns, rows)) {row : SourceRow SheetCell}
    (hrow : row ∈ rows) (column : String) : row.place.label column = s!"{s.name}:{column}" := by
  obtain ⟨positions, -, rfl⟩ := select_eq_ok h
  obtain ⟨⟨cells, number⟩, -, rfl⟩ := List.mem_map.1 hrow
  rfl

end Sheet

namespace Workbook

/-- The cells of a column in several sheets. -/
def cellsUnder (sheets : List Sheet) (column : String) : List SheetCell :=
  sheets.flatMap (·.cellsUnder column)

/-- The type of a column as its cells in several sheets have it. -/
def inferredType (sheets : List Sheet) (column : String) : ColumnType :=
  .ofKinds ((cellsUnder sheets column).filterMap SheetCell.kind?)

/-- The selected sheets can be read together. All have a header row, no name stands twice in that of
the first one, and the others have its names. -/
structure ReadsTogether (w : Workbook) (selection : SheetSelection) (s : Sheet) (rest : List Sheet) :
    Prop where
  sheets : List.Forall₂ (fun name s => w.sheet name = .ok s) (selection.select w.sheetNames none)
    (s :: rest)
  header : ∀ s' ∈ s :: rest, s'.grid ≠ []
  distinct : s.headers.Nodup
  names : ∀ s' ∈ rest, s.headers ⊆ s'.headers

variable {w : Workbook} {selection : SheetSelection} {s : Sheet} {rest : List Sheet}

theorem ReadsTogether.offers (h : w.ReadsTogether selection s rest) {s' : Sheet} (hs' : s' ∈ s :: rest) :
    s'.Offers s.headers := by
  apply Sheet.offers_of_subset (h.header s' hs')
  rcases List.mem_cons.1 hs' with rfl | hrest
  · exact List.Subset.refl _
  · exact h.names s' hrest

/-- The first sheet names the columns. -/
theorem selectRows_none {name : String} {names : List String} (hs : w.sheet name = .ok s) :
    w.selectRows none (name :: names) = w.selectRows (some s.headers) (name :: names) := by
  simp only [selectRows, hs, bind, Except.bind, Sheet.select_none s]

/-- Rows are read from sheets that all have the wanted columns. -/
theorem exists_selectRows {wanted names : List String} {sheets : List Sheet}
    (h : List.Forall₂ (fun name s => w.sheet name = .ok s) names sheets)
    (hoffers : ∀ s ∈ sheets, s.Offers wanted) : ∃ found,
      List.Forall₂ (fun s part => s.select (some wanted) = .ok (wanted, part)) sheets found ∧
        w.selectRows (some wanted) names = .ok (wanted, found.flatten) := by
  induction h with
  | nil => exact ⟨[], .nil, rfl⟩
  | cons hs hrest ih =>
    obtain ⟨part, hpart⟩ := hoffers _ List.mem_cons_self
    obtain ⟨found, hfound, hrows⟩ := ih fun s hs => hoffers s (List.mem_cons_of_mem _ hs)
    refine ⟨part :: found, .cons hpart hfound, ?_⟩
    simp only [selectRows, hs, hpart, hrows, bind, Except.bind, Except.mapError, List.flatten_cons]

/-- The rows of sheets that can be read together stand under the names in the first header. -/
theorem ReadsTogether.table_eq (h : w.ReadsTogether selection s rest) : ∃ found,
    List.Forall₂ (fun s' part => s'.select (some s.headers) = .ok (s.headers, part)) (s :: rest)
      found ∧
    w.table selection none = SheetCell.cellRules.inferTable s.headers found.flatten := by
  obtain ⟨found, hfound, hrows⟩ := exists_selectRows h.sheets fun _ => h.offers
  refine ⟨found, hfound, ?_⟩
  have hsheets := h.sheets
  unfold table
  generalize selection.select w.sheetNames none = names at hsheets hrows
  cases hsheets with
  | cons hs hrest =>
    dsimp only
    rw [Option.map_none, selectRows_none hs, hrows]
    rfl

section Columns

variable {sheets : List Sheet} {names : List String} {found : List (List (SourceRow SheetCell))}
  {i : Nat} {column : String}

theorem ofKinds_kindsAt
    (h : List.Forall₂ (fun s part => s.select (some names) = .ok (names, part)) sheets found)
    (hi : names[i]? = some column) :
    .ofKinds (SheetCell.cellRules.kindsAt (found.flatten.map SourceRow.values) i) =
      inferredType sheets column := by
  rw [inferredType, cellsUnder, ← Sheet.values_of_selects h hi, List.filterMap_filterMap]
  rfl

/-- The columns of a table without a schema have the types that their cells in the selected sheets
have. -/
theorem exists_typeAt_of_table {t : Table} (h : w.table selection none = .ok t) : ∃ sheets,
    List.Forall₂ (fun name s => w.sheet name = .ok s) (selection.select w.sheetNames none) sheets ∧
      ∀ (i : Nat) (column : String), t.schema.names[i]? = some column →
        t.typeAt i = inferredType sheets column := by
  obtain ⟨columns, rows, hselected, -, hinferred⟩ := selected_of_table h
  obtain ⟨sheets, found, hsheets, rfl, hfound⟩ := selectRows_eq_ok hselected
  refine ⟨sheets, hsheets, fun i column hi => ?_⟩
  have hlength := CellRules.lt_length_of_inferTable (hinferred rfl) hi
  rw [CellRules.typeAt_of_inferTable (hinferred rfl) hlength, ofKinds_kindsAt hfound hi]

theorem fits_inferredType {c : SheetCell} (hc : c ∈ cellsUnder sheets column) :
    ∀ kind, c.kind? = some kind → kind.fits (inferredType sheets column) = true :=
  fun _ hkind => ColumnType.fits_ofKinds (List.mem_filterMap.2 ⟨c, hc, hkind⟩)

/-- The type of a column has a cell for all in the column but an undated serial among dates. -/
theorem exists_cells_iff
    (h : List.Forall₂ (fun s part => s.select (some names) = .ok (names, part)) sheets found)
    (hi : names[i]? = some column) :
    (∀ c ∈ (found.flatten.map SourceRow.values).filterMap (·[i]?), ∃ cell,
      SheetCell.cellRules.cell
        (.ofKinds (SheetCell.cellRules.kindsAt (found.flatten.map SourceRow.values) i)) c =
          .ok cell) ↔
      (inferredType sheets column = .dateTime →
        ∀ c ∈ cellsUnder sheets column, c.isUndated = false) := by
  rw [ofKinds_kindsAt h hi, Sheet.values_of_selects h hi]
  change (∀ c ∈ cellsUnder sheets column, ∃ cell,
    SheetCell.toCell (inferredType sheets column) c = .ok cell) ↔ _
  have hcell : ∀ c ∈ cellsUnder sheets column,
      ((∃ cell, SheetCell.toCell (inferredType sheets column) c = .ok cell) ↔
        (inferredType sheets column = .dateTime → c.isUndated = false)) := by
    intro c hc
    simp [exists_eq_ok_iff, SheetCell.toCell_eq_error_iff (fits_inferredType hc)]
  rw [forall₂_congr hcell]
  exact ⟨fun hall hdate c hc => hall c hc hdate, fun hall c hc hdate => hall hdate c hc⟩

end Columns

/-- Sheets that can be read together make a table unless an undated serial stands in a column of dates,
and then it is such a serial that is complained of. -/
theorem inferred_table_iff (h : w.ReadsTogether selection s rest) :
    ((∃ t, w.table selection none = .ok t) ↔
      ∀ column ∈ s.headers, inferredType (s :: rest) column = .dateTime →
        ∀ c ∈ cellsUnder (s :: rest) column, c.isUndated = false) ∧
    ∀ e, w.table selection none = .error e →
      ∃ sheet ∈ s :: rest, ∃ column ∈ s.headers, ∃ serial number,
        .date serial ∈ sheet.cellsUnder column ∧ DateTime.ofSerial? serial = none ∧
          inferredType (s :: rest) column = .dateTime ∧
            e = .value number s!"{sheet.name}:{column}" (SheetCell.date serial).shown .serialRange := by
  obtain ⟨found, hfound, htable⟩ := h.table_eq
  rw [htable]
  constructor
  · rw [CellRules.exists_inferTable_iff h.distinct]
    constructor
    · intro hall column hcolumn
      obtain ⟨i, hi⟩ := List.mem_iff_getElem?.1 hcolumn
      exact (exists_cells_iff hfound hi).1 (hall i column hi)
    · intro hall i column hi
      exact (exists_cells_iff hfound hi).2 (hall column (List.mem_of_getElem? hi))
  · intro e he
    obtain ⟨row, hrow, i, column, c, problem, hi, hc, hproblem, rfl⟩ :=
      CellRules.inferTable_eq_error h.distinct he
    rw [ofKinds_kindsAt hfound hi] at hproblem
    obtain ⟨part, hpart, hrow⟩ := List.mem_flatten.1 hrow
    obtain ⟨sheet, hsheet, hselect⟩ := exists_of_forall₂_mem hfound hpart
    have hunder : c ∈ sheet.cellsUnder column := by
      rw [← Sheet.values_of_select hselect hi]
      exact List.mem_filterMap.2 ⟨row.values, List.mem_map_of_mem hrow, hc⟩
    obtain ⟨rfl, hdate, hundated⟩ := (SheetCell.toCell_eq_error_iff
      (fits_inferredType (List.mem_flatMap.2 ⟨sheet, hsheet, hunder⟩))).1 hproblem
    obtain ⟨serial, rfl, hserial⟩ := SheetCell.isUndated_iff.1 hundated
    rw [Sheet.label_of_select hselect hrow]
    exact ⟨sheet, hsheet, column, List.mem_of_getElem? hi, serial, row.place.number, hunder, hserial,
      hdate, rfl⟩

/-- Whole numbers among other numbers, dates of three kinds, and a serial beyond the dates that is kept
because a text stands below it. The second sheet has the columns in another order. -/
theorem inferred_table_of_two_sheets :
    let first : Sheet := ⟨"a", [[.text "n", .text " d", .text "m"],
      [.number (.ofNat 1), .date (.ofNat 45292), .date (.ofNat 1000000000)],
      [.number (Binary64.ofNat 1 / Binary64.ofNat 2), .isoDate "2024-01-02T10:00:00", .fault .name]]⟩
    let second : Sheet := ⟨"b", [[.text "m", .text "n", .text "d"],
      [.text "late", .int 4, .text "2024-01-03"]]⟩
    let w : Workbook := ⟨.xlsx, [first, second]⟩
    w.ReadsTogether .all first [second] ∧
      cellsUnder [first, second] "m" =
        [.date (.ofNat 1000000000), .fault .name, .text "late"] ∧
      ∃ t, w.table .all none = .ok t := by
  intro first second w
  have hreads : w.ReadsTogether .all first [second] := {
    sheets := .cons (by decide) (.cons (by decide) .nil)
    header := by decide +kernel
    distinct := by decide +kernel
    names := by decide +kernel }
  refine ⟨hreads, by decide +kernel, ?_⟩
  exact (inferred_table_iff hreads).1.2 (by decide +kernel)

/-- A lone serial beyond the dates is taken for a date and then has none. -/
theorem no_inferred_table_of_late_serial :
    ¬ ∀ (w : Workbook) (selection : SheetSelection) (s : Sheet) (rest : List Sheet),
      w.ReadsTogether selection s rest → ∃ t, w.table selection none = .ok t := by
  let s : Sheet := ⟨"First", [[.text "d", .text "n"], [.date (.ofNat 1000000000), .number (.ofNat 1)]]⟩
  have hreads : ReadsTogether ⟨.xlsx, [s]⟩ .first s [] := {
    sheets := .cons (by decide) .nil
    header := by decide +kernel
    distinct := by decide +kernel
    names := nofun }
  have hfails : (table ⟨.xlsx, [s]⟩ .first none).isOk = false := by decide +kernel
  intro h
  obtain ⟨t, ht⟩ := h _ _ _ _ hreads
  rw [ht] at hfails
  cases hfails

end Workbook

end TableReport
