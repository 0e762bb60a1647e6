import TableReport.Proofs.Load.Agreement
import TableReport.Proofs.Load.Inference
import TableReport.Proofs.Load.JsonLines
import TableReport.Proofs.Load.SheetSelection
import TableReport.Proofs.Table.RowNumbers
/-!
# Markers for missing values

A marker for a missing value means the same in a record of a CSV text and in a cell of a sheet: it becomes
null in every column, and tables do not tell the markers apart, neither by their cells nor by the types
that are inferred. A JSON text is always a value. Where it looks like a marker, a column with an inferred
type becomes one of texts.
-/
namespace TableReport

/-- A text that is a marker for a missing value, blanks around it not counting. -/
def StandsForMissing (s : String) : Prop := isMissingMarker (Text.trim s) = true

instance (s : String) : Decidable (StandsForMissing s) :=
  inferInstanceAs (Decidable (isMissingMarker (Text.trim s) = true))

/-- The texts are the same, or both are markers for a missing value. -/
def SameText (s s' : String) : Prop := s = s' ∨ StandsForMissing s ∧ StandsForMissing s'

section Lists

variable {α β γ : Type} {R : α → β → Prop} {S : β → γ → Prop} {T : α → γ → Prop}

theorem forall₂_flatten {xss : List (List α)} {ys : List β} (h : List.Forall₂ R xss.flatten ys) :
    ∃ yss : List (List β), yss.flatten = ys ∧ List.Forall₂ (List.Forall₂ R) xss yss := by
  induction xss generalizing ys with
  | nil => exact ⟨[], (List.forall₂_nil_left_iff.1 h).symm, .nil⟩
  | cons xs xss ih =>
    rw [List.flatten_cons] at h
    obtain ⟨yss, hyss, hrest⟩ := ih (List.forall₂_drop_append _ _ _ h.flip).flip
    refine ⟨ys.take xs.length :: yss, ?_, .cons (List.forall₂_take_append _ _ _ h.flip).flip hrest⟩
    rw [List.flatten_cons, hyss, List.take_append_drop]

theorem forall₂_trans {xs : List α} {ys : List β} {zs : List γ} (h : List.Forall₂ R xs ys)
    (h' : List.Forall₂ S ys zs) (trans : ∀ x y z, R x y → S y z → T x z) : List.Forall₂ T xs zs := by
  induction h generalizing zs with
  | nil =>
    cases h'
    exact .nil
  | cons hxy hxys ih =>
    cases h' with
    | cons hyz hyzs => exact .cons (trans _ _ _ hxy hyz) (ih hyzs)

theorem forall₂_getD {R : α → α → Prop} {xs ys : List α} {d : α} (h : List.Forall₂ R xs ys) (hd : R d d)
    (i : Nat) : R (xs.getD i d) (ys.getD i d) := by
  induction h generalizing i with
  | nil => exact hd
  | cons hxy hxys ih =>
    cases i with
    | zero => exact hxy
    | succ i => exact ih i

end Lists

/-! ### Values that are ignored -/

namespace CellRules

variable {α : Type} {rules : CellRules α} {schema : Schema} {v v' : α}

/-- A value that becomes null in every column and has no say in the type of its column. -/
def Ignores (rules : CellRules α) (v : α) : Prop :=
  rules.kind? v = none ∧ ∀ type, rules.cell type v = .ok .null

/-- The values are the same, or both are ignored. -/
def Alike (rules : CellRules α) (v v' : α) : Prop := v = v' ∨ rules.Ignores v ∧ rules.Ignores v'

/-- Two rows from one place with values that are alike. -/
def AlikeRows (rules : CellRules α) (row row' : SourceRow α) : Prop :=
  row.place = row'.place ∧ List.Forall₂ rules.Alike row.values row'.values

theorem Alike.kind?_eq (h : rules.Alike v v') : rules.kind? v = rules.kind? v' := by
  rcases h with rfl | ⟨hv, hv'⟩
  · rfl
  · rw [hv.1, hv'.1]

theorem Alike.cell_eq (h : rules.Alike v v') (place : RowPlace) (field : Field) :
    place.cell rules field v = place.cell rules field v' := by
  rcases h with rfl | ⟨hv, hv'⟩
  · rfl
  · simp only [RowPlace.cell, hv.2, hv'.2, Except.mapError]

theorem AlikeRows.cells_eq {row row' : SourceRow α} (h : rules.AlikeRows row row') :
    row.cells rules schema = row'.cells rules schema := by
  obtain ⟨place, values⟩ := row
  obtain ⟨place', values'⟩ := row'
  obtain ⟨rfl, hvalues : List.Forall₂ rules.Alike values values'⟩ := h
  unfold SourceRow.cells
  dsimp only
  -- The fields run along with the values.
  generalize schema.fields = fields
  induction hvalues generalizing fields with
  | nil => rfl
  | cons hv hvalues ih =>
    cases fields with
    | nil => rfl
    | cons field fields =>
      rw [List.zip_cons_cons, List.zip_cons_cons, List.mapM_cons, List.mapM_cons, ih fields,
        hv.cell_eq]

theorem kind?_getElem? {values values' : List α} (h : List.Forall₂ rules.Alike values values')
    (i : Nat) : values[i]?.bind rules.kind? = values'[i]?.bind rules.kind? := by
  induction h generalizing i with
  | nil => rfl
  | cons hv hvalues ih =>
    cases i with
    | zero => exact hv.kind?_eq
    | succ i => exact ih i

/-- The type of a column is that of the values that are left when some without a kind are dropped. -/
theorem kindsAt_eq_of_keep {keep : α → Bool} (hkeep : ∀ v, keep v = false → rules.kind? v = none)
    (rows : List (List α)) (i : Nat) :
    rules.kindsAt rows i = ((rows.filterMap (·[i]?)).filter keep).filterMap rules.kind? := by
  rw [List.filterMap_filter, List.filterMap_filterMap, kindsAt]
  congr 1
  funext values
  congr 1
  funext v
  cases hv : keep v with
  | true => rfl
  | false => exact hkeep v hv

variable {rows rows' : List (SourceRow α)}

theorem kindsAt_eq_of_alike (h : List.Forall₂ rules.AlikeRows rows rows') (i : Nat) :
    rules.kindsAt (rows.map SourceRow.values) i = rules.kindsAt (rows'.map SourceRow.values) i := by
  unfold kindsAt
  induction h with
  | nil => rfl
  | cons hrow hrows ih =>
    rw [List.map_cons, List.map_cons, List.filterMap_cons, List.filterMap_cons, ih,
      kind?_getElem? hrow.2 i]

theorem table_eq_of_alike (h : List.Forall₂ rules.AlikeRows rows rows') :
    rules.table schema rows = rules.table schema rows' := by
  have hcells : rows.mapM (·.cells rules schema) = rows'.mapM (·.cells rules schema) := by
    induction h with
    | nil => rfl
    | cons hrow hrows ih => rw [List.mapM_cons, List.mapM_cons, hrow.cells_eq, ih]
  unfold table
  rw [hcells]

/-- Rows that are alike become the same table, or fail in the same way. -/
theorem inferTable_eq_of_alike {names : List String} (h : List.Forall₂ rules.AlikeRows rows rows') :
    rules.inferTable names rows = rules.inferTable names rows' := by
  have hschema : rules.inferSchema names (rows.map SourceRow.values) =
      rules.inferSchema names (rows'.map SourceRow.values) := by
    simp only [inferSchema, kindsAt_eq_of_alike h]
  simp only [inferTable, hschema, table_eq_of_alike h]

/-- An ignored value is null in the column of its position. -/
theorem cell_eq_null {row : SourceRow α} {cells : Row} {j : Nat} {name : String}
    (h : row.cells rules schema = .ok cells) (hj : schema.names[j]? = some name)
    (hvalue : row.values[j]? = some v) (hv : rules.Ignores v) : cells.cell j = .null := by
  rw [Schema.names, List.getElem?_map, Option.map_eq_some_iff] at hj
  obtain ⟨field, hfield, -⟩ := hj
  have hcell := cell_of_cells h hfield hvalue
  rw [hv.2] at hcell
  exact (Except.ok.inj hcell).symm

theorem cell_eq_null_of_table {row : SourceRow α} {k j : Nat} {name : String} {t : Table}
    (h : rules.table schema rows = .ok t) (hk : rows[k]? = some row)
    (hj : schema.names[j]? = some name) (hvalue : row.values[j]? = some v) (hv : rules.Ignores v) :
    (t.row k).cell j = .null := by
  obtain ⟨cells, hcells, hrow⟩ := getElem?_of_mapM (table_eq_ok h).2 hk
  rw [Table.row, List.getD_eq_getElem?_getD, hcells]
  exact cell_eq_null hrow hj hvalue hv

end CellRules

variable {schema : Option Schema} {t : Table}

/-! ### CSV -/

namespace Csv

theorem ignores_of_standsForMissing {s : String} (h : StandsForMissing s) : cellRules.Ignores s := by
  have h' : isMissingMarker (Text.trim s) = true := h
  constructor
  · dsimp only [cellRules]
    exact TextCell.kind?_eq_none_iff.2 h'
  · intro type
    simp [cellRules, TextCell.read, h']

theorem alike_of_sameText {s s' : String} (h : SameText s s') : cellRules.Alike s s' :=
  h.imp_right fun hboth =>
    ⟨ignores_of_standsForMissing hboth.1, ignores_of_standsForMissing hboth.2⟩

theorem loadTable_of_document {text : List UInt8} {d : Document} (h : Document.ofBytes text = .ok d) :
    loadTable text schema = d.table schema := by
  rw [loadTable, h]
  rfl

namespace Document

variable {d d' : Document}

/-- The documents have the same headers, and the same texts but for markers for missing values. -/
structure SameButMarkers (d d' : Document) : Prop where
  headers : d.headers = d'.headers
  records : List.Forall₂ (List.Forall₂ SameText) d.records d'.records

theorem SameButMarkers.rows (h : d.SameButMarkers d') (positions : List Nat) :
    List.Forall₂ cellRules.AlikeRows (d.rows positions) (d'.rows positions) := by
  obtain ⟨headers, records⟩ := d
  obtain ⟨headers', records'⟩ := d'
  obtain ⟨-, hrecords : List.Forall₂ (List.Forall₂ SameText) records records'⟩ := h
  unfold Document.rows
  dsimp only
  generalize 2 = number
  induction hrecords generalizing number with
  | nil => exact .nil
  | cons hfields hrecords ih =>
    refine .cons ⟨rfl, ?_⟩ (ih (number + 1))
    rw [List.forall₂_map_left_iff, List.forall₂_map_right_iff, List.forall₂_same]
    exact fun i _ => alike_of_sameText (forall₂_getD hfields (.inl rfl) i)

theorem SameButMarkers.table_eq (h : d.SameButMarkers d') (schema : Option Schema) :
    d.table schema = d'.table schema := by
  cases schema with
  | none =>
    simp only [table, h.headers]
    exact CellRules.inferTable_eq_of_alike (h.rows _)
  | some s =>
    simp only [table, h.headers]
    cases (findColumns d'.headers s.names).mapError LoadError.shape with
    | error e => rfl
    | ok positions => exact CellRules.table_eq_of_alike (h.rows positions)

/-- Markers in the records are null in the table, in whatever column they stand. A column with an inferred
type has the type of the other texts in it. -/
structure PassesOver (d : Document) (schema : Option Schema) (t : Table) : Prop where
  null : ∀ k fields i j name, d.records[k]? = some fields →
    d.headers.findIdx? (· == name) = some i → t.schema.names[j]? = some name →
      StandsForMissing (fields.getD i "") → (t.row k).cell j = .null
  type : schema = none → ∀ i < d.headers.length, t.typeAt i =
    .ofKinds (((d.records.map (·.getD i "")).filter fun s => !StandsForMissing s).filterMap
      TextCell.kind?)

theorem getElem?_records {positions : List Nat} {k : Nat} {fields : List String}
    (h : d.records[k]? = some fields) :
    (d.rows positions)[k]? = some ⟨⟨k + 2, none⟩, positions.map (fields.getD · "")⟩ := by
  simp [rows, h, Nat.add_comm]

theorem cell_eq_null (h : d.table schema = .ok t) {k : Nat} {fields : List String}
    (hk : d.records[k]? = some fields) {i j : Nat} {name : String}
    (hi : d.headers.findIdx? (· == name) = some i) (hj : t.schema.names[j]? = some name)
    (hmissing : StandsForMissing (fields.getD i "")) : (t.row k).cell j = .null := by
  -- A table with inferred types is one under its own schema.
  have h : d.table (some t.schema) = .ok t := by
    cases schema with
    | none => exact d.table_inferred h
    | some s =>
      obtain ⟨positions, -, htable⟩ := bind_eq_ok h
      rwa [(CellRules.table_eq_ok htable).1]
  obtain ⟨positions, hpositions, h⟩ := bind_eq_ok h
  obtain ⟨i', hi', hposition⟩ := exists_of_findColumns (mapError_eq_ok.1 hpositions) hj
  obtain rfl : i = i' := Option.some.inj (hi.symm.trans hi')
  refine CellRules.cell_eq_null_of_table h (d.getElem?_records hk) hj ?_
    (ignores_of_standsForMissing hmissing)
  simp [hposition]

theorem passesOver_of_table (h : d.table schema = .ok t) : d.PassesOver schema t where
  null _ _ _ _ _ hk hi hj hmissing := cell_eq_null h hk hi hj hmissing
  type hschema i hi := by
    subst hschema
    have hkeep : ∀ s : String, (!StandsForMissing s) = false → cellRules.kind? s = none := by
      intro s hs
      exact (ignores_of_standsForMissing (by simpa using hs)).1
    have hvalues : ((d.rows (List.range d.headers.length)).map SourceRow.values).filterMap (·[i]?) =
        d.records.map (·.getD i "") := by
      simp [values_rows, hi, List.filterMap_map]
    rw [CellRules.typeAt_of_inferTable h hi, CellRules.kindsAt_eq_of_keep hkeep, hvalues]
    rfl

end Document

end Csv

/-! ### Workbooks -/

namespace SheetCell

/-- The cells are the same, or both are texts that are markers for a missing value. -/
def SameButMarkers (c c' : SheetCell) : Prop :=
  c = c' ∨ ∃ s s', c = .text s ∧ c' = .text s' ∧ StandsForMissing s ∧ StandsForMissing s'

/-- Whether a cell is a text that is a marker for a missing value. -/
def isMarker : SheetCell → Bool
  | .text s => StandsForMissing s
  | _ => false

theorem ignores_of_standsForMissing {s : String} (h : StandsForMissing s) :
    cellRules.Ignores (.text s) := by
  have h' : (SheetCell.text s).isMissing = true := h
  constructor
  · dsimp only [cellRules]
    exact kind?_eq_none_iff.2 h'
  · intro type
    simp [cellRules, toCell, h']

theorem kind?_of_isMarker {c : SheetCell} (h : c.isMarker = true) : cellRules.kind? c = none := by
  cases c with
  | text s => exact (ignores_of_standsForMissing (of_decide_eq_true h)).1
  | _ => cases h

theorem SameButMarkers.alike {c c' : SheetCell} (h : c.SameButMarkers c') : cellRules.Alike c c' := by
  rcases h with rfl | ⟨s, s', rfl, rfl, hs, hs'⟩
  · exact .inl rfl
  · exact .inr ⟨ignores_of_standsForMissing hs, ignores_of_standsForMissing hs'⟩

end SheetCell

namespace Sheet

variable {s s' : Sheet}

/-- The names in the header of a sheet. -/
def headers (s : Sheet) : List String := (s.grid.headD []).map SheetCell.headerText

/-- The rows below the header of a sheet. -/
def body (s : Sheet) : List (List SheetCell) := s.grid.tail

/-- The sheets have the same name and header, and below it the same cells but for markers for missing
values. -/
structure SameButMarkers (s s' : Sheet) : Prop where
  name : s.name = s'.name
  header : s.grid.head? = s'.grid.head?
  body : List.Forall₂ (List.Forall₂ SheetCell.SameButMarkers) s.body s'.body

/-- The rows below the header with the cells at given positions. -/
def rowsAt (s : Sheet) (positions : List Nat) : List (SourceRow SheetCell) :=
  (s.body.zipIdx 2).map fun (cells, number) =>
    ⟨⟨number, some s.name⟩, positions.map (cells.getD · .empty)⟩

theorem select_eq (s : Sheet) (wanted : Option (List String)) : s.select wanted =
    match s.grid.head? with
    | none => .error .noHeaderRow
    | some _ =>
      (findColumns s.headers (wanted.getD s.headers)).map fun positions =>
        (wanted.getD s.headers, s.rowsAt positions) := by
  unfold select split headers rowsAt body
  cases s.grid with
  | nil => rfl
  | cons header rows =>
    dsimp only [List.head?_cons, List.headD_cons, List.tail_cons, bind, Except.bind]
    cases findColumns (header.map SheetCell.headerText)
      (wanted.getD (header.map SheetCell.headerText)) <;> rfl

theorem SameButMarkers.rowsAt (h : s.SameButMarkers s') (positions : List Nat) :
    List.Forall₂ SheetCell.cellRules.AlikeRows (s.rowsAt positions) (s'.rowsAt positions) := by
  have hbody := h.body
  unfold Sheet.rowsAt
  rw [h.name]
  generalize s.body = rows, s'.body = rows', 2 = number at hbody ⊢
  induction hbody generalizing number with
  | nil => exact .nil
  | cons hcells hrows ih =>
    refine .cons ⟨rfl, ?_⟩ (ih (number + 1))
    rw [List.forall₂_map_left_iff, List.forall₂_map_right_iff, List.forall₂_same]
    exact fun i _ => (forall₂_getD hcells (.inl rfl) i).alike

/-- Rows under the same columns that are alike. -/
def SelectedAlike (found found' : List String × List (SourceRow SheetCell)) : Prop :=
  found.1 = found'.1 ∧ List.Forall₂ SheetCell.cellRules.AlikeRows found.2 found'.2

/-- What is selected from such sheets is alike, or nothing can be selected from either. -/
theorem SameButMarkers.select (h : s.SameButMarkers s') (wanted : Option (List String)) :
    Agree (· = ·) SelectedAlike (s.select wanted) (s'.select wanted) := by
  have hheaders : s.headers = s'.headers := by
    rw [headers, headers, List.headD_eq_head?_getD, List.headD_eq_head?_getD, h.header]
  rw [select_eq, select_eq, h.header, hheaders]
  cases s'.grid.head? with
  | none => exact .error rfl
  | some header =>
    refine (Agree.of_eq (fun _ => rfl) rfl).map ?_
    rintro positions _ rfl
    exact ⟨rfl, h.rowsAt positions⟩

/-- In the rows of a table under given columns, the markers below the header of a sheet are null. -/
def MarkersNull (s : Sheet) (columns : List String) (rows : List Row) : Prop :=
  List.Forall₂ (fun cells row => ∀ i j name text, s.headers.findIdx? (· == name) = some i →
    columns[j]? = some name → cells[i]? = some (.text text) → StandsForMissing text →
      Row.cell row j = .null) s.body rows

/-- The cells of a column of a sheet. -/
def cellsUnder (s : Sheet) (column : String) : List SheetCell :=
  s.body.map (·.getD ((s.headers.findIdx? (· == column)).getD 0) .empty)

section Rows

variable {wanted columns : List String} {rows : List (SourceRow SheetCell)}

theorem select_eq_ok (h : s.select (some wanted) = .ok (columns, rows)) :
    ∃ positions, findColumns s.headers wanted = .ok positions ∧ rows = s.rowsAt positions := by
  rw [select_eq] at h
  split at h
  · cases h
  · obtain ⟨positions, hpositions, h⟩ := map_eq_ok h
    exact ⟨positions, hpositions, (Prod.mk.inj h).2.symm⟩

theorem markersNull_of_select {schema : Schema} {cells : List Row}
    (h : s.select (some schema.names) = .ok (columns, rows))
    (hcells : List.Forall₂ (fun row cells => row.cells SheetCell.cellRules schema = .ok cells) rows
      cells) : s.MarkersNull schema.names cells := by
  obtain ⟨positions, hpositions, rfl⟩ := select_eq_ok h
  unfold MarkersNull
  rw [← List.zipIdx_map_fst 2 s.body, List.forall₂_map_left_iff]
  refine (List.forall₂_map_left_iff.1 hcells).imp ?_
  rintro ⟨values, number⟩ row hrow i j name text hi hj htext hmissing
  obtain ⟨i', hi', hposition⟩ := exists_of_findColumns hpositions hj
  obtain rfl : i = i' := Option.some.inj (hi.symm.trans hi')
  refine CellRules.cell_eq_null hrow hj ?_ (SheetCell.ignores_of_standsForMissing hmissing)
  simp [hposition, htext]

theorem values_of_select (h : s.select (some wanted) = .ok (columns, rows)) {j : Nat} {column : String}
    (hj : wanted[j]? = some column) :
    (rows.map SourceRow.values).filterMap (·[j]?) = s.cellsUnder column := by
  obtain ⟨positions, hpositions, rfl⟩ := select_eq_ok h
  obtain ⟨i, hi, hposition⟩ := exists_of_findColumns hpositions hj
  have hvalues : (s.rowsAt positions).map SourceRow.values =
      s.body.map fun cells => positions.map (cells.getD · .empty) := by
    rw [rowsAt, List.map_map, ← List.zipIdx_map_fst 2 s.body, List.map_map, List.zipIdx_map_fst]
    rfl
  simp [hvalues, List.filterMap_map, hposition, cellsUnder, hi]

theorem values_of_selects {sheets : List Sheet} {found : List (List (SourceRow SheetCell))}
    (h : List.Forall₂ (fun s part => s.select (some wanted) = .ok (columns, part)) sheets found)
    {j : Nat} {column : String} (hj : wanted[j]? = some column) :
    (found.flatten.map SourceRow.values).filterMap (·[j]?) =
      sheets.flatMap (·.cellsUnder column) := by
  induction h with
  | nil => rfl
  | cons hpart hparts ih =>
    rw [List.flatten_cons, List.map_append, List.filterMap_append, ih, values_of_select hpart hj,
      List.flatMap_cons]

end Rows

end Sheet

namespace Workbook

variable {w w' : Workbook} {selection : SheetSelection}

/-- The workbooks are of one container and have the same sheets, but for markers for missing values below
the headers. -/
structure SameButMarkers (w w' : Workbook) : Prop where
  container : w.container = w'.container
  sheets : List.Forall₂ Sheet.SameButMarkers w.sheets w'.sheets

theorem SameButMarkers.sheet (h : w.SameButMarkers w') (name : String) :
    Agree (· = ·) Sheet.SameButMarkers (w.sheet name) (w'.sheet name) :=
  agree_sheet h.container h.sheets (fun _ _ hs => hs.name) name

theorem SameButMarkers.sheetNames_eq (h : w.SameButMarkers w') : w.sheetNames = w'.sheetNames :=
  Workbook.sheetNames_eq h.sheets fun _ _ hs => hs.name

theorem SameButMarkers.selectRows (h : w.SameButMarkers w') (wanted : Option (List String))
    (names : List String) :
    Agree (· = ·) Sheet.SelectedAlike (w.selectRows wanted names) (w'.selectRows wanted names) := by
  induction names generalizing wanted with
  | nil => exact .ok ⟨rfl, .nil⟩
  | cons name names ih =>
    simp only [Workbook.selectRows]
    refine (h.sheet name).bind fun s s' hsame => ?_
    refine ((hsame.select wanted).mapError fun _ _ hp => hp ▸ rfl).bind ?_
    rintro ⟨columns, rows⟩ ⟨_, rows'⟩ ⟨rfl, hrows⟩
    refine (ih (some columns)).bind ?_
    rintro ⟨columns, more⟩ ⟨_, more'⟩ ⟨rfl, hmore⟩
    exact .ok ⟨rfl, List.rel_append hrows hmore⟩

theorem SameButMarkers.table_eq (h : w.SameButMarkers w') (selection : SheetSelection)
    (schema : Option Schema) : w.table selection schema = w'.table selection schema := by
  unfold table
  rw [h.sheetNames_eq]
  dsimp only
  split
  · rfl
  · refine ((h.selectRows _ _).bind ?_).eq
    rintro ⟨columns, rows⟩ ⟨_, rows'⟩ ⟨rfl, hrows⟩
    apply Agree.of_eq fun _ => rfl
    cases schema with
    | none => exact CellRules.inferTable_eq_of_alike hrows
    | some s => exact CellRules.table_eq_of_alike hrows

/-- Markers below the headers of the sheets are null in the table, in whatever column they stand. A column
with an inferred type has the type of the other cells in it. -/
structure PassesOver (sheets : List Sheet) (schema : Option Schema) (t : Table) : Prop where
  null : ∃ parts : List (List Row), t.rows = parts.flatten ∧
    List.Forall₂ (fun s rows => s.MarkersNull t.schema.names rows) sheets parts
  type : schema = none → ∀ j column, t.schema.names[j]? = some column → t.typeAt j =
    .ofKinds (((sheets.flatMap (·.cellsUnder column)).filter fun c => !c.isMarker).filterMap
      SheetCell.kind?)

section Selected

variable {names columns : List String} {rows : List (SourceRow SheetCell)}

/-- The rows of several sheets under given columns are those of each. -/
theorem selectRows_eq_ok {wanted : List String}
    (h : w.selectRows (some wanted) names = .ok (columns, rows)) : ∃ sheets found,
      List.Forall₂ (fun name s => w.sheet name = .ok s) names sheets ∧ rows = found.flatten ∧
        List.Forall₂ (fun s part => s.select (some wanted) = .ok (wanted, part)) sheets found := by
  rw [selectRows_some] at h
  obtain ⟨found, hfound, h⟩ := map_eq_ok h
  obtain ⟨sheets, hsheets⟩ : ∃ sheets, names.mapM w.sheet = .ok sheets := by
    refine exists_mapM_eq_ok_iff.2 fun name hname => ?_
    obtain ⟨part, -, hpart⟩ := exists_of_mapM_mem hfound hname
    obtain ⟨s, hs, -⟩ := sheetRows_eq_ok_iff.1 hpart
    exact ⟨s, hs⟩
  refine ⟨sheets, found, mapM_eq_ok_iff.1 hsheets, (Prod.mk.inj h).2.symm, ?_⟩
  apply forall₂_trans (mapM_eq_ok_iff.1 hsheets).flip (mapM_eq_ok_iff.1 hfound)
  intro s name part hs hpart
  obtain ⟨s', hs', hselect⟩ := sheetRows_eq_ok_iff.1 hpart
  rwa [Except.ok.inj (hs.symm.trans hs')]

/-- The rows of a table are those under the names of its columns, also where no columns were wanted. -/
theorem selected_of_table (h : w.table selection schema = .ok t) : ∃ columns rows,
    w.selectRows (some t.schema.names) (selection.select w.sheetNames schema) = .ok (columns, rows) ∧
      SheetCell.cellRules.table t.schema rows = .ok t ∧
        (schema = none → SheetCell.cellRules.inferTable columns rows = .ok t) := by
  unfold table at h
  dsimp only at h
  split at h
  · cases h
  case isFalse hempty =>
    obtain ⟨⟨columns, rows⟩, hrows, h⟩ := bind_eq_ok h
    refine ⟨columns, rows, ?_⟩
    cases schema with
    | none =>
      obtain ⟨hnames, htable⟩ := CellRules.table_of_inferTable h
      rw [hnames]
      exact ⟨selectRows_columns_of_none (by simpa using hempty) hrows, htable, fun _ => h⟩
    | some s =>
      rw [(CellRules.table_eq_ok h).1]
      exact ⟨hrows, h, nofun⟩

theorem passesOver_of_table (h : w.table selection schema = .ok t) : ∃ sheets,
    List.Forall₂ (fun name s => w.sheet name = .ok s) (selection.select w.sheetNames schema) sheets ∧
      PassesOver sheets schema t := by
  obtain ⟨columns, rows, hselected, htable, hinferred⟩ := selected_of_table h
  obtain ⟨sheets, found, hsheets, rfl, hfound⟩ := selectRows_eq_ok hselected
  obtain ⟨parts, hparts, hcells⟩ := forall₂_flatten (mapM_eq_ok_iff.1 (CellRules.table_eq_ok htable).2)
  refine ⟨sheets, hsheets, ⟨parts, hparts.symm, ?_⟩, ?_⟩
  · exact forall₂_trans hfound hcells fun s part cells => Sheet.markersNull_of_select
  · intro hschema j column hj
    have hlength := CellRules.lt_length_of_inferTable (hinferred hschema) hj
    have hkeep : ∀ c : SheetCell, (!c.isMarker) = false → SheetCell.cellRules.kind? c = none :=
      fun c hc => SheetCell.kind?_of_isMarker (by simpa using hc)
    rw [CellRules.typeAt_of_inferTable (hinferred hschema) hlength, CellRules.kindsAt_eq_of_keep hkeep,
      Sheet.values_of_selects hfound hj]
    rfl

end Selected

end Workbook

/-! ### JSON -/

theorem readDateTime?_of_standsForMissing {s : String} (h : StandsForMissing s) :
    readDateTime? s = none := by
  have hmarker : Text.trim s ∈ missingMarkers := List.contains_iff_mem.1 h
  have hdates : ∀ marker ∈ missingMarkers, looksLikeDate marker = false := by decide +kernel
  simp [readDateTime?, hdates _ hmarker]

theorem ColumnType.ofKinds_of_text_mem {kinds : List CellKind} (h : CellKind.text ∈ kinds) :
    ofKinds kinds = .utf8 := by
  have hfits := fits_ofKinds h
  have hne : ofKinds kinds ≠ .null := mt ofKinds_eq_null_iff.1 (List.ne_nil_of_mem h)
  generalize ofKinds kinds = type at hfits hne ⊢
  cases type <;> simp_all [CellKind.fits]

namespace Json

/-- The value that a record has for a column: under a schema the one at the end of a path, or else the
member of that name. -/
def Members.columnValue? (members : Members) (schema : Option Schema) (name : String) : Option Json :=
  match schema with
  | none => members.get? name
  | some _ => members.atPath? name

theorem kind?_of_standsForMissing {s : String} (h : StandsForMissing s) :
    cellRules.kind? (.text s) = some .text := by
  simp [cellRules, kind?, readDateTime?_of_standsForMissing h]

/-- Columns of texts take a marker as it is, and columns without values take anything. -/
theorem toCell_of_standsForMissing {s : String} {type : ColumnType} {c : Cell} (h : StandsForMissing s)
    (hc : toCell type (.text s) = .ok c) :
    type = .utf8 ∧ c = .text s ∨ type = .null ∧ c = .null := by
  cases type with
  | null => exact .inr ⟨rfl, (Except.ok.inj hc).symm⟩
  | utf8 => exact .inl ⟨rfl, (Except.ok.inj hc).symm⟩
  | dateTime => simp [toCell, isNull, dateCell, readDateTime?_of_standsForMissing h] at hc
  | int64 | float64 | bool => cases hc

section Tables

variable {records : List Json} {k j : Nat} {members : Members} {name : String} {v : Json}

theorem cell_of_strictTable {s : Schema} (h : strictTable s records = .ok t)
    (hk : records[k]? = some (.object members)) (hj : s.names[j]? = some name)
    (hv : members.atPath? name = some v) : toCell (t.typeAt j) v = .ok ((t.row k).cell j) := by
  obtain ⟨rows, hrows, h⟩ := bind_eq_ok h
  obtain rfl := Except.ok.inj h
  have hrecord : (records.zipIdx 1)[k]? = some (.object members, 1 + k) := by simp [hk]
  obtain ⟨cells, hcells, hrow⟩ := getElem?_of_mapM hrows hrecord
  rw [Schema.names, List.getElem?_map, Option.map_eq_some_iff] at hj
  obtain ⟨field, hfield, rfl⟩ := hj
  obtain ⟨c, hc, hcell⟩ := getElem?_of_mapM hrow hfield
  rw [hv] at hcell
  have hcell' : toCell field.type v = .ok c := mapError_eq_ok.1 hcell
  simpa [Table.typeAt, Schema.typeAt?, hfield, Table.row, hcells, Row.cell, hc] using hcell'

theorem cell_of_inferredTable (h : inferredTable records = .ok t)
    (hk : records[k]? = some (.object members)) (hj : t.schema.names[j]? = some name)
    (hv : (members.get? name).getD .null = v) : toCell (t.typeAt j) v = .ok ((t.row k).cell j) ∧
      ∃ kinds, t.typeAt j = .ofKinds kinds ∧ ∀ kind, kind? v = some kind → kind ∈ kinds := by
  obtain ⟨objects, hobjects, h⟩ := bind_eq_ok h
  have hrecord : (records.zipIdx 1)[k]? = some (.object members, 1 + k) := by simp [hk]
  obtain ⟨object, hobject, hmembers⟩ := getElem?_of_mapM hobjects hrecord
  obtain rfl : members = object := Except.ok.inj hmembers
  obtain ⟨hnames, -⟩ := CellRules.table_of_inferTable h
  rw [hnames] at hj
  generalize memberNames objects = names at h hnames hj
  have hvalue : (names.map fun name => (members.get? name).getD .null)[j]? = some v := by
    simp [hj, hv]
  have hrow (f : Members × Nat → SourceRow Json) :
      ((objects.zipIdx 1).map f)[k]? = some (f (members, 1 + k)) := by
    simp [hobject]
  obtain ⟨hlength, -⟩ := List.getElem?_eq_some_iff.1 hj
  have htype := CellRules.typeAt_of_inferTable h hlength
  constructor
  · have htable := (CellRules.inferTable_eq_ok h).2
    rw [← (CellRules.table_eq_ok htable).1] at htable
    obtain ⟨cells, hcells, hcell⟩ := getElem?_of_mapM (CellRules.table_eq_ok htable).2 (hrow _)
    rw [← hnames, Schema.names, List.getElem?_map, Option.map_eq_some_iff] at hj
    obtain ⟨field, hfield, -⟩ := hj
    have hcell' : toCell field.type v = .ok (cells.cell j) := CellRules.cell_of_cells hcell hfield hvalue
    simpa [Table.typeAt, Schema.typeAt?, hfield, Table.row, hcells] using hcell'
  · refine ⟨_, htype, fun kind hkind => CellRules.mem_kindsAt.2 ?_⟩
    exact ⟨_, List.mem_map_of_mem (List.mem_of_getElem? (hrow _)), v, hvalue, hkind⟩

/-- A text that is like a marker stays the text it is. Only a schema can ask for a column without values,
where it is null like every other value. -/
theorem marker_kept {input : String} (hrecords : readRecords input = .ok records)
    (h : loadTable input schema = .ok t) (hk : records[k]? = some (.object members))
    (hj : t.schema.names[j]? = some name) {s : String}
    (hs : members.columnValue? schema name = some (.text s)) (hmissing : StandsForMissing s) :
    t.typeAt j = .utf8 ∧ (t.row k).cell j = .text s ∨
      schema.isSome = true ∧ t.typeAt j = .null ∧ (t.row k).cell j = .null := by
  obtain ⟨records', hrecords', h⟩ := bind_eq_ok h
  obtain rfl : records = records' := by
    rw [hrecords] at hrecords'
    exact Except.ok.inj hrecords'
  cases schema with
  | some columns =>
    have hschema : t.schema = columns := by
      obtain ⟨rows, -, h⟩ := bind_eq_ok h
      obtain rfl := Except.ok.inj h
      rfl
    rw [hschema] at hj
    exact (toCell_of_standsForMissing hmissing (cell_of_strictTable h hk hj hs)).imp_right
      fun hnull => ⟨rfl, hnull⟩
  | none =>
    obtain ⟨hcell, kinds, htype, hkinds⟩ := cell_of_inferredTable h hk hj (congrArg (·.getD .null) hs)
    have htext : t.typeAt j = .utf8 := by
      rw [htype]
      exact ColumnType.ofKinds_of_text_mem (hkinds .text (kind?_of_standsForMissing hmissing))
    rw [htext] at hcell
    exact .inl ⟨htext, (Except.ok.inj hcell).symm⟩

end Tables

end Json

/-- With inferred types and under every schema, tables do not tell texts that stand for a missing value from
one another, and each of them is null: in the records of a CSV text, and in the sheets of a workbook below
the headers. JSON has no such texts: what looks like a marker is null only in a column that is asked for
without values, and otherwise it is a text, which makes a column with an inferred type one of texts. -/
theorem missing_markers_by_format (schema : Option Schema) :
    (∀ text d, Csv.Document.ofBytes text = .ok d →
      (∀ text' d', Csv.Document.ofBytes text' = .ok d' → d.SameButMarkers d' →
        Csv.loadTable text schema = Csv.loadTable text' schema) ∧
      ∀ t, Csv.loadTable text schema = .ok t → d.PassesOver schema t) ∧
    (∀ (w : Workbook) (selection : SheetSelection),
      (∀ w', w.SameButMarkers w' → w.table selection schema = w'.table selection schema) ∧
      ∀ t, w.table selection schema = .ok t → ∃ sheets,
        List.Forall₂ (fun name s => w.sheet name = .ok s) (selection.select w.sheetNames schema)
          sheets ∧ Workbook.PassesOver sheets schema t) ∧
    ∀ input records t, Json.readRecords input = .ok records → Json.loadTable input schema = .ok t →
      ∀ k members j name s, records[k]? = some (.object members) → t.schema.names[j]? = some name →
        Json.Members.columnValue? members schema name = some (.text s) → StandsForMissing s →
          t.typeAt j = .utf8 ∧ (t.row k).cell j = .text s ∨
            schema.isSome = true ∧ t.typeAt j = .null ∧ (t.row k).cell j = .null := by
  refine ⟨?_, ?_, ?_⟩
  · intro text d hd
    constructor
    · intro text' d' hd' h
      rw [Csv.loadTable_of_document hd, Csv.loadTable_of_document hd', h.table_eq]
    · intro t h
      rw [Csv.loadTable_of_document hd] at h
      exact d.passesOver_of_table h
  · intro w selection
    exact ⟨fun w' h => h.table_eq selection schema, fun t h => w.passesOver_of_table h⟩
  · intro input records t hrecords h k members j name s hk hj hs hmissing
    exact Json.marker_kept hrecords h hk hj hs hmissing

/-- A marker with blanks around it in a CSV text and in a workbook, and in JSON below an integer. -/
theorem missing_markers_in_three_formats :
    let text := Text.encodeUtf8 "a,b\n1, NA \n"
    let text' := Text.encodeUtf8 "a,b\n1,\n"
    let d : Csv.Document := ⟨["a", "b"], [["1", " NA "]]⟩
    let w : Workbook := ⟨.xlsx, [⟨"s", [[.text "a", .text "b"], [.int 1, .text "n/a"]]⟩]⟩
    let w' : Workbook := ⟨.xlsx, [⟨"s", [[.text "a", .text "b"], [.int 1, .text "None"]]⟩]⟩
    let t : Table := ⟨⟨[⟨"a", .int64⟩, ⟨"b", .null⟩]⟩, [[.int 1, .null]]⟩
    let input := "[\x7b\"a\": 1\x7d, \x7b\"a\": \" NA \"\x7d]"
    let json : Table := ⟨⟨[⟨"a", .utf8⟩]⟩, [[.text "1"], [.text " NA "]]⟩
    (Csv.loadTable text none = Csv.loadTable text' none ∧ d.PassesOver none t) ∧
      (w.table .first none = w'.table .first none ∧
        ∃ sheets, List.Forall₂ (fun name s => w.sheet name = .ok s) ["s"] sheets ∧
          Workbook.PassesOver sheets none t) ∧
      Json.loadTable input none = .ok json ∧
      json.typeAt 0 = .utf8 ∧ (json.row 1).cell 0 = .text " NA " := by
  intro text text' d w w' t input json
  have hd : Csv.Document.ofBytes text = .ok d := by decide +kernel
  have hjson : Json.loadTable input none = .ok json := by decide +kernel
  have hcsv := (missing_markers_by_format none).1 text d hd
  have hworkbook := (missing_markers_by_format none).2.1 w .first
  refine ⟨⟨?_, ?_⟩, ⟨?_, ?_⟩, ?_⟩
  · apply hcsv.1 text' ⟨["a", "b"], [["1", ""]]⟩ (by decide +kernel)
    exact ⟨rfl, .cons (.cons (.inl rfl) (.cons (.inr (by decide)) .nil)) .nil⟩
  · exact hcsv.2 t (by decide +kernel)
  · apply hworkbook.1 w'
    refine ⟨rfl, .cons ⟨rfl, rfl, ?_⟩ .nil⟩
    exact .cons (.cons (.inl rfl) (.cons (.inr ⟨"n/a", "None", rfl, rfl, by decide⟩) .nil)) .nil
  · exact hworkbook.2 t (by decide +kernel)
  · let chars := ['[', '\x7b', '"', 'a', '"', ':', ' ', '1', '\x7d', ',', ' ', '\x7b', '"', 'a', '"', ':', ' ',
      '"', ' ', 'N', 'A', ' ', '"', '\x7d', ']']
    have hrecords : Json.readRecords input =
        .ok [.object [("a", .int 1)], .object [("a", .text " NA ")]] :=
      Json.readRecords_of_list (Json.parse?_of_chars (by decide +kernel : _ = chars) rfl)
    have hkept := (missing_markers_by_format none).2.2 input _ json hrecords hjson 1 _ 0 "a" " NA "
      rfl rfl rfl (by decide)
    exact ⟨hjson, hkept.resolve_right fun hnull => Bool.false_ne_true hnull.1⟩

/-- An empty text in JSON is not null, neither with an inferred type nor under a schema. -/
theorem Json.empty_text_is_kept :
    StandsForMissing "" ∧
      Json.loadTable "[\x7b\"a\": \"\"\x7d]" none = .ok ⟨⟨[⟨"a", .utf8⟩]⟩, [[.text ""]]⟩ ∧
      Json.loadTable "[\x7b\"a\": \"\"\x7d]" (some ⟨[⟨"a", .utf8⟩]⟩) =
        .ok ⟨⟨[⟨"a", .utf8⟩]⟩, [[.text ""]]⟩ := by
  decide +kernel

end TableReport
