import TableReport.Proofs.Load.SheetGrid
/-!
# Columns by their names

Under a schema the columns of CSV records and of sheets are found by their names alone. Where they stand
is of no matter, and neither are columns that the schema does not name: the same table is loaded, or the
same is complained of, but for the headers that are listed with a missing column.
-/
namespace TableReport

/-! ### CSV -/

namespace Csv.Document

variable {d d' : Document}

def asGrid (d : Document) : Grid String := ⟨d.headers, d.records⟩

/-- Under a schema a document has the table of its rows. -/
theorem table_some_eq (d : Document) (schema : Schema) : d.table (some schema) =
    ((findColumns d.headers schema.names).map (d.asGrid.rows "" none)).mapError .shape >>=
      cellRules.table schema := by
  dsimp only [table]
  cases findColumns d.headers schema.names <;> rfl

theorem agree_table {schema : Schema} (h : Grid.SameColumns schema.names "" d.asGrid d'.asGrid) :
    Agree LoadError.Same (· = ·) (d.table (some schema)) (d'.table (some schema)) := by
  rw [table_some_eq, table_some_eq]
  refine ((h.agree_rows none).mapError fun _ _ => .shape).bind ?_
  rintro rows _ rfl
  exact .of_eq .rfl rfl

end Csv.Document

/-! ### Sheets -/

namespace Sheet

/-- The sheets have the same name, both or none of them have a header, and below it they have the same
columns with the given names. -/
structure SameColumns (names : List String) (s s' : Sheet) : Prop where
  name : s.name = s'.name
  header : s.usedRows = [] ↔ s'.usedRows = []
  grid : Grid.SameColumns names .empty s.asGrid s'.asGrid

variable {s s' : Sheet} {names : List String}

theorem SameColumns.readGrid (h : SameColumns names s s') (hnames : "" ∉ names) :
    Grid.SameColumns names .empty s.readGrid s'.readGrid where
  length := by
    rw [length_readGrid, length_readGrid, h.grid.length]
  columns := by
    rw [columnsNamed_readGrid hnames, columnsNamed_readGrid hnames]
    exact h.grid.columns
  distinct := by
    rw [columnsNamed_readGrid hnames]
    exact h.grid.distinct

theorem SameColumns.agree_select (h : SameColumns names s s') (hnames : "" ∉ names) :
    Agree ShapeProblem.Same (· = ·) (s.select (some names)) (s'.select (some names)) := by
  have hheader : s.grid = [] ↔ s'.grid = [] := by
    rw [grid_eq_nil_iff, grid_eq_nil_iff, h.header]
  by_cases hgrid : s.grid = []
  · rw [select_eq, select_eq, hgrid, hheader.1 hgrid]
    exact .error (.rfl .noHeaderRow)
  · rw [select_some_eq names hgrid, select_some_eq names (mt hheader.2 hgrid), h.name]
    refine ((h.readGrid hnames).agree_rows (some s'.name)).map ?_
    rintro rows _ rfl
    rfl

end Sheet

/-! ### Workbooks -/

namespace Workbook

/-- The workbooks are of one container, and have sheets of the same names with the same columns. -/
structure SameColumns (names : List String) (w w' : Workbook) : Prop where
  container : w.container = w'.container
  sheets : List.Forall₂ (Sheet.SameColumns names) w.sheets w'.sheets

variable {w w' : Workbook} {names : List String}

theorem SameColumns.agree_sheetRows (h : SameColumns names w w') (hnames : "" ∉ names) (name : String) :
    Agree LoadError.Same (· = ·) (w.sheetRows names name) (w'.sheetRows names name) := by
  have hsheet := agree_sheet h.container h.sheets (fun _ _ hs => hs.name) name
  refine (hsheet.imp fun _ _ he => he ▸ .rfl _).bind fun s s' hs => ?_
  refine ((hs.agree_select hnames).mapError fun p p' hp => .shape (.inSheet name hp)).bind ?_
  rintro ⟨columns, rows⟩ _ rfl
  exact .ok rfl

theorem SameColumns.agree_table {schema : Schema} (h : SameColumns schema.names w w')
    (hnames : "" ∉ schema.names) (selection : SheetSelection) :
    Agree LoadError.Same (· = ·) (w.table selection (some schema)) (w'.table selection (some schema)) := by
  have hsheets : w.sheetNames = w'.sheetNames := sheetNames_eq h.sheets fun _ _ hs => hs.name
  cases hselect : selection.select w.sheetNames (some schema) with
  | nil =>
    have hselect' : selection.select w'.sheetNames (some schema) = [] := hsheets ▸ hselect
    refine .of_eq .rfl ?_
    simp [table, hselect, hselect']
  | cons name names =>
    have hne := List.cons_ne_nil name names
    rw [table_some selection _ hselect hne, table_some selection _ (hsheets ▸ hselect) hne]
    refine (Agree.mapM fun name _ => h.agree_sheetRows hnames name).bind fun parts parts' hparts => ?_
    rw [List.forall₂_eq_eq_eq] at hparts
    exact .of_eq .rfl (hparts ▸ rfl)

end Workbook

/-- Strict loading reads columns by their names. Records of a CSV text and sheets of a workbook that have
the same columns under the names of a schema are loaded as the same table, or the same is complained of,
a missing column being the same one. -/
theorem columns_found_by_name (schema : Schema) :
    (∀ (text text' : List UInt8) (d d' : Csv.Document), Csv.Document.ofBytes text = .ok d →
      Csv.Document.ofBytes text' = .ok d' → Grid.SameColumns schema.names "" d.asGrid d'.asGrid →
        Agree LoadError.Same (· = ·) (Csv.loadTable text (some schema))
          (Csv.loadTable text' (some schema))) ∧
    ("" ∉ schema.names → ∀ (w w' : Workbook) (selection : SheetSelection),
      w.SameColumns schema.names w' →
        Agree LoadError.Same (· = ·) (w.table selection (some schema))
          (w'.table selection (some schema))) := by
  constructor
  · intro text text' d d' hd hd' h
    rw [Csv.loadTable_of_document hd, Csv.loadTable_of_document hd']
    exact Csv.Document.agree_table h
  · intro hnames w w' selection h
    exact h.agree_table hnames selection

/-- The second text has the wanted columns the other way round and one column less. The second sheet has a
blank column on the left, the wanted columns the other way round as well, and another one in place of the
third. -/
theorem columns_found_by_name_elsewhere :
    let text := Text.encodeUtf8 "a,b,c\n1,x,2\nNA,y,3\n"
    let text' := Text.encodeUtf8 "c,a\n2,1\n3,NA\n"
    let w : Workbook := ⟨.xlsx, [⟨"s", [[.text "a", .text "b", .text " c"],
      [.number (.ofNat 1), .fault .name, .text "2"]]⟩]⟩
    let w' : Workbook := ⟨.xlsx, [⟨"s", [[.empty, .text "c", .text "d", .text "a"],
      [.empty, .text "2", .bool true, .number (.ofNat 1)]]⟩]⟩
    let schema : Schema := ⟨[⟨"a", .int64⟩, ⟨"c", .utf8⟩]⟩
    w.SameColumns schema.names w' ∧
      Agree LoadError.Same (· = ·) (Csv.loadTable text (some schema))
        (Csv.loadTable text' (some schema)) ∧
      Agree LoadError.Same (· = ·) (w.table .first (some schema)) (w'.table .first (some schema)) ∧
      w.table .first (some schema) = .ok ⟨schema, [[.int 1, .text "2"]]⟩ := by
  intro text text' w w' schema
  have hsheets : w.SameColumns schema.names w' := {
    container := rfl
    sheets := .cons {
      name := rfl
      header := by decide
      grid := {
        length := rfl
        columns := by decide +kernel
        distinct := by decide +kernel } } .nil }
  refine ⟨hsheets, ?_, (columns_found_by_name schema).2 (by decide) w w' .first hsheets, by decide +kernel⟩
  let g : Grid String := ⟨["a", "b", "c"], [["1", "x", "2"], ["NA", "y", "3"]]⟩
  have hgrid : Grid.SameColumns schema.names "" g (g.arrange "" [2, 0]) :=
    Grid.sameColumns_arrange (by decide) (by decide) (by decide) (by decide)
  exact (columns_found_by_name schema).1 text text' ⟨_, _⟩ ⟨_, _⟩ (by decide +kernel)
    (by decide +kernel) hgrid

end TableReport
