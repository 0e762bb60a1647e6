import TableReport.Load.Workbook.Table
import TableReport.Proofs.Load.CellRules
/-!
# Which sheets a selection reads

The rows of several sheets are those of each sheet after the other. Without a schema, selecting the
first sheet is selecting it by name. Under a schema every sheet is read, so the two agree only when
the other sheets have the columns of the schema and add no rows.
-/
namespace TableReport

namespace CellRules

variable {α : Type} {rules : CellRules α} {schema : Schema} {rows more : List (SourceRow α)}

theorem table_append : rules.table schema (rows ++ more) =
    rules.table schema rows >>= fun t =>
      (rules.table schema more).map fun u => ⟨schema, t.rows ++ u.rows⟩ := by
  unfold table
  rw [List.mapM_append]
  cases rows.mapM (·.cells rules schema) <;> cases more.mapM (·.cells rules schema) <;> rfl

theorem table_rows_length {t : Table} (h : rules.table schema rows = .ok t) :
    t.rows.length = rows.length := by
  obtain ⟨cells, hcells, h⟩ := bind_eq_ok h
  obtain rfl := Except.ok.inj h
  exact (mapM_eq_ok_iff.1 hcells).length_eq.symm

/-- More rows go unnoticed when a cell before them is rejected, and only then. -/
theorem table_append_eq_iff :
    rules.table schema (rows ++ more) = rules.table schema rows ↔
      (∀ t, rules.table schema rows ≠ .ok t) ∨ more = [] := by
  constructor
  · intro h
    cases hrows : rules.table schema rows with
    | error e => exact .inl fun t ht => nomatch ht
    | ok t =>
      rw [hrows] at h
      have hlength := table_rows_length h
      rw [table_rows_length hrows, List.length_append] at hlength
      exact .inr (List.eq_nil_of_length_eq_zero (by omega))
  · rintro (hrejected | rfl)
    · rw [table_append]
      cases hrows : rules.table schema rows with
      | error e => rfl
      | ok t => exact absurd hrows (hrejected t)
    · rw [List.append_nil]

/-- The table of several parts is the tables of the parts, one after the other. -/
theorem table_flatten_eq_ok_iff {parts : List (List (SourceRow α))} {t : Table} :
    rules.table schema parts.flatten = .ok t ↔
      ∃ tables, parts.mapM (rules.table schema) = .ok tables ∧
        t = ⟨schema, tables.flatMap Table.rows⟩ := by
  induction parts generalizing t with
  | nil =>
    constructor
    · intro h
      exact ⟨[], rfl, (Except.ok.inj h).symm⟩
    · rintro ⟨tables, htables, rfl⟩
      obtain rfl := Except.ok.inj htables
      rfl
  | cons part parts ih =>
    rw [List.flatten_cons, table_append, List.mapM_cons]
    constructor
    · intro h
      obtain ⟨u, hu, h⟩ := bind_eq_ok h
      obtain ⟨v, hv, rfl⟩ := map_eq_ok h
      obtain ⟨tables, htables, rfl⟩ := ih.1 hv
      refine ⟨u :: tables, ?_, rfl⟩
      rw [hu, htables]
      rfl
    · rintro ⟨tables, htables, rfl⟩
      obtain ⟨u, hu, htables⟩ := bind_eq_ok htables
      obtain ⟨us, hus, htables⟩ := bind_eq_ok htables
      obtain rfl := Except.ok.inj htables
      rw [hu, ih.2 ⟨us, hus, rfl⟩]
      rfl

/-- The only complaint about a table is that a value is none of its column's type. -/
theorem table_error {e : LoadError} (h : rules.table schema rows = .error e) :
    ∃ number column shown problem, e = .value number column shown problem := by
  obtain ⟨row, -, p, -, problem, -, rfl⟩ := table_eq_error h
  exact ⟨_, _, _, problem, rfl⟩

end CellRules

namespace Sheet

/-- The sheet has all of the wanted columns. -/
def Offers (s : Sheet) (wanted : List String) : Prop :=
  ∃ rows, s.select (some wanted) = .ok (wanted, rows)

/-- No row of the sheet stands below its header. -/
def HeaderOnly (s : Sheet) : Prop := s.grid.tail = []

theorem select_columns {s : Sheet} {wanted columns : List String} {rows : List (SourceRow SheetCell)}
    (h : s.select (some wanted) = .ok (columns, rows)) : columns = wanted := by
  obtain ⟨⟨headers, cells⟩, -, h⟩ := bind_eq_ok h
  obtain ⟨positions, -, h⟩ := bind_eq_ok h
  exact (Prod.mk.inj (Except.ok.inj h)).1.symm

theorem select_rows_eq_nil_iff {s : Sheet} {wanted : Option (List String)} {columns : List String}
    {rows : List (SourceRow SheetCell)} (h : s.select wanted = .ok (columns, rows)) :
    rows = [] ↔ s.HeaderOnly := by
  obtain ⟨⟨headers, cells⟩, hsplit, h⟩ := bind_eq_ok h
  obtain ⟨positions, -, h⟩ := bind_eq_ok h
  obtain ⟨-, rfl⟩ := Prod.mk.inj (Except.ok.inj h)
  unfold split at hsplit
  cases hgrid : s.grid with
  | nil => rw [hgrid] at hsplit; cases hsplit
  | cons header body =>
    rw [hgrid] at hsplit
    obtain ⟨-, rfl⟩ := Prod.mk.inj (Except.ok.inj hsplit)
    simp [HeaderOnly, hgrid]

end Sheet

namespace Workbook

/-- The rows of the sheet with a name, under wanted columns. -/
def sheetRows (w : Workbook) (wanted : List String) (name : String) :
    Except LoadError (List (SourceRow SheetCell)) := do
  let sheet ← w.sheet name
  let (_, rows) ← (sheet.select (some wanted)).mapError fun p => .shape (.inSheet name p)
  .ok rows

section Rows

variable {w : Workbook} {wanted : List String} {name : String}

theorem sheetRows_eq_ok_iff {rows : List (SourceRow SheetCell)} :
    w.sheetRows wanted name = .ok rows ↔
      ∃ sheet, w.sheet name = .ok sheet ∧ sheet.select (some wanted) = .ok (wanted, rows) := by
  constructor
  · intro h
    obtain ⟨sheet, hsheet, h⟩ := bind_eq_ok h
    obtain ⟨⟨columns, found⟩, hfound, h⟩ := bind_eq_ok h
    obtain rfl := Except.ok.inj h
    have hselect := mapError_eq_ok.1 hfound
    exact ⟨sheet, hsheet, Sheet.select_columns hselect ▸ hselect⟩
  · rintro ⟨sheet, hsheet, hselect⟩
    simp only [sheetRows, hsheet, hselect, bind, Except.bind, Except.mapError]

/-- What goes wrong with a sheet is never a single value. -/
theorem sheetRows_error {e : LoadError} (h : w.sheetRows wanted name = .error e) :
    ∀ number column shown problem, e ≠ .value number column shown problem := by
  rintro number column shown problem rfl
  obtain hsheet | ⟨sheet, -, h⟩ := bind_eq_error h
  · unfold sheet at hsheet
    split at hsheet <;> cases hsheet
  · obtain hselect | ⟨found, -, h⟩ := bind_eq_error h
    · obtain ⟨problem, -, h⟩ := mapError_eq_error hselect
      cases h
    · cases h

/-- The rows of several sheets under given columns. -/
theorem selectRows_some (names : List String) :
    w.selectRows (some wanted) names =
      (names.mapM (w.sheetRows wanted)).map fun parts => (wanted, parts.flatten) := by
  induction names with
  | nil => rfl
  | cons name names ih =>
    rw [selectRows, List.mapM_cons, sheetRows]
    cases w.sheet name with
    | error e => rfl
    | ok sheet =>
      cases hselect : sheet.select (some wanted) with
      | error p => simp [Except.mapError, bind, Except.bind, Except.map, hselect]
      | ok found =>
        obtain ⟨columns, rows⟩ := found
        obtain rfl := Sheet.select_columns hselect
        simp only [Except.mapError, bind, Except.bind, hselect]
        rw [ih]
        cases names.mapM (w.sheetRows columns) <;> rfl

/-- Of workbooks whose sheets are related one by one, sheets of the same name are related. -/
theorem agree_sheet {R : Sheet → Sheet → Prop} {w' : Workbook} (hcontainer : w.container = w'.container)
    (hsheets : List.Forall₂ R w.sheets w'.sheets) (hname : ∀ s s', R s s' → s.name = s'.name)
    (name : String) : Agree (· = ·) R (w.sheet name) (w'.sheet name) := by
  unfold sheet
  rw [hcontainer]
  generalize w.sheets = sheets, w'.sheets = sheets' at hsheets
  induction hsheets with
  | nil => exact .error rfl
  | @cons s s' sheets sheets' hs hsheets ih =>
    rw [List.find?_cons, List.find?_cons, hname s s' hs]
    cases s'.name == name with
    | true => exact .ok hs
    | false => exact ih

theorem sheetNames_eq {R : Sheet → Sheet → Prop} {w' : Workbook}
    (hsheets : List.Forall₂ R w.sheets w'.sheets) (hname : ∀ s s', R s s' → s.name = s'.name) :
    w.sheetNames = w'.sheetNames := by
  rw [sheetNames, sheetNames, ← List.forall₂_eq_eq_eq, List.forall₂_map_left_iff,
    List.forall₂_map_right_iff]
  exact hsheets.imp hname

theorem exists_sheet (h : name ∈ w.sheetNames) : ∃ s, w.sheet name = .ok s := by
  obtain ⟨s, hs, rfl⟩ := List.mem_map.1 h
  obtain ⟨found, hfound⟩ : ∃ found, w.sheets.find? (·.name == s.name) = some found := by
    rw [← Option.isSome_iff_exists, List.find?_isSome]
    exact ⟨s, hs, beq_self_eq_true s.name⟩
  exact ⟨found, by rw [sheet, hfound]⟩

/-- A sheet has rows under the wanted columns when it has the columns. -/
theorem exists_sheetRows_iff {s : Sheet} (hs : w.sheet name = .ok s) :
    (∃ rows, w.sheetRows wanted name = .ok rows) ↔ s.Offers wanted := by
  refine exists_congr fun rows => sheetRows_eq_ok_iff.trans ⟨?_, fun h => ⟨s, hs, h⟩⟩
  rintro ⟨found, hfound, hselect⟩
  obtain rfl := Except.ok.inj (hs.symm.trans hfound)
  exact hselect

theorem exists_mapM_sheetRows_iff {names : List String} (hnames : ∀ name ∈ names, name ∈ w.sheetNames) :
    (∃ parts, names.mapM (w.sheetRows wanted) = .ok parts) ↔
      ∀ name ∈ names, ∀ s, w.sheet name = .ok s → s.Offers wanted := by
  refine exists_mapM_eq_ok_iff.trans (forall_congr' fun name => forall_congr' fun hname => ?_)
  obtain ⟨s, hs⟩ := exists_sheet (hnames name hname)
  rw [exists_sheetRows_iff hs, hs]
  exact ⟨fun h s' hs' => Except.ok.inj hs' ▸ h, fun h => h s rfl⟩

/-- Several sheets add nothing when all of them are headers only. -/
theorem flatten_eq_nil_iff {names : List String} {parts : List (List (SourceRow SheetCell))}
    (h : names.mapM (w.sheetRows wanted) = .ok parts) :
    parts.flatten = [] ↔ ∀ name ∈ names, ∀ s, w.sheet name = .ok s → s.HeaderOnly := by
  rw [List.flatten_eq_nil_iff]
  constructor
  · intro hnil name hname s hs
    obtain ⟨rows, hmem, hrows⟩ := exists_of_mapM_mem h hname
    obtain ⟨found, hfound, hselect⟩ := sheetRows_eq_ok_iff.1 hrows
    obtain rfl := Except.ok.inj (hs.symm.trans hfound)
    exact (Sheet.select_rows_eq_nil_iff hselect).1 (hnil rows hmem)
  · intro hheaders rows hmem
    obtain ⟨name, hname, hrows⟩ := exists_of_mem_mapM h hmem
    obtain ⟨s, hs, hselect⟩ := sheetRows_eq_ok_iff.1 hrows
    exact (Sheet.select_rows_eq_nil_iff hselect).2 (hheaders name hname s hs)

end Rows

/-! ### Sheets one after the other -/

section Selected

variable {w : Workbook} {schema : Schema}

/-- Under a schema, the table of the selected sheets is that of the rows of all of them. -/
theorem table_some (selection : SheetSelection) (names : List String)
    (hselect : selection.select w.sheetNames (some schema) = names) (hne : names ≠ []) :
    w.table selection (some schema) = names.mapM (w.sheetRows schema.names) >>= fun parts =>
      SheetCell.cellRules.table schema parts.flatten := by
  unfold table
  dsimp only
  rw [hselect, if_neg (by simpa using hne), Option.map_some, selectRows_some]
  cases names.mapM (w.sheetRows schema.names) <;> rfl

theorem table_sheet_some (w : Workbook) (name : String) (schema : Schema) :
    w.table (.sheet name) (some schema) =
      w.sheetRows schema.names name >>= SheetCell.cellRules.table schema := by
  rw [table_some (.sheet name) [name] rfl (List.cons_ne_nil name []), List.mapM_cons, List.mapM_nil]
  cases w.sheetRows schema.names name with
  | error e => rfl
  | ok rows => exact congrArg (SheetCell.cellRules.table schema) (List.append_nil rows)

theorem table_these_eq_ok_iff {names : List String} {t : Table} (hne : names ≠ []) :
    w.table (.these names) (some schema) = .ok t ↔
      ∃ tables, names.mapM (fun name => w.table (.sheet name) (some schema)) = .ok tables ∧
        t = ⟨schema, tables.flatMap Table.rows⟩ := by
  simp only [table_sheet_some, mapM_bind_eq_ok_iff]
  rw [table_some (.these names) names rfl hne]
  constructor
  · intro h
    obtain ⟨parts, hparts, h⟩ := bind_eq_ok h
    obtain ⟨tables, htables, rfl⟩ := CellRules.table_flatten_eq_ok_iff.1 h
    exact ⟨tables, ⟨parts, hparts, htables⟩, rfl⟩
  · rintro ⟨tables, ⟨parts, hparts, htables⟩, rfl⟩
    exact bind_eq_ok_iff.2
      ⟨parts, hparts, CellRules.table_flatten_eq_ok_iff.2 ⟨tables, htables, rfl⟩⟩

/-- Listed sheets load under a schema just when each of them does, and their rows are those of each sheet
in the order of the list, with repetitions. Selecting all sheets is listing them as they stand in the
workbook. -/
theorem sheets_load_one_after_the_other (w : Workbook) :
    (∀ (schema : Schema) (name : String) (names : List String),
      ((∃ t, w.table (.these (name :: names)) (some schema) = .ok t) ↔
        ∀ n ∈ name :: names, ∃ u, w.table (.sheet n) (some schema) = .ok u) ∧
      ∀ t, w.table (.these (name :: names)) (some schema) = .ok t ↔
        ∃ tables, List.Forall₂ (fun n u => w.table (.sheet n) (some schema) = .ok u) (name :: names)
          tables ∧ t = ⟨schema, tables.flatMap Table.rows⟩) ∧
    ∀ schema : Option Schema, w.table .all schema = w.table (.these w.sheetNames) schema := by
  refine ⟨fun schema name names => ?_, fun schema => rfl⟩
  have hne := List.cons_ne_nil name names
  constructor
  · rw [← exists_mapM_eq_ok_iff]
    constructor
    · rintro ⟨t, h⟩
      obtain ⟨tables, htables, -⟩ := (table_these_eq_ok_iff hne).1 h
      exact ⟨tables, htables⟩
    · rintro ⟨tables, htables⟩
      exact ⟨_, (table_these_eq_ok_iff hne).2 ⟨tables, htables, rfl⟩⟩
  · intro t
    simp only [table_these_eq_ok_iff hne, mapM_eq_ok_iff]

end Selected

/-! ### The first sheet -/

section First

variable {container : Container} {s : Sheet} {rest : List Sheet}

theorem sheet_head : (⟨container, s :: rest⟩ : Workbook).sheet s.name = .ok s := by
  simp [sheet]

theorem table_first_some (schema : Schema) :
    (⟨container, s :: rest⟩ : Workbook).table .first (some schema) =
      (⟨container, s :: rest⟩ : Workbook).sheetRows schema.names s.name >>= fun rows =>
        (rest.map Sheet.name).mapM ((⟨container, s :: rest⟩ : Workbook).sheetRows schema.names) >>=
          fun parts => SheetCell.cellRules.table schema (rows ++ parts.flatten) := by
  rw [table_some .first (s.name :: rest.map Sheet.name) rfl (List.cons_ne_nil _ _), List.mapM_cons]
  cases sheetRows ⟨container, s :: rest⟩ schema.names s.name with
  | error e => rfl
  | ok rows =>
    cases (rest.map Sheet.name).mapM (sheetRows ⟨container, s :: rest⟩ schema.names) <;> rfl

/-- Selecting the first sheet gives what selecting it by name gives without a schema, and under a schema
that the first sheet does not have the columns of. Otherwise the other sheets have to have the columns
too, and no rows, unless a cell of the first sheet is rejected. -/
theorem table_first_eq_sheet_iff (container : Container) (s : Sheet) (rest : List Sheet)
    (schema : Option Schema) :
    let w : Workbook := ⟨container, s :: rest⟩
    w.table .first schema = w.table (.sheet s.name) schema ↔
      ∀ columns, schema = some columns → s.Offers columns.names →
        (∀ name ∈ rest.map Sheet.name, ∀ other, w.sheet name = .ok other →
          other.Offers columns.names) ∧
        ((∃ t, w.table (.sheet s.name) schema = .ok t) →
          ∀ name ∈ rest.map Sheet.name, ∀ other, w.sheet name = .ok other → other.HeaderOnly) := by
  intro w
  cases schema with
  | none => exact iff_of_true rfl fun columns h => nomatch h
  | some columns =>
    have hs : w.sheet s.name = .ok s := sheet_head
    have hnames : ∀ name ∈ rest.map Sheet.name, name ∈ w.sheetNames :=
      fun name hname => List.mem_cons_of_mem _ hname
    rw [table_first_some, table_sheet_some]
    simp only [Option.some.injEq, forall_eq']
    cases hrows : w.sheetRows columns.names s.name with
    | error e =>
      refine iff_of_true rfl fun hoffers => ?_
      obtain ⟨rows, hok⟩ := (exists_sheetRows_iff hs).2 hoffers
      exact nomatch hrows.symm.trans hok
    | ok rows =>
      have hoffers : s.Offers columns.names := (exists_sheetRows_iff hs).1 ⟨rows, hrows⟩
      simp only [hoffers, true_implies, ← exists_mapM_sheetRows_iff hnames]
      cases hparts : (rest.map Sheet.name).mapM (w.sheetRows columns.names) with
      | error e =>
        refine iff_of_false (fun h => ?_) (fun h => nomatch h.1.choose_spec)
        obtain ⟨name, -, herror⟩ := exists_of_mapM_error hparts
        obtain ⟨_, _, _, _, rfl⟩ := CellRules.table_error h.symm
        exact sheetRows_error herror _ _ _ _ rfl
      | ok parts =>
        change SheetCell.cellRules.table columns (rows ++ parts.flatten) =
          SheetCell.cellRules.table columns rows ↔ _
        rw [CellRules.table_append_eq_iff, flatten_eq_nil_iff hparts, ← not_exists,
          ← imp_iff_not_or, and_iff_right ⟨parts, rfl⟩]
        exact Iff.rfl

/-- Under a schema the row of the second sheet is there too. -/
theorem table_first_reads_second_sheet :
    ¬ ∀ (w : Workbook) (s : Sheet) (rest : List Sheet) (schema : Option Schema),
      w.sheets = s :: rest → w.table .first schema = w.table (.sheet s.name) schema := by
  let first : Sheet := ⟨"First", [[.text "n"], [.number (.ofNat 1)]]⟩
  let second : Sheet := ⟨"Second", [[.text "n"], [.number (.ofNat 2)]]⟩
  let schema : Schema := ⟨[⟨"n", .int64⟩]⟩
  have hfirst : table ⟨.xlsx, [first, second]⟩ .first (some schema) =
      .ok ⟨schema, [[.int 1], [.int 2]]⟩ := by decide +kernel
  have hsheet : table ⟨.xlsx, [first, second]⟩ (.sheet "First") (some schema) =
      .ok ⟨schema, [[.int 1]]⟩ := by decide +kernel
  intro h
  have hsame := h ⟨.xlsx, [first, second]⟩ first [second] (some schema) rfl
  have hrows := hfirst.symm.trans (hsame.trans hsheet)
  simp at hrows

end First

end Workbook

end TableReport
