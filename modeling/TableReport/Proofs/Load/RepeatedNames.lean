import TableReport.Proofs.Load.SheetInference
/-!
# Repeated names in a header

Without a schema, the columns are those that the first header names, and a name that stands in it twice is
refused. Under a schema, and in the headers of the sheets after the first, a repeated name goes unnoticed:
the first column of that name is read. What is refused there is a header without a wanted name.
-/
namespace TableReport

/-- The input does not have the shape that is needed. -/
def Misshapen {α : Type} (r : Except LoadError α) : Prop := ∃ p, r = .error (.shape p)

instance {α : Type} (r : Except LoadError α) : Decidable (Misshapen r) :=
  match r with
  | .error (.shape p) => .isTrue ⟨p, rfl⟩
  | .error (.fileNotFound _) | .error (.unsupportedFileType _) | .error (.read _) | .error (.csv _)
  | .error (.workbook _) | .error (.value _ _ _ _) | .ok _ => .isFalse nofun

section Outcomes

variable {α β : Type} {rules : CellRules α} {schema : Schema} {names : List String}
  {rows : List (SourceRow α)}

theorem misshapen_error_iff {e : LoadError} :
    Misshapen (.error e : Except LoadError α) ↔ ∃ p, e = .shape p := by
  simp [Misshapen]

theorem not_misshapen_ok (a : α) : ¬ Misshapen (.ok a) := by
  simp [Misshapen]

theorem misshapen_bind_iff {x : Except LoadError α} {f : α → Except LoadError β} :
    Misshapen (x >>= f) ↔ Misshapen x ∨ ∃ a, x = .ok a ∧ Misshapen (f a) := by
  cases x with
  | error e => simp [Misshapen, bind, Except.bind]
  | ok a => simp [Misshapen, bind, Except.bind]

theorem not_misshapen_table : ¬ Misshapen (rules.table schema rows) := by
  rintro ⟨p, h⟩
  obtain ⟨number, column, shown, problem, hvalue⟩ := CellRules.table_error h
  cases hvalue

theorem misshapen_inferTable_iff : Misshapen (rules.inferTable names rows) ↔ ¬ names.Nodup := by
  have hnodup := Schema.firstDuplicate?_eq_none_iff (s := rules.inferSchema names (rows.map SourceRow.values))
  rw [CellRules.inferSchema_names] at hnodup
  rw [← hnodup, CellRules.inferTable]
  split
  case h_1 name heq =>
    rw [heq]
    exact iff_of_true ⟨_, rfl⟩ (Option.some_ne_none name)
  case h_2 heq => exact iff_of_false not_misshapen_table (not_not.2 heq)

theorem misshapen_findColumns_iff {headers wanted : List String} :
    Misshapen ((findColumns headers wanted).mapError .shape) ↔ ¬ wanted ⊆ headers := by
  cases h : findColumns headers wanted with
  | ok positions =>
    exact iff_of_false (not_misshapen_ok positions) (not_not.2 (exists_findColumns_iff.1 ⟨positions, h⟩))
  | error p =>
    refine iff_of_true ⟨p, rfl⟩ fun hsubset => ?_
    obtain ⟨positions, hpositions⟩ := exists_findColumns_iff.2 hsubset
    cases h.symm.trans hpositions

end Outcomes

/-! ### CSV -/

namespace Csv

variable {text : List UInt8} {schema : Schema} {d : Document}

/-- The names in the first record of a text. -/
def headerNames (text : List UInt8) : Except CsvFailure (List String) :=
  match readRecords (dropMark text) with
  | [] => .ok []
  | first :: _ => (RawRecord.decode ⟨text, first.fields⟩ text 0).map (List.map Text.trim)

theorem headerNames_of_document (h : Document.ofBytes text = .ok d) : headerNames text = .ok d.headers := by
  unfold Document.ofBytes at h
  unfold headerNames
  cases hrecords : readRecords (dropMark text) with
  | nil =>
    rw [hrecords] at h
    cases h
    rfl
  | cons first rest =>
    rw [hrecords] at h
    obtain ⟨headers, hheaders, h⟩ := bind_eq_ok h
    obtain ⟨records, -, h⟩ := bind_eq_ok h
    cases h
    exact congrArg (Except.map (List.map Text.trim)) hheaders

theorem misshapen_loadTable_iff {schema : Option Schema} :
    Misshapen (loadTable text schema) ↔
      ∃ d, Document.ofBytes text = .ok d ∧ Misshapen (d.table schema) := by
  rw [loadTable, misshapen_bind_iff]
  simp only [mapError_eq_ok]
  apply or_iff_right
  rintro ⟨p, h⟩
  obtain ⟨failure, -, h⟩ := mapError_eq_error h
  cases h

theorem Document.misshapen_table_some_iff :
    Misshapen (d.table (some schema)) ↔ ¬ schema.names ⊆ d.headers := by
  rw [table, misshapen_bind_iff, misshapen_findColumns_iff]
  apply or_iff_left
  rintro ⟨positions, -, h⟩
  exact not_misshapen_table h

theorem Document.table_some (h : schema.names ⊆ d.headers) : d.table (some schema) =
    cellRules.table schema (d.rows (schema.names.map (d.headers.idxOf ·))) := by
  rw [table, findColumns_eq_ok_iff.2 ⟨h, rfl⟩]
  rfl

end Csv

/-! ### Workbooks -/

theorem Sheet.select_of_offers {s : Sheet} {wanted : List String} (h : s.Offers wanted) :
    s.select (some wanted) = .ok (wanted, s.rowsAt (wanted.map (s.headers.idxOf ·))) := by
  obtain ⟨rows, h⟩ := h
  obtain ⟨positions, hpositions, rfl⟩ := Sheet.select_eq_ok h
  rw [h, (findColumns_eq_ok_iff.1 hpositions).2]

namespace Workbook

/-- A sheet without one of the wanted columns is reached; the sheets before it have them all. -/
inductive LacksColumns (w : Workbook) (wanted : List String) : List String → Prop
  | here {name : String} {names : List String} {s : Sheet} (hs : w.sheet name = .ok s)
      (hlacks : ¬ s.Offers wanted) : LacksColumns w wanted (name :: names)
  | later {name : String} {names : List String} {s : Sheet} (hs : w.sheet name = .ok s)
      (hoffers : s.Offers wanted) (h : LacksColumns w wanted names) : LacksColumns w wanted (name :: names)

/-- There are all of the sheets, and they have the wanted columns. -/
def AllOffer (w : Workbook) (wanted names : List String) : Prop :=
  ∀ name ∈ names, ∃ s, w.sheet name = .ok s ∧ s.Offers wanted

/-- The columns that are wanted of the sheets: those of the schema, or else those of the first sheet. -/
def wantedColumns (w : Workbook) (names : List String) : Option Schema → List String
  | some schema => schema.names
  | none => ((names.head?.bind fun name => (w.sheet name).toOption).map Sheet.headers).getD []

variable {w : Workbook} {wanted names : List String} {name : String}

theorem not_misshapen_sheet : ¬ Misshapen (w.sheet name) := by
  rintro ⟨p, h⟩
  unfold sheet at h
  split at h <;> cases h

theorem misshapen_sheetRows_iff :
    Misshapen (w.sheetRows wanted name) ↔ ∃ s, w.sheet name = .ok s ∧ ¬ s.Offers wanted := by
  rw [sheetRows, misshapen_bind_iff, or_iff_right not_misshapen_sheet]
  refine exists_congr fun s => and_congr_right fun _ => ?_
  cases h : s.select (some wanted) with
  | error p =>
    refine iff_of_true ⟨.inSheet name p, rfl⟩ ?_
    rintro ⟨rows, hrows⟩
    cases h.symm.trans hrows
  | ok found =>
    obtain ⟨columns, rows⟩ := found
    obtain rfl := Sheet.select_columns h
    exact iff_of_false (not_misshapen_ok rows) (not_not.2 ⟨rows, h⟩)

theorem misshapen_mapM_sheetRows_iff :
    Misshapen (names.mapM (w.sheetRows wanted)) ↔ w.LacksColumns wanted names := by
  induction names with
  | nil =>
    refine iff_of_false (not_misshapen_ok []) fun h => ?_
    cases h
  | cons name names ih =>
    rw [List.mapM_cons, misshapen_bind_iff, misshapen_sheetRows_iff]
    constructor
    · rintro (⟨s, hs, hlacks⟩ | ⟨rows, hrows, h⟩)
      · exact .here hs hlacks
      · obtain ⟨s, hs, hselect⟩ := sheetRows_eq_ok_iff.1 hrows
        rw [misshapen_bind_iff, ih] at h
        refine .later hs ⟨rows, hselect⟩ (h.resolve_right ?_)
        rintro ⟨parts, -, hparts⟩
        exact not_misshapen_ok _ hparts
    · intro h
      cases h with
      | here hs hlacks => exact .inl ⟨_, hs, hlacks⟩
      | later hs hoffers h =>
        obtain ⟨rows, hselect⟩ := hoffers
        refine .inr ⟨rows, sheetRows_eq_ok_iff.2 ⟨_, hs, hselect⟩, ?_⟩
        rw [misshapen_bind_iff, ih]
        exact .inl h

theorem exists_mapM_sheetRows_iff_allOffer :
    (∃ parts, names.mapM (w.sheetRows wanted) = .ok parts) ↔ w.AllOffer wanted names := by
  rw [exists_mapM_eq_ok_iff]
  refine forall₂_congr fun name _ => ?_
  simp only [sheetRows_eq_ok_iff]
  exact exists_comm.trans (exists_congr fun s => exists_and_left)

section Selected

variable {selection : SheetSelection} {schema : Option Schema} {s : Sheet} {rest : List String}

/-- Without a schema, the names in the first header are wanted of all sheets. -/
theorem table_none (hselect : selection.select w.sheetNames none = name :: rest) (hs : w.sheet name = .ok s) :
    w.table selection none = (name :: rest).mapM (w.sheetRows s.headers) >>= fun parts =>
      SheetCell.cellRules.inferTable s.headers parts.flatten := by
  unfold table
  dsimp only
  rw [hselect, Option.map_none, selectRows_none hs, selectRows_some]
  cases (name :: rest).mapM (w.sheetRows s.headers) <;> rfl

theorem table_none_of_error {e : LoadError} (hselect : selection.select w.sheetNames none = name :: rest)
    (hs : w.sheet name = .error e) : w.table selection none = .error e := by
  unfold table
  dsimp only
  rw [hselect, Option.map_none, selectRows, hs]
  rfl

theorem wantedColumns_none (hs : w.sheet name = .ok s) : w.wantedColumns (name :: rest) none = s.headers := by
  simp [wantedColumns, hs, Except.toOption]

theorem exists_first_sheet (h : w.LacksColumns wanted (name :: rest) ∨ w.AllOffer wanted (name :: rest)) :
    ∃ s, w.sheet name = .ok s := by
  rcases h with h | h
  · cases h with
    | here hs | later hs => exact ⟨_, hs⟩
  · obtain ⟨s, hs, -⟩ := h name List.mem_cons_self
    exact ⟨s, hs⟩

theorem misshapen_table_iff (hselect : selection.select w.sheetNames schema = names) (hne : names ≠ []) :
    Misshapen (w.table selection schema) ↔
      w.LacksColumns (w.wantedColumns names schema) names ∨
        schema = none ∧ ¬ (w.wantedColumns names schema).Nodup ∧
          w.AllOffer (w.wantedColumns names schema) names := by
  cases schema with
  | some schema =>
    rw [table_some selection names hselect hne, misshapen_bind_iff, misshapen_mapM_sheetRows_iff]
    have hcells : ¬ ∃ parts, names.mapM (w.sheetRows schema.names) = .ok parts ∧
        Misshapen (SheetCell.cellRules.table schema parts.flatten) := by
      rintro ⟨parts, -, h⟩
      exact not_misshapen_table h
    simp only [hcells, wantedColumns, reduceCtorEq, false_and]
  | none =>
    cases names with
    | nil => exact absurd rfl hne
    | cons name rest =>
      cases hs : w.sheet name with
      | error e =>
        have hfault : ¬ Misshapen (w.sheet name) := not_misshapen_sheet
        rw [hs, misshapen_error_iff] at hfault
        rw [table_none_of_error hselect hs, misshapen_error_iff]
        refine iff_of_false hfault fun h => ?_
        obtain ⟨s, hs'⟩ := exists_first_sheet (h.imp_right fun h => h.2.2)
        cases hs.symm.trans hs'
      | ok s =>
        rw [table_none hselect hs, misshapen_bind_iff, misshapen_mapM_sheetRows_iff, wantedColumns_none hs]
        simp only [misshapen_inferTable_iff, exists_and_right, exists_mapM_sheetRows_iff_allOffer, true_and]
        rw [and_comm (a := w.AllOffer s.headers (name :: rest))]

theorem nodup_of_table_none {t : Table} (hselect : selection.select w.sheetNames none = names)
    (hne : names ≠ []) (h : w.table selection none = .ok t) : (w.wantedColumns names none).Nodup := by
  cases names with
  | nil => exact absurd rfl hne
  | cons name rest =>
    cases hs : w.sheet name with
    | error e =>
      rw [table_none_of_error hselect hs] at h
      cases h
    | ok s =>
      rw [table_none hselect hs] at h
      obtain ⟨parts, -, h⟩ := bind_eq_ok h
      rw [wantedColumns_none hs]
      exact (CellRules.inferTable_eq_ok h).1

/-- The table that sheets hold under the wanted names, each name standing for the first column of that
name. -/
def readFirst (schema : Option Schema) (wanted : List String) (sheets : List Sheet) : Except LoadError Table :=
  let rows := sheets.flatMap fun s => s.rowsAt (wanted.map (s.headers.idxOf ·))
  SheetCell.cellRules.table
    (schema.getD (SheetCell.cellRules.inferSchema wanted (rows.map SourceRow.values))) rows

theorem mapM_sheetRows_of_offers {sheets : List Sheet}
    (hsheets : List.Forall₂ (fun name s => w.sheet name = .ok s) names sheets)
    (hoffers : ∀ s ∈ sheets, s.Offers wanted) :
    names.mapM (w.sheetRows wanted) =
      .ok (sheets.map fun s => s.rowsAt (wanted.map (s.headers.idxOf ·))) := by
  induction hsheets with
  | nil => rfl
  | cons hs hrest ih =>
    obtain ⟨hfirst, hoffers⟩ := List.forall_mem_cons.1 hoffers
    rw [List.mapM_cons, sheetRows_eq_ok_iff.2 ⟨_, hs, Sheet.select_of_offers hfirst⟩, ih hoffers]
    rfl

/-- Sheets that have the wanted columns are read, under a schema or under different names in the first
header. -/
theorem table_of_offers {sheets : List Sheet} (hselect : selection.select w.sheetNames schema = names)
    (hne : names ≠ []) (hsheets : List.Forall₂ (fun name s => w.sheet name = .ok s) names sheets)
    (hoffers : ∀ s ∈ sheets, s.Offers (w.wantedColumns names schema))
    (hdistinct : schema ≠ none ∨ (w.wantedColumns names schema).Nodup) :
    w.table selection schema = readFirst schema (w.wantedColumns names schema) sheets := by
  have hparts := mapM_sheetRows_of_offers hsheets hoffers
  cases schema with
  | some columns =>
    rw [wantedColumns] at hparts
    rw [table_some selection names hselect hne, hparts]
    rfl
  | none =>
    cases hsheets with
    | nil => exact absurd rfl hne
    | @cons name s rest sheets hs hrest =>
      rw [wantedColumns_none hs] at hparts hdistinct ⊢
      have hnodup : s.headers.Nodup := hdistinct.resolve_left fun h => h rfl
      rw [table_none hselect hs, hparts]
      exact CellRules.inferTable_eq_table hnodup

end Selected

end Workbook

/-! ### What is noticed -/

/-- What becomes of a CSV text in whose header a name stands twice. -/
structure Csv.OnRepeat (text : List UInt8) (schema : Option Schema) (names : List String) : Prop where
  fails : schema = none → ∀ t, loadTable text schema ≠ .ok t
  misshapen_iff : Misshapen (loadTable text schema) ↔
    (∃ d, Document.ofBytes text = .ok d) ∧ ∀ s, schema = some s → ¬ s.names ⊆ names
  first : ∀ s d, schema = some s → Document.ofBytes text = .ok d → s.names ⊆ names →
    loadTable text schema = cellRules.table s (d.rows (s.names.map (names.idxOf ·)))

/-- What becomes of selected sheets of which one has a name twice in its header. -/
structure Workbook.OnRepeat (w : Workbook) (selection : SheetSelection) (schema : Option Schema)
    (names wanted : List String) : Prop where
  fails : schema = none → ¬ wanted.Nodup → ∀ t, w.table selection schema ≠ .ok t
  misshapen_iff : Misshapen (w.table selection schema) ↔
    w.LacksColumns wanted names ∨ schema = none ∧ ¬ wanted.Nodup ∧ w.AllOffer wanted names
  first : ∀ sheets, List.Forall₂ (fun name s => w.sheet name = .ok s) names sheets →
    (∀ s ∈ sheets, s.Offers wanted) → schema ≠ none ∨ wanted.Nodup →
      w.table selection schema = readFirst schema wanted sheets

theorem Csv.onRepeat {text : List UInt8} {names : List String} (schema : Option Schema)
    (hnames : headerNames text = .ok names) (hrepeat : ¬ names.Nodup) : OnRepeat text schema names where
  fails := by
    rintro rfl t ht
    obtain ⟨d, hd, htable⟩ := bind_eq_ok ht
    have hheaders := Except.ok.inj ((headerNames_of_document (mapError_eq_ok.1 hd)).symm.trans hnames)
    exact hrepeat (hheaders ▸ (CellRules.inferTable_eq_ok htable).1)
  misshapen_iff := by
    rw [misshapen_loadTable_iff, exists_and_right.symm]
    refine exists_congr fun d => and_congr_right fun hd => ?_
    obtain rfl := Except.ok.inj ((headerNames_of_document hd).symm.trans hnames)
    cases schema with
    | none =>
      refine iff_of_true (misshapen_inferTable_iff.2 hrepeat) ?_
      intro s hs
      cases hs
    | some s => simp [Document.misshapen_table_some_iff]
  first := by
    rintro s d rfl hd hsubset
    obtain rfl := Except.ok.inj ((headerNames_of_document hd).symm.trans hnames)
    rw [loadTable_of_document hd, Document.table_some hsubset]

theorem Workbook.onRepeat {w : Workbook} {selection : SheetSelection} {schema : Option Schema}
    {names : List String} (hselect : selection.select w.sheetNames schema = names) (hne : names ≠ []) :
    w.OnRepeat selection schema names (w.wantedColumns names schema) where
  fails := by
    rintro rfl hrepeat t ht
    exact hrepeat (nodup_of_table_none hselect hne ht)
  misshapen_iff := misshapen_table_iff hselect hne
  first _ hsheets hoffers hdistinct := table_of_offers hselect hne hsheets hoffers hdistinct

/-- A name that stands twice in a header is noticed where the header names the columns, and nowhere else:
there the load fails. Where the columns are named otherwise, the load complains only of a header without a
wanted name, and reads the first column of each. -/
theorem repeated_names_noticed (schema : Option Schema) :
    (∀ (text : List UInt8) (names : List String),
      Csv.headerNames text = .ok names → ¬ names.Nodup → Csv.OnRepeat text schema names) ∧
    ∀ (w : Workbook) (selection : SheetSelection) (names : List String),
      selection.select w.sheetNames schema = names →
        (∃ name ∈ names, ∃ s, w.sheet name = .ok s ∧ ¬ s.headers.Nodup) →
          w.OnRepeat selection schema names (w.wantedColumns names schema) := by
  constructor
  · intro text names hnames hrepeat
    exact Csv.onRepeat schema hnames hrepeat
  · rintro w selection names hselect ⟨name, hname, -⟩
    exact Workbook.onRepeat hselect (List.ne_nil_of_mem hname)

/-- A text, a sheet, and two sheets of which only the second has a name twice. -/
theorem repeated_names_in_later_headers :
    let text := Text.encodeUtf8 "a, a\n1,2\n"
    let schema : Schema := ⟨[⟨"a", .int64⟩]⟩
    let first : Sheet := ⟨"s", [[.text "a"], [.number (.ofNat 1)]]⟩
    let second : Sheet := ⟨"t", [[.text "a", .text "a "], [.number (.ofNat 2), .number (.ofNat 3)]]⟩
    let w : Workbook := ⟨.xlsx, [first, second]⟩
    (Misshapen (Csv.loadTable text none) ∧ Csv.loadTable text (some schema) = .ok ⟨schema, [[.int 1]]⟩) ∧
    Misshapen (w.table (.sheet "t") none) ∧
      w.table (.sheet "t") (some schema) = .ok ⟨schema, [[.int 2]]⟩ ∧
      w.table .all none = .ok ⟨schema, [[.int 1], [.int 2]]⟩ := by
  intro text schema first second w
  have hdocument : Csv.Document.ofBytes text = .ok ⟨["a", "a"], [["1", "2"]]⟩ := by decide +kernel
  have hcsv (s : Option Schema) : Csv.OnRepeat text s ["a", "a"] :=
    (repeated_names_noticed s).1 text ["a", "a"] (by decide +kernel) (by decide)
  have hfirst : first.Offers ["a"] := Sheet.offers_of_subset (by decide +kernel) (by decide +kernel)
  have hsecond : second.Offers ["a"] := Sheet.offers_of_subset (by decide +kernel) (by decide +kernel)
  refine ⟨⟨?_, ?_⟩, ?_, ?_, ?_⟩
  · apply (hcsv none).misshapen_iff.2 ⟨⟨_, hdocument⟩, ?_⟩
    intro s hs
    cases hs
  · rw [(hcsv (some schema)).first schema _ rfl hdocument (by decide)]
    decide +kernel
  · have hwanted : w.wantedColumns ["t"] none = ["a", "a"] := by decide +kernel
    have hsheet := (repeated_names_noticed none).2 w (.sheet "t") ["t"] rfl
      ⟨"t", by decide, second, rfl, by decide +kernel⟩
    rw [hwanted] at hsheet
    have hboth : second.Offers ["a", "a"] := Sheet.offers_of_subset (by decide +kernel) (by decide +kernel)
    apply hsheet.misshapen_iff.2 (.inr ⟨rfl, by decide, ?_⟩)
    rw [Workbook.AllOffer, List.forall_mem_singleton]
    exact ⟨second, rfl, hboth⟩
  · have hsheet := (repeated_names_noticed (some schema)).2 w (.sheet "t") ["t"] rfl
      ⟨"t", by decide, second, rfl, by decide +kernel⟩
    rw [hsheet.first [second] (.cons rfl .nil) (List.forall_mem_singleton.2 hsecond) (.inl (Option.some_ne_none schema))]
    decide +kernel
  · have hwanted : w.wantedColumns ["s", "t"] none = ["a"] := by decide +kernel
    have hall := (repeated_names_noticed none).2 w .all ["s", "t"] rfl
      ⟨"t", by decide, second, rfl, by decide +kernel⟩
    rw [hwanted] at hall
    have hoffers : ∀ s ∈ [first, second], s.Offers ["a"] := by
      rw [List.forall_mem_cons, List.forall_mem_singleton]
      exact ⟨hfirst, hsecond⟩
    rw [hall.first [first, second] (.cons rfl (.cons rfl .nil)) hoffers (.inr (by decide))]
    decide +kernel

/-- A repeated name is not always refused: under a schema, and in the second of two sheets, it is not. -/
theorem not_misshapen_of_repeated_names :
    (¬ ∀ (text : List UInt8) (schema : Option Schema) (names : List String),
      Csv.headerNames text = .ok names → ¬ names.Nodup → Misshapen (Csv.loadTable text schema)) ∧
    ¬ ∀ (w : Workbook) (selection : SheetSelection) (schema : Option Schema) (names : List String),
      selection.select w.sheetNames schema = names →
        (∃ name ∈ names, ∃ s, w.sheet name = .ok s ∧ ¬ s.headers.Nodup) →
          Misshapen (w.table selection schema) := by
  let schema : Schema := ⟨[⟨"a", .int64⟩]⟩
  let first : Sheet := ⟨"s", [[.text "a"], [.number (.ofNat 1)]]⟩
  let second : Sheet := ⟨"t", [[.text "a", .text "a "], [.number (.ofNat 2), .number (.ofNat 3)]]⟩
  have hcsv : ¬ Misshapen (Csv.loadTable (Text.encodeUtf8 "a, a\n1,2\n") (some schema)) := by decide +kernel
  have hsheets : ¬ Misshapen (Workbook.table ⟨.xlsx, [first, second]⟩ .all none) := by decide +kernel
  constructor
  · intro h
    exact hcsv (h _ _ ["a", "a"] (by decide +kernel) (by decide))
  · intro h
    exact hsheets (h _ _ _ _ rfl ⟨"t", by decide, second, rfl, by decide +kernel⟩)

end TableReport
