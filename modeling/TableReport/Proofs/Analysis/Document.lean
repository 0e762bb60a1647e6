import Mathlib.Data.List.Duplicate
import TableReport.Proofs.Analysis.Findings
import TableReport.Proofs.Analysis.Validation
import TableReport.Proofs.Json.Within
import TableReport.Proofs.Table.WellFormed
/-!
# The document of a report

The document says what the table says: its rows are rows of the table with all columns in order, samples are
the first of the rows they are samples of, and there is no number in it that is not finite.
-/
namespace TableReport

open Json (Everywhere Within everywhere_leaf everywhere_list everywhere_object everywhere_ofPairs)

/-! ### Rows as objects -/

namespace Schema

variable {s : Schema} {row : Row}

/-- A row as an object with a member for each column, in column order. -/
def rowObject (s : Schema) (row : Row) : Json := .object (s.names.zip (row.map Cell.toJson))

theorem record_eq (hrow : row.Fits s) (hnames : s.names.Nodup) : s.record row = s.rowObject row := by
  have hlength : row.length = s.fields.length := hrow.length_eq
  have hrecord : s.record row = Json.ofPairs (s.names.zip (row.map Cell.toJson)) := by
    apply congrArg Json.ofPairs
    apply List.ext_getElem
    · simp [names, hlength]
    · intro i hi hi'
      have hrow : i < row.length := by simpa [hlength] using hi
      simp [names, Row.cell, hrow]
  have hnodup : ((s.names.zip (row.map Cell.toJson)).map Prod.fst).Nodup := by
    rwa [List.map_fst_zip (by simp [names, hlength])]
  rw [hrecord, Json.ofPairs, Json.Members.ofList_eq_self_iff.2 hnodup, rowObject]

/-- The types of the columns, each column once and in order. -/
theorem toJson_eq (hnames : s.names.Nodup) :
    s.toJson = .object (s.fields.map fun f => (f.name, .text f.type.label)) := by
  rw [toJson, Json.ofPairs, Json.Members.ofList_eq_self_iff.2]
  rwa [List.map_map]

end Schema

/-! ### Numbers and rows in a document -/

/-- A number is finite, and the objects in a list are rows of a table. -/
def Table.Sound (t : Table) : Json → Prop
  | .float x => x.isFinite = true
  | .list items => ∀ members, .object members ∈ items → ∃ row ∈ t.rows, .object members = t.schema.rowObject row
  | _ => True

theorem Cell.members?_toJson (c : Cell) : c.toJson.members? = none := by
  cases c with
  | float x =>
    rw [toJson, Json.ofBinary64]
    split <;> rfl
  | null | int | bool | text | dateTime => rfl

namespace Table

variable {t : Table}

theorem sound_ofBinary64 (x : Binary64) : Everywhere t.Sound (.ofBinary64 x) := by
  unfold Json.ofBinary64
  split
  case isTrue h => exact everywhere_leaf rfl h
  case isFalse => exact everywhere_leaf rfl trivial

theorem sound_ofBinary64? (x : Option Binary64) : Everywhere t.Sound (.ofBinary64? x) := by
  cases x with
  | none => exact everywhere_leaf rfl trivial
  | some x => exact sound_ofBinary64 x

theorem sound_cell (c : Cell) : Everywhere t.Sound c.toJson := by
  cases c with
  | float x => exact sound_ofBinary64 x
  | null | int | bool | text | dateTime => exact everywhere_leaf rfl trivial

theorem sound_rowObject (row : Row) : Everywhere t.Sound (t.schema.rowObject row) := by
  refine everywhere_object trivial fun m hm => ?_
  obtain ⟨c, -, hc⟩ := List.mem_map.1 (List.of_mem_zip hm).2
  exact hc ▸ sound_cell c

theorem sound_ofNat (n : Nat) : Everywhere t.Sound (.ofNat n) := everywhere_leaf rfl trivial

theorem sound_text (s : String) : Everywhere t.Sound (.text s) := everywhere_leaf rfl trivial

/-- A list of values that are no objects. -/
theorem sound_list {items : List Json} (h : ∀ v ∈ items, v.members? = none ∧ Everywhere t.Sound v) :
    Everywhere t.Sound (.list items) := by
  refine everywhere_list (fun members hmembers => ?_) fun v hv => (h v hv).2
  exact absurd (h _ hmembers).1 (Option.some_ne_none members)

theorem sound_texts (ts : List String) : Everywhere t.Sound (.ofTexts ts) := by
  refine sound_list fun v hv => ?_
  obtain ⟨s, -, rfl⟩ := List.mem_map.1 hv
  exact ⟨rfl, sound_text s⟩

theorem sound_numbers (ns : List Nat) : Everywhere t.Sound (.list (ns.map .ofNat)) := by
  refine sound_list fun v hv => ?_
  obtain ⟨n, -, rfl⟩ := List.mem_map.1 hv
  exact ⟨rfl, sound_ofNat n⟩

theorem sound_statistics (s : Statistics) : Everywhere t.Sound s.toJson := by
  refine everywhere_object trivial ?_
  simp only [List.forall_mem_cons, sound_ofNat, sound_ofBinary64?, true_and]
  exact List.forall_mem_nil _

theorem sound_records (hwf : t.WellFormed) (hnames : t.schema.names.Nodup) {rows : List Row}
    (hrows : ∀ row ∈ rows, row ∈ t.rows) : Everywhere t.Sound (t.schema.records rows) := by
  have hrecords : rows.map t.schema.record = rows.map t.schema.rowObject :=
    List.map_congr_left fun row hrow => Schema.record_eq (hwf row (hrows row hrow)) hnames
  rw [Schema.records, hrecords]
  refine everywhere_list (fun members hmembers => ?_) fun v hv => ?_
  · obtain ⟨row, hrow, heq⟩ := List.mem_map.1 hmembers
    exact ⟨row, hrows row hrow, heq.symm⟩
  · obtain ⟨row, -, rfl⟩ := List.mem_map.1 hv
    exact sound_rowObject row

end Table

/-- A report is sound when its result is. -/
theorem Table.sound_answer {t : Table} {source : String} {op : Operation}
    {payload : Payload} (h : Everywhere t.Sound (payload.toJson t.schema)) :
    Everywhere t.Sound (Answer.success (.ofPayload t source op payload)).toJson := by
  have htypes : Everywhere t.Sound t.schema.toJson := by
    refine everywhere_ofPairs trivial fun q hq => ?_
    obtain ⟨f, -, rfl⟩ := List.mem_map.1 hq
    exact sound_text f.type.label
  refine everywhere_object trivial ?_
  simp only [Report.members, Report.ofPayload, List.forall_mem_cons, sound_text, sound_ofNat, sound_texts,
    htypes, h, true_and]
  exact List.forall_mem_nil _

/-- The rows that a payload shows. -/
def Payload.shown : Payload → List Row
  | .info facts => facts.sample
  | .rows found => found
  | .filter s => s.sample
  | .duplicates d => d.sample
  | _ => []

namespace Table

variable {t : Table} {limits : Limits} {plan : Plan} {payload : Payload}

theorem mem_rows_of_execute (h : t.execute limits plan = .ok payload) :
    ∀ row ∈ payload.shown, row ∈ t.rows := by
  cases plan with
  | info =>
    obtain rfl := Except.ok.inj h
    exact fun row hrow => List.mem_of_mem_take hrow
  | rank i n direction =>
    obtain rfl := Except.ok.inj h
    intro row hrow
    have hsorted := (sortBy_perm _ _).mem_iff.1 (List.mem_of_mem_take hrow)
    exact (List.mem_filter.1 hsorted).1
  | filter p =>
    obtain rfl := Except.ok.inj h
    exact fun row hrow => (List.mem_filter.1 (List.mem_of_mem_take hrow)).1
  | duplicates columns =>
    obtain rfl := Except.ok.inj h
    exact fun row hrow => (List.mem_filter.1 (List.mem_of_mem_take hrow)).1
  | unique i | correlate x y =>
    obtain rfl := Except.ok.inj h
    exact fun row hrow => absurd hrow List.not_mem_nil
  | sum i | mean i | stats i | statsOfAll | groupBy key value =>
    obtain ⟨_, -, rfl⟩ := map_eq_ok h
    exact fun row hrow => absurd hrow List.not_mem_nil

theorem sound_payload (hwf : t.WellFormed) (hnames : t.schema.names.Nodup)
    (hrows : ∀ row ∈ payload.shown, row ∈ t.rows) :
    Everywhere t.Sound (payload.toJson t.schema) := by
  cases payload with
  | info facts =>
    refine everywhere_object trivial ?_
    have hshape : Everywhere t.Sound (.list [.ofNat facts.rows, .ofNat facts.columns.length]) :=
      sound_numbers [facts.rows, facts.columns.length]
    have hsample : Everywhere t.Sound (t.schema.records facts.sample) :=
      sound_records hwf hnames hrows
    have hcounts : Everywhere t.Sound
        (.ofPairs (facts.columns.map fun c => (c.name, .ofNat c.missing))) := by
      refine everywhere_ofPairs trivial fun q hq => ?_
      obtain ⟨c, -, rfl⟩ := List.mem_map.1 hq
      exact sound_ofNat c.missing
    simp only [List.forall_mem_cons, hshape, hcounts, sound_ofBinary64, hsample, true_and]
    exact List.forall_mem_nil _
  | rows found => exact sound_records hwf hnames hrows
  | sum total => exact sound_ofBinary64 total
  | mean mean => exact sound_ofBinary64? mean
  | stats s => exact sound_statistics s
  | statsOfAll columns =>
    refine everywhere_ofPairs trivial fun q hq => ?_
    obtain ⟨c, -, rfl⟩ := List.mem_map.1 hq
    exact sound_statistics c.2
  | groups gs =>
    refine everywhere_ofPairs trivial fun q hq => ?_
    obtain ⟨g, -, rfl⟩ := List.mem_map.1 hq
    exact sound_cell g.total
  | filter s =>
    have hsample : Everywhere t.Sound (t.schema.records s.sample) := sound_records hwf hnames hrows
    refine everywhere_object trivial ?_
    simp only [List.forall_mem_cons, sound_ofNat, sound_ofBinary64, hsample, true_and]
    exact List.forall_mem_nil _
  | unique v =>
    have hvalues : Everywhere t.Sound (.list (v.values.map Cell.toJson)) := by
      refine sound_list fun w hw => ?_
      obtain ⟨c, -, rfl⟩ := List.mem_map.1 hw
      exact ⟨c.members?_toJson, sound_cell c⟩
    refine everywhere_object trivial ?_
    simp only [List.forall_mem_cons, sound_ofNat, hvalues, true_and]
    exact List.forall_mem_nil _
  | duplicates d =>
    have hsample : Everywhere t.Sound (t.schema.records d.sample) := sound_records hwf hnames hrows
    refine everywhere_object trivial ?_
    simp only [List.forall_mem_cons, sound_ofNat, hsample, true_and]
    exact List.forall_mem_nil _
  | correlation c =>
    refine everywhere_object trivial ?_
    simp only [List.forall_mem_cons, sound_ofBinary64?, sound_text, true_and]
    exact List.forall_mem_nil _

end Table

/-! ### Samples -/

/-- The value of a member of an object. -/
def Json.member? (v : Json) (name : String) : Option Json := v.members?.bind (·.get? name)

namespace Table

variable {t : Table} {limits : Limits} {r : Request} {report : Report} {source : String} {op : Operation}
  {plan : Plan} {payload : Payload}

/-- The sample in a result is the first of given rows, as many as there are up to a limit. -/
def Samples (t : Table) (limit : Nat) (rows : List Row) (result : Json) : Prop :=
  ∃ sample, sample <+: rows ∧ sample.length = min limit rows.length ∧
    result.member? "sample" = some (.list (sample.map t.schema.rowObject))

theorem samples_take (hwf : t.WellFormed) (hnames : t.schema.names.Nodup) {limit : Nat}
    {rows : List Row} {result : Json} (hrows : ∀ row ∈ rows, row ∈ t.rows)
    (h : result.member? "sample" = some (t.schema.records (rows.take limit))) :
    t.Samples limit rows result := by
  refine ⟨rows.take limit, List.take_prefix limit rows, List.length_take, ?_⟩
  rw [h, Schema.records]
  congr 2
  exact List.map_congr_left fun row hrow =>
    Schema.record_eq (hwf row (hrows row (List.mem_of_mem_take hrow))) hnames

theorem shape_of_info (hwf : t.WellFormed) (hnames : t.schema.names.Nodup)
    (hplan : Plan.ofOperation t.schema r limits .info = .ok plan)
    (hpayload : t.execute limits plan = .ok payload) :
    (payload.toJson t.schema).member? "shape" = some (.list [.ofNat t.size, .ofNat t.schema.width]) ∧
      t.Samples limits.inspected t.rows (payload.toJson t.schema) := by
  obtain rfl := Except.ok.inj hplan
  obtain rfl := Except.ok.inj hpayload
  constructor
  · have hcolumns : (t.inspect limits.inspected).columns.length = t.schema.width := by
      simp [inspect, Schema.width]
    rw [← hcolumns]
    rfl
  · exact samples_take hwf hnames (fun _ => id) rfl

theorem matching_of_filter (hwf : t.WellFormed) (hnames : t.schema.names.Nodup)
    (hplan : Plan.ofOperation t.schema r limits .filter = .ok plan)
    (hpayload : t.execute limits plan = .ok payload) : ∃ condition p,
      r.text? .condition = some condition ∧ Predicate.compile t.schema condition = .ok p ∧
        (payload.toJson t.schema).member? "matching_rows" =
          some (.ofNat (t.rows.filter (p.test ·)).length) ∧
        t.Samples limits.selected (t.rows.filter (p.test ·)) (payload.toJson t.schema) := by
  obtain ⟨condition, hcondition, hplan⟩ := bind_eq_ok hplan
  obtain ⟨p, hp, hplan⟩ := bind_eq_ok hplan
  obtain rfl := Except.ok.inj hplan
  obtain rfl := Except.ok.inj hpayload
  refine ⟨condition, p, Plan.required_eq_ok_iff.1 hcondition, mapError_eq_ok.1 hp, rfl, ?_⟩
  exact samples_take hwf hnames (fun _ hrow => (List.mem_filter.1 hrow).1) rfl

theorem twins_of_duplicates (hwf : t.WellFormed) (hnames : t.schema.names.Nodup)
    (hplan : Plan.ofOperation t.schema r limits .duplicates = .ok plan)
    (hpayload : t.execute limits plan = .ok payload) : ∃ columns,
      r.columnSubset.mapM (Plan.lookUp t.schema .plain) = .ok columns ∧
        let twins := t.rowsAt ((List.range t.size).filter (t.HasTwin (t.comparedColumns columns)))
        (payload.toJson t.schema).member? "duplicate_rows" = some (.ofNat twins.length) ∧
        t.Samples limits.repeated twins (payload.toJson t.schema) := by
  obtain ⟨columns, hcolumns, hplan⟩ := bind_eq_ok hplan
  obtain rfl := Except.ok.inj hplan
  obtain rfl := Except.ok.inj hpayload
  refine ⟨columns, hcolumns, ?_⟩
  rw [← repeatedNumbers_eq, rowsAt_repeatedNumbers]
  exact ⟨rfl, samples_take hwf hnames (fun _ hrow => (List.mem_filter.1 hrow).1) rfl⟩

/-- The document of a report on a well-formed table with distinct column names: the objects in lists are
rows of the table, all columns in order; samples are the first of the rows they are samples of, which are
counted beside them; every column has its type once; and no number is NaN or infinite. -/
theorem WellFormed.document_faithful (hwf : t.WellFormed) (hnames : t.schema.names.Nodup)
    (h : t.analyze source r limits = .success report) :
    report.operation.name = r.operation ∧
    (∀ items, Within (.list items) report.result → ∀ members, .object members ∈ items →
      ∃ row ∈ t.rows, members = t.schema.names.zip (row.map Cell.toJson)) ∧
    (report.operation = .info →
      report.result.member? "shape" = some (.list [.ofNat t.size, .ofNat t.schema.width]) ∧
      t.Samples limits.inspected t.rows report.result) ∧
    (report.operation = .filter → ∃ condition p, r.text? .condition = some condition ∧
      Predicate.compile t.schema condition = .ok p ∧
      report.result.member? "matching_rows" = some (.ofNat (t.rows.filter (p.test ·)).length) ∧
      t.Samples limits.selected (t.rows.filter (p.test ·)) report.result) ∧
    (report.operation = .duplicates → ∃ columns,
      r.columnSubset.mapM (Plan.lookUp t.schema .plain) = .ok columns ∧
      let twins := t.rowsAt ((List.range t.size).filter (t.HasTwin (t.comparedColumns columns)))
      report.result.member? "duplicate_rows" = some (.ofNat twins.length) ∧
      t.Samples limits.repeated twins report.result) ∧
    report.types = .object (t.schema.fields.map fun f => (f.name, .text f.type.label)) ∧
    ∀ x, Within (.float x) (Answer.success report).toJson → x.isFinite = true := by
  obtain ⟨op, plan, payload, hrequest, hpayload, rfl⟩ := exists_payload_of_analyze t limits h
  obtain ⟨hname, hplan⟩ := Plan.ofRequest_eq_ok_iff.1 hrequest
  have hsound := sound_payload hwf hnames (mem_rows_of_execute hpayload)
  refine ⟨hname, ?_, ?_, ?_, ?_, Schema.toJson_eq hnames, ?_⟩
  · intro items hitems members hmembers
    obtain ⟨row, hrow, heq⟩ := hsound _ hitems members hmembers
    exact ⟨row, hrow, Json.object.inj heq⟩
  · rintro rfl
    exact shape_of_info hwf hnames hplan hpayload
  · rintro rfl
    exact matching_of_filter hwf hnames hplan hpayload
  · rintro rfl
    exact twins_of_duplicates hwf hnames hplan hpayload
  · exact fun x hx => sound_answer hsound _ hx

/-- Two rows that agree on a column, one of them with an infinite number in the other. -/
theorem document_of_twins :
    let first : Row := [.float (.infinity false), .text "a"]
    let third : Row := [.null, .text "a"]
    let t : Table :=
      ⟨⟨[⟨"x", .float64⟩, ⟨"s", .utf8⟩]⟩, [first, [.float (.ofNat 1), .text "b"], third]⟩
    let r : Request := { operation := "duplicates", columns := some "s" }
    ∃ report, t.analyze "t.csv" r {} = .success report ∧
      report.result.member? "duplicate_rows" = some (.ofNat 2) ∧
      t.Samples 10 [first, third] report.result ∧
      ∀ x, Within (.float x) (Answer.success report).toJson → x.isFinite = true := by
  intro first third t r
  have hwf : t.WellFormed := by decide
  have hplan : Plan.ofRequest t.schema r {} = .ok (.duplicates, .duplicates [1]) := by decide +kernel
  obtain ⟨report, hanalyze⟩ : ∃ report, t.analyze "t.csv" r {} = .success report :=
    ⟨_, t.analyze_eq_success {} hplan rfl⟩
  obtain ⟨hname, -, -, -, htwins, -, hfinite⟩ := hwf.document_faithful (by decide) hanalyze
  have hoperation : Operation.ofName? "duplicates" = some report.operation :=
    Operation.ofName?_eq_some_iff.2 hname
  obtain ⟨columns, hcolumns, hcount, hsample⟩ := htwins (Option.some.inj hoperation.symm)
  have hone : r.columnSubset.mapM (Plan.lookUp t.schema .plain) = .ok [1] := by decide +kernel
  obtain rfl := Except.ok.inj (hcolumns.symm.trans hone)
  have hrows : t.rowsAt ((List.range t.size).filter (t.HasTwin (t.comparedColumns [1]))) =
      [first, third] := by decide +kernel
  rw [hrows] at hcount hsample
  exact ⟨report, hanalyze, hcount, hsample, hfinite⟩

end Table

end TableReport
