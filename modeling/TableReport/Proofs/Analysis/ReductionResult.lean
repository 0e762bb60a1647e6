import TableReport.Proofs.Analysis.Findings
import TableReport.Proofs.Analysis.Validation
import TableReport.Proofs.Text.Blank
/-!
# Sums and means by reduction and by request

A sum or a mean is had in two ways: a column can be reduced to it, and a request can ask for it. Both
calculate the same and fail alike, but they do not take the same columns. A request takes columns of type
null, which have nothing to add up, and a reduction refuses them.
-/
namespace TableReport

/-- There is a result exactly when the column is reduced to a cell, and it is the number of that cell. -/
structure Answer.Reports (answer : Answer) (reduced : Except ColumnError Cell) : Prop where
  success_iff : (∃ c, reduced = .ok c) ↔ ∃ report, answer = .success report
  result_eq : ∀ c report, reduced = .ok c → answer = .success report →
    report.result = .ofBinary64? c.number?

/-- The answer has what was calculated as its result, or the message of the error. -/
def Answer.Gives (answer : Answer) : Except ColumnError (Option Binary64) → Prop
  | .ok value => ∃ report, answer = .success report ∧ report.result = .ofBinary64? value
  | .error e => answer = .failure e.message

theorem Answer.Gives.reports {answer : Answer} {reduced : Except ColumnError Cell}
    (h : answer.Gives (reduced.map Cell.number?)) : answer.Reports reduced := by
  cases reduced with
  | error e =>
    have hanswer : answer = .failure e.message := h
    rw [hanswer]
    constructor
    · constructor
      · rintro ⟨c, hc⟩
        cases hc
      · rintro ⟨report, hreport⟩
        cases hreport
    · intro c report hc
      cases hc
  | ok c =>
    obtain ⟨report, rfl, hresult⟩ : ∃ report, answer = .success report ∧
      report.result = .ofBinary64? c.number? := h
    refine ⟨iff_of_true ⟨c, rfl⟩ ⟨report, rfl⟩, ?_⟩
    intro c' report' hc hreport
    cases hc
    cases hreport
    exact hresult

theorem Request.text?_column_eq {r : Request} {name : String} (hcolumn : r.column = some name)
    (hblank : ¬Text.AllBlank name.toList) : r.text? .column = some name := by
  have hpresent : name.toList.all Text.isBlank = false := by
    rw [← Bool.not_eq_true, List.all_eq_true]
    exact hblank
  simp [text?, present?, hcolumn, Option.filter, hpresent]

namespace Table

variable {t : Table} {name : String} {i : Nat} {r : Request}

/-! ### Reducing -/

theorem exists_number?_of_total {c : Cell} (h : t.total i = .ok c) : ∃ x, c.number? = some x := by
  unfold total Total.finish at h
  split at h
  · split at h
    · exact ⟨_, congrArg Cell.number? (Except.ok.inj h).symm⟩
    · cases h
  · exact ⟨_, congrArg Cell.number? (Except.ok.inj h).symm⟩

theorem map_number?_total : (t.total i).map Cell.number? = (t.sum i).map some := by
  unfold sum
  cases h : t.total i with
  | error e => rfl
  | ok c =>
    obtain ⟨x, hx⟩ := exists_number?_of_total h
    simp [Except.map, hx]

theorem map_number?_reduce_sum (hname : t.schema.indexOf? name = some i) :
    (t.reduce name .sum).map Cell.number? = if (t.typeAt i).isNumeric then (t.sum i).map some
      else .error (.notNumeric name (t.typeAt i) "sum") := by
  rw [reduce_sum hname]
  split
  · exact map_number?_total
  · rfl

theorem map_number?_reduce_mean (hname : t.schema.indexOf? name = some i) :
    (t.reduce name .mean).map Cell.number? = if (t.typeAt i).isNumeric then t.mean i
      else .error (.notNumeric name (t.typeAt i) "mean") := by
  rw [reduce_mean hname]
  split
  · cases t.mean i with
    | error e => rfl
    | ok m => cases m <;> rfl
  · rfl

/-! ### Asking -/

theorem numericColumn_eq {op : Operation} (hcolumn : r.text? .column = some name)
    (hname : t.schema.indexOf? name = some i) : Plan.numericColumn t.schema op r .column =
      if (t.typeAt i).isSummable then .ok i
      else .error (.column (.notNumeric name (t.typeAt i) op.name)) := by
  obtain ⟨field, hfield, hfieldName⟩ : ∃ field, t.schema.fields[i]? = some field ∧ field.name = name := by
    have hget := (Schema.indexOf?_eq_some.1 hname).1
    rw [Schema.names, List.getElem?_map] at hget
    exact Option.map_eq_some_iff.1 hget
  have htype : t.typeAt i = field.type := by simp [typeAt, Schema.typeAt?, hfield]
  have hlookUp : Plan.lookUp t.schema .plain name = .ok i := Plan.lookUp_eq_ok_iff.2 hname
  rw [Plan.numericColumn, Plan.required_eq_ok_iff.2 hcolumn, htype]
  simp only [bind, Except.bind, hlookUp, Plan.checkNumeric, hfield, hfieldName]
  cases field.type.isSummable <;> rfl

/-- An operation on one column that can be added up gives what its plan comes to. -/
theorem analyze_gives (source : String) (limits : Limits) (op : Operation) (plan : Nat → Plan)
    {value : Except ColumnError (Option Binary64)} (hop : r.operation = op.name)
    (hcolumn : r.text? .column = some name) (hname : t.schema.indexOf? name = some i)
    (hplan : Plan.ofOperation t.schema r limits op =
      Plan.numericColumn t.schema op r .column >>= fun i => .ok (plan i))
    (hvalue : (t.execute limits (plan i)).map (Payload.toJson t.schema) = value.map Json.ofBinary64?) :
    (t.analyze source r limits).Gives
      (if (t.typeAt i).isSummable then value else .error (.notNumeric name (t.typeAt i) op.name)) := by
  have hnamed : Operation.ofName? r.operation = some op := Operation.ofName?_eq_some_iff.2 hop.symm
  rw [numericColumn_eq hcolumn hname] at hplan
  unfold analyze conclude Plan.ofRequest
  rw [hnamed]
  dsimp only
  rw [hplan]
  by_cases htype : (t.typeAt i).isSummable = true
  · simp only [htype, if_true, bind, Except.bind, Except.map]
    cases hexecute : t.execute limits (plan i) <;> cases value <;> rw [hexecute] at hvalue
    case error.error e e' =>
      have he : e = e' := Except.error.inj hvalue
      rw [he]
      exact rfl
    case error.ok | ok.error => cases hvalue
    case ok.ok payload v => exact ⟨_, rfl, Except.ok.inj hvalue⟩
  · rw [if_neg htype, if_neg htype]
    exact rfl

theorem analyze_sum (source : String) (limits : Limits) (hop : r.operation = "sum")
    (hcolumn : r.text? .column = some name) (hname : t.schema.indexOf? name = some i) :
    (t.analyze source r limits).Gives (if (t.typeAt i).isSummable then (t.sum i).map some
      else .error (.notNumeric name (t.typeAt i) "sum")) := by
  apply analyze_gives source limits .sum .sum hop hcolumn hname rfl
  rw [execute]
  cases t.sum i <;> rfl

theorem analyze_mean (source : String) (limits : Limits) (hop : r.operation = "mean")
    (hcolumn : r.text? .column = some name) (hname : t.schema.indexOf? name = some i) :
    (t.analyze source r limits).Gives (if (t.typeAt i).isSummable then t.mean i
      else .error (.notNumeric name (t.typeAt i) "mean")) := by
  apply analyze_gives source limits .mean .mean hop hcolumn hname rfl
  rw [execute]
  cases t.mean i <;> rfl

/-! ### Agreement -/

section Agreement

variable {reduction : Reduction} (hr : reduction = .sum ∨ reduction = .mean) (source : String)
  (limits : Limits) (hop : r.operation = reduction.name) (hcolumn : r.text? .column = some name)
  (hname : t.schema.indexOf? name = some i)
include hr hop hcolumn hname

theorem analyze_gives_reduced (htype : t.typeAt i ≠ .null) :
    (t.analyze source r limits).Gives ((t.reduce name reduction).map Cell.number?) := by
  have hsummable : (t.typeAt i).isSummable = (t.typeAt i).isNumeric := by
    simp [ColumnType.isSummable, htype]
  rcases hr with rfl | rfl
  · rw [map_number?_reduce_sum hname, ← hsummable]
    exact analyze_sum source limits hop hcolumn hname
  · rw [map_number?_reduce_mean hname, ← hsummable]
    exact analyze_mean source limits hop hcolumn hname

theorem WellFormed.analyze_gives_of_null (ht : t.WellFormed) (htype : t.typeAt i = .null) :
    (t.analyze source r limits).Gives (.ok (if reduction = .sum then some 0 else none)) := by
  have hsummable : (t.typeAt i).isSummable = true := htype ▸ rfl
  rcases hr with rfl | rfl
  · have hgives := analyze_sum source limits hop hcolumn hname
    rwa [if_pos hsummable, ht.sum_of_null htype] at hgives
  · have hgives := analyze_mean source limits hop hcolumn hname
    rwa [if_pos hsummable, ht.mean_of_null htype] at hgives

end Agreement

theorem reduce_of_null {reduction : Reduction} (hr : reduction = .sum ∨ reduction = .mean)
    (hname : t.schema.indexOf? name = some i) (htype : t.typeAt i = .null) :
    t.reduce name reduction = .error (.notNumeric name .null reduction.name) := by
  rcases hr with rfl | rfl
  · rw [reduce_sum hname, htype]
    rfl
  · rw [reduce_mean hname, htype]
    rfl

/-- A request for a sum or a mean reports what the column is reduced to, and fails with the same error,
unless the type of the column is null. Such a column is not reduced, but the request reports a sum of zero
and a mean of null. -/
theorem WellFormed.request_reports_reduction_iff (ht : t.WellFormed) (hnames : t.schema.names.Nodup)
    (hblank : ∀ name ∈ t.schema.names, ¬Text.AllBlank name.toList) (hi : i < t.schema.width)
    {reduction : Reduction} (hr : reduction = .sum ∨ reduction = .mean)
    (hop : r.operation = reduction.name) (hcolumn : r.column = some (t.nameAt i)) (source : String)
    (limits : Limits) :
    let reduced := t.reduce (t.nameAt i) reduction
    let answer := t.analyze source r limits
    (answer.Reports reduced ↔ t.typeAt i ≠ .null) ∧
      (t.typeAt i ≠ .null → ∀ e, reduced = .error e → answer = .failure e.message) ∧
      (t.typeAt i = .null →
        reduced = .error (.notNumeric (t.nameAt i) .null reduction.name) ∧
          ∃ report, answer = .success report ∧
            report.result = .ofBinary64? (if reduction = .sum then some 0 else none)) := by
  intro reduced answer
  have hname := indexOf?_nameAt hnames hi
  have hmem := List.mem_of_getElem? (Schema.indexOf?_eq_some.1 hname).1
  have hgiven := Request.text?_column_eq hcolumn (hblank _ hmem)
  have hnull : t.typeAt i = .null → reduced = .error (.notNumeric (t.nameAt i) .null reduction.name) ∧
      answer.Gives (.ok (if reduction = .sum then some 0 else none)) := fun htype =>
    ⟨reduce_of_null hr hname htype, ht.analyze_gives_of_null hr source limits hop hgiven hname htype⟩
  have hother : t.typeAt i ≠ .null → answer.Gives (reduced.map Cell.number?) :=
    analyze_gives_reduced hr source limits hop hgiven hname
  refine ⟨⟨?_, fun htype => (hother htype).reports⟩, ?_, hnull⟩
  · intro hreports htype
    obtain ⟨hreduced, report, hreport, -⟩ := hnull htype
    obtain ⟨c, hc⟩ := hreports.success_iff.2 ⟨report, hreport⟩
    rw [hreduced] at hc
    cases hc
  · intro htype e he
    have hgives := hother htype
    rw [he] at hgives
    exact hgives

/-- An overflow, an infinite mean that is reported as null, and a column of type null. -/
theorem request_reports_overflow_and_infinity :
    let t : Table := ⟨⟨[⟨"n", .int64⟩, ⟨"x", .float64⟩, ⟨"e", .null⟩]⟩,
      [[.int Int64.maxValue, .float (.infinity false), .null], [.int 1, .float (.ofNat 1), .null]]⟩
    let sum (name : String) : Request := { operation := "sum", column := some name }
    let mean (name : String) : Request := { operation := "mean", column := some name }
    t.WellFormed ∧
      t.analyze "readings.csv" (sum "n") {} =
        .failure "Integer overflow while summing column 'n'" ∧
      t.reduce "x" .mean = .ok (.float (.infinity false)) ∧
      (∃ report, t.analyze "readings.csv" (mean "x") {} = .success report ∧ report.result = .null) ∧
      ¬(t.analyze "readings.csv" (sum "e") {}).Reports (t.reduce "e" .sum) := by
  intro t sum mean
  have ht : t.WellFormed := by decide
  have hnames : t.schema.names.Nodup := by decide
  have hblank : ∀ name ∈ t.schema.names, ¬Text.AllBlank name.toList := by decide +kernel
  obtain ⟨-, hoverflow, -⟩ := ht.request_reports_reduction_iff (i := 0) hnames hblank (by decide)
    (.inl rfl) (r := sum "n") rfl rfl "readings.csv" {}
  obtain ⟨hinfinity, -, -⟩ := ht.request_reports_reduction_iff (i := 1) hnames hblank (by decide)
    (.inr rfl) (r := mean "x") rfl rfl "readings.csv" {}
  obtain ⟨hnull, -, -⟩ := ht.request_reports_reduction_iff (i := 2) hnames hblank (by decide)
    (.inl rfl) (r := sum "e") rfl rfl "readings.csv" {}
  have hreduced : t.reduce "n" .sum = .error (.overflow "n") := by decide +kernel
  have hmean : t.reduce "x" .mean = .ok (.float (.infinity false)) := by decide +kernel
  have hreports := hinfinity.2 (by decide)
  obtain ⟨report, hreport⟩ := hreports.success_iff.1 ⟨_, hmean⟩
  refine ⟨ht, hoverflow (by decide) _ hreduced, hmean, ⟨report, hreport, ?_⟩, mt hnull.1 (by decide)⟩
  exact hreports.result_eq _ report hmean hreport

/-- A request reports the sum and the mean of a column without values, and the column is reduced to
neither. -/
theorem request_reports_more_than_reduction :
    let t : Table := ⟨⟨[⟨"e", .null⟩]⟩, [[.null], [.null]]⟩
    let sum : Request := { operation := "sum", column := some "e" }
    let mean : Request := { operation := "mean", column := some "e" }
    t.WellFormed ∧ t.schema.names.Nodup ∧ (∀ name ∈ t.schema.names, ¬Text.AllBlank name.toList) ∧
      t.reduce "e" .sum = .error (.notNumeric "e" .null "sum") ∧
      t.reduce "e" .mean = .error (.notNumeric "e" .null "mean") ∧
      (∃ report, t.analyze "readings.csv" sum {} = .success report ∧ report.result = .ofBinary64 0) ∧
      ∃ report, t.analyze "readings.csv" mean {} = .success report ∧ report.result = .null := by
  intro t sum mean
  have hsum : t.execute {} (.sum 0) = .ok (.sum 0) := by decide +kernel
  have hmean : t.execute {} (.mean 0) = .ok (.mean none) := by decide +kernel
  have hsumPlan : Plan.ofRequest t.schema sum {} = .ok (.sum, .sum 0) := rfl
  have hmeanPlan : Plan.ofRequest t.schema mean {} = .ok (.mean, .mean 0) := rfl
  refine ⟨by decide, by decide, by decide +kernel, by decide +kernel, by decide +kernel, ?_, ?_⟩
  · exact ⟨_, analyze_eq_success t {} hsumPlan hsum, rfl⟩
  · exact ⟨_, analyze_eq_success t {} hmeanPlan hmean, rfl⟩

end Table

end TableReport
