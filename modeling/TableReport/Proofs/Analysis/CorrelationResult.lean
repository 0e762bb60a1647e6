import TableReport.Proofs.Analysis.Findings
import TableReport.Proofs.Analysis.Validation
import TableReport.Proofs.Reduce.Correlation
/-!
# Correlations asked for the other way round

A request for a correlation and the one with its columns exchanged are accepted together, and then they
have the same report.
-/
namespace TableReport

/-- Both requests ask for a correlation, and the first column of one is the second of the other. -/
structure Request.Exchanged (r r' : Request) : Prop where
  operation : r.operation = "correlate"
  operation' : r'.operation = "correlate"
  first : r.column1 = r'.column2
  second : r.column2 = r'.column1

namespace Request.Exchanged

variable {r r' : Request} {schema : Schema} {limits : Limits} {op : Operation} {x y : Nat}

theorem symm (h : r.Exchanged r') : r'.Exchanged r :=
  ⟨h.operation', h.operation, h.second.symm, h.first.symm⟩

theorem text?_first (h : r.Exchanged r') : r.text? .column1 = r'.text? .column2 :=
  congrArg present? h.first

theorem text?_second (h : r.Exchanged r') : r.text? .column2 = r'.text? .column1 :=
  congrArg present? h.second

theorem exists_plan (h : r.Exchanged r') {plan : Plan}
    (hplan : Plan.ofRequest schema r limits = .ok (op, plan)) :
    ∃ x y, plan = .correlate x y ∧ Plan.ofRequest schema r' limits = .ok (op, .correlate y x) := by
  rw [Plan.ofRequest_eq_ok_iff, h.operation] at hplan
  obtain ⟨hop, hplan⟩ := hplan
  obtain rfl : .correlate = op := Option.some.inj (Operation.ofName?_eq_some_iff.2 hop)
  simp only [Plan.ofOperation, bind_eq_ok_iff, Plan.numericColumn_eq_ok_iff, h.text?_first,
    h.text?_second] at hplan
  obtain ⟨x, hx, y, hy, hplan⟩ := hplan
  refine ⟨x, y, (Except.ok.inj hplan).symm, ?_⟩
  rw [Plan.ofRequest_eq_ok_iff, h.operation']
  simp only [Plan.ofOperation, bind_eq_ok_iff, Plan.numericColumn_eq_ok_iff]
  exact ⟨hop, y, hy, x, hx, rfl⟩

theorem analyze_success (h : r.Exchanged r') {t : Table} {source : String} {report : Report}
    (hreport : t.analyze source r limits = .success report) :
    t.analyze source r' limits = .success report := by
  obtain ⟨op, plan, payload, hplan, hpayload, rfl⟩ := t.exists_payload_of_analyze limits hreport
  obtain ⟨x, y, rfl, hplan'⟩ := h.exists_plan hplan
  have hpayload' : t.execute limits (.correlate y x) = .ok payload := by
    rw [← hpayload, Table.execute, Table.execute, t.correlate_swap x y]
  exact t.analyze_eq_success limits hplan' hpayload'

end Request.Exchanged

namespace Table

/-- The correlation of two columns does not depend on which is named first, and neither does the report on
it. -/
theorem correlation_symmetric (t : Table) :
    (∀ x y, t.correlate x y = t.correlate y x) ∧
      ∀ (r r' : Request), r.Exchanged r' → ∀ source limits report,
        t.analyze source r limits = .success report ↔ t.analyze source r' limits = .success report :=
  ⟨fun x y => t.correlate_swap y x, fun _ _ h _ _ _ => ⟨h.analyze_success, h.symm.analyze_success⟩⟩

/-- Integers against numbers. A cell is missing on one side in the second row, on the other in the third. -/
theorem correlation_of_exchanged_columns :
    let t : Table := ⟨⟨[⟨"n", .int64⟩, ⟨"x", .float64⟩]⟩,
      [[.int 1, .float (.ofNat 4)], [.null, .float (.ofNat 9)], [.int 7, .float .nan],
        [.int 2, .float (.ofNat 2)]]⟩
    let r : Request := { operation := "correlate", column1 := some "n", column2 := some "x" }
    let r' : Request := { operation := "correlate", column1 := some "x", column2 := some "n" }
    r.Exchanged r' ∧ t.pairs 0 1 = [(.ofNat 1, .ofNat 4), (.ofNat 2, .ofNat 2)] ∧
      ∃ report, t.analyze "readings.csv" r {} = .success report ∧
        t.analyze "readings.csv" r' {} = .success report ∧
        report.result = .object [("correlation", .ofBinary64 (-Binary64.ofNat 1)),
          ("interpretation", .text "strong negative")] := by
  intro t r r'
  have hexchanged : r.Exchanged r' := ⟨rfl, rfl, rfl, rfl⟩
  have hpayload : t.execute {} (.correlate 0 1) =
      .ok (.correlation ⟨some (-Binary64.ofNat 1), .strongNegative⟩) := by decide +kernel
  have hplan : Plan.ofRequest t.schema r {} = .ok (.correlate, .correlate 0 1) := rfl
  have hreport : t.analyze "readings.csv" r {} = .success
      (.ofPayload t "readings.csv" .correlate (.correlation ⟨some (-Binary64.ofNat 1), .strongNegative⟩)) :=
    t.analyze_eq_success {} hplan hpayload
  exact ⟨hexchanged, by decide +kernel, _, hreport,
    ((correlation_symmetric t).2 r r' hexchanged _ _ _).1 hreport, rfl⟩

end Table

end TableReport
