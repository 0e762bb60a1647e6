import TableReport.Proofs.Analysis.Validation
import TableReport.Proofs.Reduce.Missing
/-!
# Answers about tables with NaN

Operations that pass over missing values give the same answer when each NaN is replaced by null: what
they find is the same, and the rows that they show are written alike.
-/
namespace TableReport

@[simp] theorem Cell.toJson_withoutNaN (c : Cell) : c.withoutNaN.toJson = c.toJson := by
  cases c with
  | float v =>
    by_cases h : v.isNaN = true
    · have hfinite : v.isFinite = false := by
        simp only [Binary64.isNaN, Binary64.isFinite, decide_eq_true_eq,
          decide_eq_false_iff_not] at h ⊢
        omega
      simp [withoutNaN, h, toJson, Json.ofBinary64, hfinite]
    · simp [withoutNaN, h]
  | null | int | bool | text | dateTime => rfl

@[simp] theorem Schema.records_withoutNaN (s : Schema) (rows : List Row) :
    s.records (rows.map Row.withoutNaN) = s.records rows := by
  simp [records, record, Function.comp_def]

/-- Null in place of NaN in the rows of a payload. -/
def Payload.withoutNaN : Payload → Payload
  | .info facts => .info { facts with sample := facts.sample.map Row.withoutNaN }
  | .rows found => .rows (found.map Row.withoutNaN)
  | payload => payload

theorem Payload.toJson_withoutNaN (schema : Schema) (payload : Payload) :
    payload.withoutNaN.toJson schema = payload.toJson schema := by
  cases payload with
  | info facts => simp [withoutNaN, toJson, Inspection.mebibytes]
  | rows rows => simp [withoutNaN, toJson]
  | sum | mean | stats | statsOfAll | groups | filter | unique | duplicates | correlation => rfl

/-- The operations that pass over missing values; the others tell null and NaN apart. -/
def Operation.skipsMissing : Operation → Bool
  | .info | .topN | .bottomN | .sum | .mean | .stats | .groupBy | .correlate => true
  | .filter | .unique | .duplicates => false

namespace Table

variable (t : Table) (limits : Limits)

theorem schema_withoutNaN : t.withoutNaN.schema = t.schema := rfl

theorem describeAll_withoutNaN : t.withoutNaN.describeAll = t.describeAll := by
  simp only [describeAll, describe_withoutNaN]
  rfl

theorem execute_withoutNaN {op : Operation} {plan : Plan} (hop : op ∈ plan.operations)
    (hskips : op.skipsMissing = true) :
    t.withoutNaN.execute limits plan = (t.execute limits plan).map Payload.withoutNaN := by
  have hplain : ∀ {β : Type} (x : Except ColumnError β) {f : β → Payload},
      (∀ b, (f b).withoutNaN = f b) → x.map f = (x.map f).map Payload.withoutNaN := by
    intro β x f hf
    cases x with
    | error e => rfl
    | ok b => exact congrArg Except.ok (hf b).symm
  cases plan with
  | info => simp only [execute, inspect_withoutNaN, Except.map, Payload.withoutNaN]
  | rank i n direction => simp only [execute, rank_withoutNaN, Except.map, Payload.withoutNaN]
  | sum i =>
    simp only [execute, sum_withoutNaN]
    exact hplain _ fun _ => rfl
  | mean i =>
    simp only [execute, mean_withoutNaN]
    exact hplain _ fun _ => rfl
  | stats i =>
    simp only [execute, describe_withoutNaN]
    exact hplain _ fun _ => rfl
  | statsOfAll =>
    simp only [execute, describeAll_withoutNaN]
    exact hplain _ fun _ => rfl
  | groupBy key value =>
    simp only [execute, groupSum_withoutNaN]
    exact hplain _ fun _ => rfl
  | correlate x y => simp only [execute, correlate_withoutNaN, Except.map, Payload.withoutNaN]
  | filter | unique | duplicates =>
    obtain rfl := List.mem_singleton.1 hop
    cases hskips

theorem ofPayload_withoutNaN (source : String) (op : Operation) (payload : Payload) :
    Report.ofPayload t.withoutNaN source op payload.withoutNaN =
      Report.ofPayload t source op payload := by
  simp only [Report.ofPayload, size_withoutNaN, schema_withoutNaN, Payload.toJson_withoutNaN]

/-- Wherever null is passed over, so is NaN: with null in place of each NaN the whole answer is the same,
be it a report or an error. -/
theorem analyze_withoutNaN (source : String) (r : Request) (op : Operation)
    (hop : op.name = r.operation) (hskips : op.skipsMissing = true) :
    t.withoutNaN.analyze source r limits = t.analyze source r limits := by
  unfold analyze conclude
  rw [schema_withoutNaN]
  cases hplan : Plan.ofRequest t.schema r limits with
  | error e => rfl
  | ok planned =>
    obtain ⟨op', plan⟩ := planned
    obtain ⟨hop', hoperation⟩ := Plan.ofRequest_eq_ok_iff.1 hplan
    obtain rfl : op' = op := by
      rw [← Operation.ofName?_eq_some_iff] at hop hop'
      exact Option.some.inj (hop'.symm.trans hop)
    have hexecute :=
      t.execute_withoutNaN limits (Plan.mem_operations_of_ofOperation hoperation) hskips
    dsimp only
    rw [hexecute]
    cases t.execute limits plan with
    | error e => rfl
    | ok payload =>
      simp only [Except.map, Ending.answer, ofPayload_withoutNaN]

/-- A NaN in the column that is added up, and one among the keys, which is no group. -/
theorem groups_with_nan :
    let t : Table := ⟨⟨[⟨"k", .float64⟩, ⟨"x", .float64⟩]⟩,
      [[.float (.ofNat 1), .float .nan], [.float (-.nan), .float (.ofNat 2)],
        [.float (.ofNat 1), .float (.ofNat 3)]]⟩
    let r : Request := { operation := "group_by", groupBy := some "k", aggregate := some "x" }
    t.withoutNaN.rows = [[.float (.ofNat 1), .null], [.null, .float (.ofNat 2)],
        [.float (.ofNat 1), .float (.ofNat 3)]] ∧
      t.withoutNaN.groupSum 0 1 = .ok [⟨.float (.ofNat 1), .float (.ofNat 3)⟩] ∧
      t.withoutNaN.analyze "data.csv" r {} = t.analyze "data.csv" r {} := by
  intro t r
  refine ⟨by decide +kernel, by decide +kernel, ?_⟩
  exact t.analyze_withoutNaN {} "data.csv" r .groupBy (by decide) rfl

end Table

end TableReport
