import TableReport.Analysis.Run
import TableReport.Proofs.Outcome
import TableReport.Proofs.Table.RowNumbers
/-!
# What is found, apart from the rows that are shown

Some results show rows of the table. What they find is the numbers of these rows; the cells are filled in
afterwards. Other results show no rows, and are what is found.
-/
namespace TableReport

/-- The result of an answer, if it is no error. -/
def Answer.result? : Answer → Option Json
  | .success report => some report.result
  | .failure _ => none

/-- What a plan finds in a table; rows are given by their numbers. -/
inductive Findings where
  | ranked (numbers : List Nat)
  | selected (numbers : List Nat) (total : Nat) (percentage : Binary64)
  | repeated (numbers : List Nat)
  | result (json : Json)

/-- The result with the rows of a table filled in. -/
def Findings.toJson (t : Table) (limits : Limits) : Findings → Json
  | .ranked numbers => (Payload.rows (t.rowsAt numbers)).toJson t.schema
  | .selected numbers total percentage =>
    (Payload.filter ⟨numbers.length, total, percentage,
      t.rowsAt (numbers.take limits.selected)⟩).toJson t.schema
  | .repeated numbers =>
    (Payload.duplicates ⟨numbers.length, t.rowsAt (numbers.take limits.repeated)⟩).toJson t.schema
  | .result json => json

namespace Table

def findings (t : Table) (limits : Limits) : Plan → Except ColumnError Findings
  | .rank i n direction => .ok (.ranked (t.rankedNumbers i n direction))
  | .filter p =>
    let numbers := t.numbersWhere (p.test ·)
    .ok (.selected numbers t.size (percentOf numbers.length t.size))
  | .duplicates columns => .ok (.repeated (t.repeatedNumbers columns))
  | plan => (t.execute limits plan).map fun payload => .result (payload.toJson t.schema)

/-- What a request finds in a table, if it is not answered with an error. -/
def found (t : Table) (limits : Limits) (r : Request) : Option Findings :=
  match Plan.ofRequest t.schema r limits with
  | .ok (_, plan) => (t.findings limits plan).toOption
  | .error _ => none

variable (t : Table) (limits : Limits)

theorem select_eq (p : Predicate) (n : Nat) :
    let numbers := t.numbersWhere (p.test ·)
    t.select p n =
      ⟨numbers.length, t.size, percentOf numbers.length t.size, t.rowsAt (numbers.take n)⟩ := by
  intro numbers
  have hrows : t.rowsAt numbers = (t.filter (p.test ·)).rows := t.rowsAt_numbersWhere (p.test ·)
  have hlength : (t.filter (p.test ·)).rows.length = numbers.length := by
    rw [← hrows, rowsAt, List.length_map]
  rw [rowsAt_take, hrows, ← hlength]
  rfl

theorem duplicates_eq (columns : List Nat) (n : Nat) :
    let numbers := t.repeatedNumbers columns
    t.duplicates columns n = ⟨numbers.length, t.rowsAt (numbers.take n)⟩ := by
  intro numbers
  have hrows : t.rowsAt numbers = t.repeated columns := t.rowsAt_repeatedNumbers columns
  have hlength : (t.repeated columns).length = numbers.length := by
    rw [← hrows, rowsAt, List.length_map]
  rw [rowsAt_take, hrows, ← hlength]
  rfl

/-- The payload of a plan is what it finds, with the rows filled in. -/
theorem map_findings (plan : Plan) : (t.findings limits plan).map (·.toJson t limits) =
    (t.execute limits plan).map (·.toJson t.schema) := by
  have hother : ∀ x : Except ColumnError Payload,
      (x.map fun payload => Findings.result (payload.toJson t.schema)).map (·.toJson t limits) =
        x.map (·.toJson t.schema) := by
    intro x
    cases x <;> rfl
  cases plan with
  | rank i n direction =>
    simp only [findings, execute, Except.map, Findings.toJson, rowsAt_rankedNumbers]
  | filter p => simp only [findings, execute, Except.map, Findings.toJson, select_eq]
  | duplicates columns => simp only [findings, execute, Except.map, Findings.toJson, duplicates_eq]
  | sum | mean | stats | statsOfAll | groupBy => exact hother _
  | info | unique | correlate => rfl

theorem result?_analyze (source : String) (r : Request) :
    (t.analyze source r limits).result? = (t.found limits r).map (·.toJson t limits) := by
  unfold analyze conclude found
  cases Plan.ofRequest t.schema r limits with
  | error e => rfl
  | ok planned =>
    obtain ⟨op, plan⟩ := planned
    have hfindings := congrArg Except.toOption (t.map_findings limits plan)
    rw [toOption_map, toOption_map] at hfindings
    dsimp only
    rw [hfindings]
    cases t.execute limits plan <;> rfl

theorem analyze_eq_success {source : String} {r : Request} {op : Operation} {plan : Plan}
    {payload : Payload} (hplan : Plan.ofRequest t.schema r limits = .ok (op, plan))
    (hpayload : t.execute limits plan = .ok payload) :
    t.analyze source r limits = .success (.ofPayload t source op payload) := by
  simp only [analyze, conclude, hplan, hpayload, Ending.answer]

theorem exists_payload_of_analyze {source : String} {r : Request} {report : Report}
    (h : t.analyze source r limits = .success report) : ∃ op plan payload,
      Plan.ofRequest t.schema r limits = .ok (op, plan) ∧ t.execute limits plan = .ok payload ∧
        report = .ofPayload t source op payload := by
  unfold analyze conclude at h
  cases hplan : Plan.ofRequest t.schema r limits with
  | error e =>
    rw [hplan] at h
    cases h
  | ok planned =>
    obtain ⟨op, plan⟩ := planned
    rw [hplan] at h
    dsimp only at h
    cases hpayload : t.execute limits plan with
    | error e =>
      rw [hpayload] at h
      cases h
    | ok payload =>
      rw [hpayload] at h
      cases h
      exact ⟨op, plan, payload, rfl, hpayload, rfl⟩

/-- Tables of one schema and size are answered alike when what plans find in them is written alike. -/
theorem analyze_congr {t' : Table} {r : Request} (hschema : t'.schema = t.schema)
    (hsize : t'.size = t.size)
    (h : ∀ op plan, Plan.ofRequest t.schema r limits = .ok (op, plan) →
      (t'.findings limits plan).map (·.toJson t' limits) =
        (t.findings limits plan).map (·.toJson t limits)) (source : String) :
    t'.analyze source r limits = t.analyze source r limits := by
  unfold analyze conclude
  rw [hschema]
  cases hplan : Plan.ofRequest t.schema r limits with
  | error e => rfl
  | ok planned =>
    obtain ⟨op, plan⟩ := planned
    have hresult := h op plan hplan
    rw [map_findings, map_findings, hschema] at hresult
    dsimp only
    cases ht' : t'.execute limits plan <;> cases ht : t.execute limits plan <;>
      rw [ht', ht] at hresult <;>
      simp_all [Except.map, Ending.answer, Report.ofPayload]

end Table

end TableReport
