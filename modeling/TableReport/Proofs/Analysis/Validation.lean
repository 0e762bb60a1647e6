import TableReport.Analysis.Run
import TableReport.Proofs.Condition.ByName
import TableReport.Proofs.Reduce.Grouping
import TableReport.Proofs.Reduce.Percentile
import TableReport.Proofs.Reduce.Total
/-!
# Which requests have a result

What a request has to bring is said here without the steps of validating it: the parameters that its
operation requires, columns that are there and of a suitable type, a condition that compiles. Exactly
such requests have a plan, and a plan fails only when an integer total is out of range.
-/
namespace TableReport

namespace Operation

/-- The parameters that an operation cannot do without. -/
@[simp] def required : Operation → List Parameter
  | .topN | .bottomN | .sum | .mean | .unique => [.column]
  | .groupBy => [.groupBy, .aggregate]
  | .filter => [.condition]
  | .correlate => [.column1, .column2]
  | .info | .stats | .duplicates => []

/-- The parameters by which an operation names one column each. -/
@[simp] def columnParameters : Operation → List Parameter
  | .topN | .bottomN | .sum | .mean | .stats | .unique => [.column]
  | .groupBy => [.groupBy, .aggregate]
  | .correlate => [.column1, .column2]
  | .info | .filter | .duplicates => []

/-- The parameters that name columns to calculate with. -/
@[simp] def numericParameters : Operation → List Parameter
  | .topN | .bottomN | .sum | .mean | .stats => [.column]
  | .groupBy => [.aggregate]
  | .correlate => [.column1, .column2]
  | .info | .filter | .unique | .duplicates => []

theorem ofName?_eq_some_iff {s : String} {op : Operation} : ofName? s = some op ↔ op.name = s := by
  constructor
  · intro h
    exact eq_of_beq (List.find?_some h :)
  · rintro rfl
    cases op <;> rfl

end Operation

/-- A column with the name, if there is one, holds integers, numbers, or nothing. -/
def Schema.NumericNamed (schema : Schema) (name : String) : Prop :=
  ∀ type, schema.typeNamed name = some type → type = .int64 ∨ type = .float64 ∨ type = .null

/-- The request brings what the operation needs over columns like these. -/
@[mk_iff]
structure Schema.Admits (schema : Schema) (op : Operation) (r : Request) : Prop where
  given : ∀ p ∈ op.required, r.text? p ≠ none
  known : ∀ p ∈ op.columnParameters, ∀ name, r.text? p = some name → name ∈ schema.names
  subset : op = .duplicates → ∀ name ∈ r.columnSubset, name ∈ schema.names
  numeric : ∀ p ∈ op.numericParameters, ∀ name, r.text? p = some name → schema.NumericNamed name
  someNumeric : op = .stats → r.text? .column = none →
    ∃ f ∈ schema.fields, f.type = .int64 ∨ f.type = .float64
  compiles : op = .filter → ∀ text, r.text? .condition = some text →
    ∃ p, Predicate.compile schema text = .ok p

/-- The operation adds up the cells, which are of the column at the position. -/
def Table.Adds (t : Table) (r : Request) (i : Nat) (cells : List Cell) : Operation → Prop
  | .sum | .mean =>
    ∃ name, r.text? .column = some name ∧ t.schema.indexOf? name = some i ∧ cells = t.column i
  | .stats =>
    (∀ name, r.text? .column = some name → t.schema.indexOf? name = some i) ∧ cells = t.column i
  | .groupBy =>
    ∃ keyName name key k, r.text? .groupBy = some keyName ∧ r.text? .aggregate = some name ∧
      t.schema.indexOf? keyName = some key ∧ t.schema.indexOf? name = some i ∧
      cells = t.groupCells key i k
  | _ => False

/-- Each sum of integers that the operation calculates is a 64-bit integer. -/
def Table.SumsFit (t : Table) (op : Operation) (r : Request) : Prop :=
  ∀ i cells, t.Adds r i cells op → t.typeAt i = .int64 → fitsInt64 (integerSum cells) = true

/-- With values, none of the statistics that are read off the sorted values is missing: every position
that was looked at is one of a value. -/
def Statistics.Complete (s : Statistics) : Prop :=
  s.count ≠ 0 → s.min.isSome ∧ s.lowerQuartile.isSome ∧ s.median.isSome ∧ s.upperQuartile.isSome ∧
    s.max.isSome

/-- The statistics in a payload, if there are any, are complete. -/
def Payload.Complete : Payload → Prop
  | .stats s => s.Complete
  | .statsOfAll columns => ∀ p ∈ columns, p.2.Complete
  | _ => True

namespace Plan

variable {schema : Schema} {op : Operation} {r : Request} {limits : Limits}

/-! ### Parts of validation -/

theorem required_eq_ok_iff {p : Parameter} {s : String} :
    required schema op r p = .ok s ↔ r.text? p = some s := by
  unfold required
  split <;> simp_all

theorem lookUp_eq_ok_iff {role : ColumnRole} {name : String} {i : Nat} :
    lookUp schema role name = .ok i ↔ schema.indexOf? name = some i := by
  unfold lookUp Schema.lookUp
  split <;> simp_all [Except.mapError]

theorem isSummable_iff {type : ColumnType} :
    type.isSummable = true ↔ type = .int64 ∨ type = .float64 ∨ type = .null := by
  cases type <;> decide

theorem checkNumeric_eq_ok_iff {name : String} {i : Nat} (h : schema.indexOf? name = some i) :
    checkNumeric schema op i = .ok () ↔ schema.NumericNamed name := by
  obtain ⟨htype, hi⟩ := Schema.typeNamed_of_indexOf? h
  obtain ⟨field, hfield⟩ : ∃ field, schema.fields[i]? = some field :=
    ⟨_, List.getElem?_eq_getElem hi⟩
  rw [Schema.NumericNamed, htype, Schema.typeAt?, hfield, checkNumeric, hfield]
  by_cases hs : field.type.isSummable = true
  · simp [hs, isSummable_iff.1 hs]
  · simp [hs, ← isSummable_iff]

theorem numericColumn_eq_ok_iff {p : Parameter} {i : Nat} : numericColumn schema op r p = .ok i ↔
    ∃ name, r.text? p = some name ∧ schema.indexOf? name = some i ∧ schema.NumericNamed name := by
  unfold numericColumn
  simp only [bind_eq_ok_iff, required_eq_ok_iff, lookUp_eq_ok_iff]
  refine exists_congr fun name => and_congr_right fun _ => ?_
  constructor
  · rintro ⟨j, hj, _, hcheck, hi⟩
    obtain rfl := Except.ok.inj hi
    exact ⟨hj, (checkNumeric_eq_ok_iff hj).1 hcheck⟩
  · rintro ⟨hi, hnumeric⟩
    exact ⟨i, hi, (), (checkNumeric_eq_ok_iff hi).2 hnumeric, rfl⟩

theorem exists_indexOf?_iff {name : String} :
    (∃ i, schema.indexOf? name = some i) ↔ name ∈ schema.names := by
  rw [← Option.isSome_iff_exists, ← Option.ne_none_iff_isSome, ne_eq, Schema.indexOf?_eq_none, not_not]

theorem exists_numericColumn_iff {p : Parameter} : (∃ i, numericColumn schema op r p = .ok i) ↔
    ∃ name, r.text? p = some name ∧ name ∈ schema.names ∧ schema.NumericNamed name := by
  simp only [numericColumn_eq_ok_iff, ← exists_indexOf?_iff]
  tauto

/-! ### Plans -/

theorem ofOperation_groupBy_eq_ok_iff {plan : Plan} :
    ofOperation schema r limits .groupBy = .ok plan ↔
      ∃ keyName name key value, r.text? .groupBy = some keyName ∧ r.text? .aggregate = some name ∧
        schema.indexOf? keyName = some key ∧ schema.indexOf? name = some value ∧
        schema.NumericNamed name ∧ plan = .groupBy key value := by
  simp only [ofOperation, bind_eq_ok_iff, required_eq_ok_iff, lookUp_eq_ok_iff]
  constructor
  · rintro ⟨keyName, hkeyName, name, hname, key, hkey, value, hvalue, _, hcheck, hplan⟩
    exact ⟨keyName, name, key, value, hkeyName, hname, hkey, hvalue,
      (checkNumeric_eq_ok_iff hvalue).1 hcheck, (Except.ok.inj hplan).symm⟩
  · rintro ⟨keyName, name, key, value, hkeyName, hname, hkey, hvalue, hnumeric, rfl⟩
    exact ⟨keyName, hkeyName, name, hname, key, hkey, value, hvalue, (),
      (checkNumeric_eq_ok_iff hvalue).2 hnumeric, rfl⟩

theorem any_isNumeric_iff : (schema.fields.any fun f => f.type.isNumeric) = true ↔
    ∃ f ∈ schema.fields, f.type = .int64 ∨ f.type = .float64 := by
  rw [List.any_eq_true]
  refine exists_congr fun f => and_congr_right fun _ => ?_
  cases f.type <;> decide

/-- What a request has to bring is what validation asks for. -/
theorem exists_ofOperation_iff :
    (∃ plan, ofOperation schema r limits op = .ok plan) ↔ schema.Admits op r := by
  rw [Schema.admits_iff]
  cases op with
  | info => simp [ofOperation]
  | topN | bottomN | sum | mean =>
    refine (exists_bind_ok_iff.trans exists_numericColumn_iff).trans ?_
    cases h : r.text? .column <;> simp [h]
  | stats =>
    unfold ofOperation
    cases h : r.text? .column with
    | none =>
      by_cases hnumeric : (schema.fields.any fun f => f.type.isNumeric) = true <;>
        simp [h, ← any_isNumeric_iff, hnumeric]
    | some name =>
      refine (exists_bind_ok_iff.trans exists_numericColumn_iff).trans ?_
      simp [h]
  | groupBy =>
    simp only [ofOperation_groupBy_eq_ok_iff]
    cases hkey : r.text? .groupBy <;> cases hname : r.text? .aggregate <;>
      simp [hkey, hname, ← exists_indexOf?_iff]
    tauto
  | filter =>
    simp only [ofOperation, bind_eq_ok_iff, required_eq_ok_iff, mapError_eq_ok]
    cases h : r.text? .condition <;> simp [h]
  | unique =>
    simp only [ofOperation, bind_eq_ok_iff, required_eq_ok_iff, lookUp_eq_ok_iff]
    cases h : r.text? .column <;> simp [h, ← exists_indexOf?_iff]
  | duplicates =>
    refine (exists_bind_ok_iff.trans exists_mapM_eq_ok_iff).trans ?_
    simp [lookUp_eq_ok_iff, exists_indexOf?_iff]
  | correlate =>
    simp only [ofOperation, bind_eq_ok_iff, numericColumn_eq_ok_iff]
    cases hx : r.text? .column1 <;> cases hy : r.text? .column2 <;>
      simp [hx, hy, ← exists_indexOf?_iff]
    tauto

theorem ofRequest_eq_ok_iff {plan : Plan} : ofRequest schema r limits = .ok (op, plan) ↔
    op.name = r.operation ∧ ofOperation schema r limits op = .ok plan := by
  unfold ofRequest
  rw [← Operation.ofName?_eq_some_iff]
  constructor
  · split
    · exact nofun
    · rename_i op' hname
      intro h
      obtain ⟨plan', hplan, heq⟩ := map_eq_ok h
      cases heq
      exact ⟨hname, hplan⟩
  · rintro ⟨hname, hplan⟩
    rw [hname]
    exact congrArg (Except.map (op, ·)) hplan

/-! ### The operation of a plan -/

/-- The operations that a plan can be the plan of. -/
def operations : Plan → List Operation
  | .info => [.info]
  | .rank _ _ _ => [.topN, .bottomN]
  | .sum _ => [.sum]
  | .mean _ => [.mean]
  | .stats _ | .statsOfAll => [.stats]
  | .groupBy _ _ => [.groupBy]
  | .filter _ => [.filter]
  | .unique _ => [.unique]
  | .duplicates _ => [.duplicates]
  | .correlate _ _ => [.correlate]

theorem mem_operations_of_ofOperation {plan : Plan}
    (h : ofOperation schema r limits op = .ok plan) : op ∈ plan.operations := by
  cases op with
  | info =>
    obtain rfl := Except.ok.inj h
    decide
  | topN | bottomN | sum | mean | duplicates =>
    obtain ⟨_, -, h⟩ := bind_eq_ok h
    obtain rfl := Except.ok.inj h
    simp [operations]
  | stats =>
    unfold ofOperation at h
    dsimp only at h
    split at h
    · obtain ⟨_, -, h⟩ := bind_eq_ok h
      obtain rfl := Except.ok.inj h
      simp [operations]
    · split at h
      · obtain rfl := Except.ok.inj h
        decide
      · cases h
  | groupBy =>
    obtain ⟨_, _, _, _, -, -, -, -, -, rfl⟩ := ofOperation_groupBy_eq_ok_iff.1 h
    simp [operations]
  | filter | unique | correlate =>
    obtain ⟨_, -, h⟩ := bind_eq_ok h
    obtain ⟨_, -, h⟩ := bind_eq_ok h
    obtain rfl := Except.ok.inj h
    simp [operations]

/-! ### Positions -/

/-- The columns that a plan looks at. -/
def positions (t : Table) : Plan → List Nat
  | .info | .statsOfAll => List.range t.schema.width
  | .rank i _ _ | .sum i | .mean i | .stats i | .unique i => [i]
  | .groupBy key value => [key, value]
  | .filter p => p.positions
  | .duplicates columns => t.comparedColumns columns
  | .correlate x y => [x, y]

theorem lt_width_of_numericColumn {p : Parameter} {i : Nat}
    (h : numericColumn schema op r p = .ok i) : i < schema.width := by
  obtain ⟨name, -, hi, -⟩ := numericColumn_eq_ok_iff.1 h
  exact (Schema.typeNamed_of_indexOf? hi).2

/-- No plan looks beyond the last column. -/
theorem positions_lt_width {t : Table} {plan : Plan}
    (h : ofOperation t.schema r limits op = .ok plan) :
    ∀ i ∈ plan.positions t, i < t.schema.width := by
  cases op with
  | info =>
    obtain rfl := Except.ok.inj h
    exact fun i hi => List.mem_range.1 hi
  | topN | bottomN | sum | mean =>
    obtain ⟨i, hi, h⟩ := bind_eq_ok h
    obtain rfl := Except.ok.inj h
    simpa [positions] using lt_width_of_numericColumn hi
  | stats =>
    unfold ofOperation at h
    dsimp only at h
    split at h
    · obtain ⟨i, hi, h⟩ := bind_eq_ok h
      obtain rfl := Except.ok.inj h
      simpa [positions] using lt_width_of_numericColumn hi
    · split at h
      · obtain rfl := Except.ok.inj h
        exact fun i hi => List.mem_range.1 hi
      · cases h
  | groupBy =>
    obtain ⟨_, _, key, value, -, -, hkey, hvalue, -, rfl⟩ := ofOperation_groupBy_eq_ok_iff.1 h
    simpa [positions] using
      ⟨(Schema.typeNamed_of_indexOf? hkey).2, (Schema.typeNamed_of_indexOf? hvalue).2⟩
  | filter =>
    obtain ⟨text, -, h⟩ := bind_eq_ok h
    obtain ⟨p, hp, h⟩ := bind_eq_ok h
    obtain rfl := Except.ok.inj h
    have hcompile := mapError_eq_ok.1 hp
    unfold Predicate.compile at hcompile
    split at hcompile
    · exact (Condition.test_of_bind hcompile).1
    · cases hcompile
  | unique =>
    obtain ⟨name, -, h⟩ := bind_eq_ok h
    obtain ⟨i, hi, h⟩ := bind_eq_ok h
    obtain rfl := Except.ok.inj h
    simpa [positions] using (Schema.typeNamed_of_indexOf? (lookUp_eq_ok_iff.1 hi)).2
  | duplicates =>
    obtain ⟨columns, hcolumns, h⟩ := bind_eq_ok h
    obtain rfl := Except.ok.inj h
    intro i hi
    change i ∈ t.comparedColumns columns at hi
    unfold Table.comparedColumns at hi
    split at hi
    · exact List.mem_range.1 hi
    · obtain ⟨name, -, hname⟩ := exists_of_mem_mapM hcolumns hi
      exact (Schema.typeNamed_of_indexOf? (lookUp_eq_ok_iff.1 hname)).2
  | correlate =>
    obtain ⟨x, hx, h⟩ := bind_eq_ok h
    obtain ⟨y, hy, h⟩ := bind_eq_ok h
    obtain rfl := Except.ok.inj h
    simpa [positions] using ⟨lt_width_of_numericColumn hx, lt_width_of_numericColumn hy⟩

end Plan

/-! ### Executing plans -/

namespace Table

variable {t : Table} {op : Operation} {r : Request} {limits : Limits} {plan : Plan}

theorem typeAt_of_le {i : Nat} (h : t.schema.width ≤ i) : t.typeAt i = .null := by
  have hnone : t.schema.fields[i]? = none := List.getElem?_eq_none h
  simp [typeAt, Schema.typeAt?, hnone]

theorem sumsFit_of_column {i : Nat} (h : ∀ j cells, t.Adds r j cells op ↔ j = i ∧ cells = t.column j) :
    t.SumsFit op r ↔ t.SumFits i := by
  simp [SumsFit, SumFits, h]

/-- Without a column, the sums are those of all columns. -/
theorem WellFormed.exists_statsOfAll_iff (ht : t.WellFormed) (hname : r.text? .column = none) :
    (∃ payload, t.execute limits .statsOfAll = .ok payload) ↔ t.SumsFit .stats r := by
  refine exists_map_eq_ok_iff.trans (ht.exists_describeAll_iff.trans ?_)
  simp only [SumsFit, Adds, hname]
  constructor
  · -- Beyond the last column there are no integers.
    rintro hsums i cells ⟨-, rfl⟩ htype
    refine hsums i (Nat.lt_of_not_le fun hi => ?_) htype
    exact nomatch htype.symm.trans (typeAt_of_le hi)
  · exact fun hsums i _ => hsums i _ ⟨nofun, rfl⟩

/-- The sums are those of the values of each key. -/
theorem WellFormed.exists_groupBy_iff (ht : t.WellFormed) {keyName name : String} {key value : Nat}
    (hkeyName : r.text? .groupBy = some keyName) (hname : r.text? .aggregate = some name)
    (hkey : t.schema.indexOf? keyName = some key) (hvalue : t.schema.indexOf? name = some value) :
    (∃ payload, t.execute limits (.groupBy key value) = .ok payload) ↔ t.SumsFit .groupBy r := by
  refine exists_map_eq_ok_iff.trans (ht.exists_groupSum_iff.trans ?_)
  simp only [Total.exists_finish_iff]
  constructor
  · -- The request names the same columns, so the cells are those of one of the keys.
    rintro hsums i cells ⟨_, _, key', k, hkeyName', hname', hkey', hvalue', rfl⟩ htype
    grind
  · intro hsums k htype
    exact hsums value _ ⟨keyName, name, key, k, hkeyName, hname, hkey, hvalue, rfl⟩ htype

/-- A plan fails only when a sum of integers is out of range. -/
theorem WellFormed.exists_execute_iff (ht : t.WellFormed)
    (h : Plan.ofOperation t.schema r limits op = .ok plan) :
    (∃ payload, t.execute limits plan = .ok payload) ↔ t.SumsFit op r := by
  cases op with
  | sum | mean =>
    obtain ⟨i, hi, h⟩ := bind_eq_ok h
    obtain rfl := Except.ok.inj h
    obtain ⟨name, hname, hi, -⟩ := Plan.numericColumn_eq_ok_iff.1 hi
    refine exists_map_eq_ok_iff.trans (Iff.trans ?_ (sumsFit_of_column (i := i) ?_).symm)
    · first | exact exists_sum_iff | exact ht.exists_mean_iff
    · simp [Adds, hname, hi, eq_comm]
  | stats =>
    cases hname : r.text? .column with
    | some name =>
      simp only [Plan.ofOperation, hname, Option.isSome_some, if_true] at h
      obtain ⟨i, hi, h⟩ := bind_eq_ok h
      obtain rfl := Except.ok.inj h
      obtain ⟨name', hname', hi, -⟩ := Plan.numericColumn_eq_ok_iff.1 hi
      obtain rfl := Option.some.inj (hname.symm.trans hname')
      refine exists_map_eq_ok_iff.trans (ht.exists_describe_iff.trans (sumsFit_of_column ?_).symm)
      simp [Adds, hname, hi, eq_comm]
    | none =>
      obtain rfl : plan = .statsOfAll := by
        simp only [Plan.ofOperation, hname, Option.isSome_none] at h
        grind
      exact ht.exists_statsOfAll_iff hname
  | groupBy =>
    obtain ⟨keyName, name, key, value, hkeyName, hname, hkey, hvalue, -, rfl⟩ :=
      Plan.ofOperation_groupBy_eq_ok_iff.1 h
    exact ht.exists_groupBy_iff hkeyName hname hkey hvalue
  | info =>
    obtain rfl := Except.ok.inj h
    exact iff_of_true ⟨_, rfl⟩ nofun
  | topN | bottomN | duplicates =>
    obtain ⟨_, -, h⟩ := bind_eq_ok h
    obtain rfl := Except.ok.inj h
    exact iff_of_true ⟨_, rfl⟩ nofun
  | filter | unique | correlate =>
    obtain ⟨_, -, h⟩ := bind_eq_ok h
    obtain ⟨_, -, h⟩ := bind_eq_ok h
    obtain rfl := Except.ok.inj h
    exact iff_of_true ⟨_, rfl⟩ nofun

theorem complete_ofNumbers (mean : Option Binary64) (xs : List Binary64) :
    (Statistics.ofNumbers mean xs).Complete := by
  intro hcount
  have hsorted : sortNumbers xs ≠ [] := by
    rintro hnil
    have hlength := (sortBy_perm Binary64.totalOrder xs).length_eq
    exact hcount (hlength.symm.trans (congrArg List.length hnil))
  exact ⟨List.isSome_head?.2 hsorted, percentile_isSome hsorted (.inl rfl),
    percentile_isSome hsorted (.inr (.inl rfl)), percentile_isSome hsorted (.inr (.inr rfl)),
    by simpa [Statistics.ofNumbers, Quartiles.ofSorted] using hsorted⟩

theorem complete_of_describe {i : Nat} {s : Statistics} (h : t.describe i = .ok s) : s.Complete := by
  obtain ⟨m, -, rfl⟩ := map_eq_ok h
  exact complete_ofNumbers m _

theorem complete_of_execute {payload : Payload} (h : t.execute limits plan = .ok payload) :
    payload.Complete := by
  cases plan with
  | stats i =>
    obtain ⟨s, hs, rfl⟩ := map_eq_ok h
    exact complete_of_describe hs
  | statsOfAll =>
    obtain ⟨columns, hcolumns, rfl⟩ := map_eq_ok h
    intro p hp
    obtain ⟨field, -, hfield⟩ := exists_of_mem_mapM hcolumns hp
    obtain ⟨s, hs, rfl⟩ := map_eq_ok hfield
    exact complete_of_describe hs
  | sum | mean | groupBy =>
    obtain ⟨_, -, rfl⟩ := map_eq_ok h
    trivial
  | info | rank | filter | unique | duplicates | correlate =>
    obtain rfl := Except.ok.inj h
    trivial

theorem analyze_isSuccess_iff {source : String} :
    (∃ report, t.analyze source r limits = .success report) ↔
      ∃ op plan, Plan.ofRequest t.schema r limits = .ok (op, plan) ∧
        ∃ payload, t.execute limits plan = .ok payload := by
  unfold analyze conclude
  cases hplan : Plan.ofRequest t.schema r limits with
  | error e => simp [Ending.answer]
  | ok found =>
    obtain ⟨op, plan⟩ := found
    cases hpayload : t.execute limits plan with
    | error e => simp [Ending.answer, hpayload]
    | ok payload => simp [Ending.answer, hpayload]

/-- Validation catches everything but sums out of range: a request on a well-formed table has a result
exactly when its operation is one of those there are, brings what the operation needs, and has sums in
range. Otherwise it gets an error. A plan looks at columns of the table only, and what it describes
lacks no quartile. -/
theorem WellFormed.analyze_success_iff (ht : t.WellFormed) (source : String) (r : Request)
    (limits : Limits) :
    let answered := ∃ op : Operation, op.name = r.operation ∧ t.schema.Admits op r ∧ t.SumsFit op r
    ((∃ report, t.analyze source r limits = .success report) ↔ answered) ∧
      (¬answered → ∃ error, t.analyze source r limits = .failure error) ∧
      ∀ op plan, Plan.ofRequest t.schema r limits = .ok (op, plan) →
        (∀ i ∈ plan.positions t, i < t.schema.width) ∧
          ∀ payload, t.execute limits plan = .ok payload → payload.Complete := by
  intro answered
  have hsuccess : (∃ report, t.analyze source r limits = .success report) ↔ answered := by
    rw [analyze_isSuccess_iff]
    constructor
    · rintro ⟨op, plan, hplan, hpayload⟩
      obtain ⟨hop, hplan⟩ := Plan.ofRequest_eq_ok_iff.1 hplan
      exact ⟨op, hop, Plan.exists_ofOperation_iff.1 ⟨plan, hplan⟩,
        (ht.exists_execute_iff hplan).1 hpayload⟩
    · rintro ⟨op, hop, hadmits, hfits⟩
      obtain ⟨plan, hplan⟩ := Plan.exists_ofOperation_iff.2 hadmits
      exact ⟨op, plan, Plan.ofRequest_eq_ok_iff.2 ⟨hop, hplan⟩, (ht.exists_execute_iff hplan).2 hfits⟩
  refine ⟨hsuccess, fun hnot => ?_, fun op plan hplan => ⟨?_, fun _ => complete_of_execute⟩⟩
  · cases hanswer : t.analyze source r limits with
    | success report => exact absurd (hsuccess.1 ⟨report, hanswer⟩) hnot
    | failure error => exact ⟨error, rfl⟩
  · exact Plan.positions_lt_width (Plan.ofRequest_eq_ok_iff.1 hplan).2

/-- A column with a sum out of range can still be ranked. -/
theorem analyze_out_of_range :
    let t : Table := ⟨⟨[⟨"n", .int64⟩]⟩, [[.int 9223372036854775807], [.int 1]]⟩
    (∃ error, t.analyze "n.csv" { operation := "sum", column := some "n" } {} = .failure error) ∧
      ∃ report, t.analyze "n.csv" { operation := "top_n", column := some "n" } {} =
        .success report := by
  intro t
  have ht : t.WellFormed := by decide
  refine ⟨(ht.analyze_success_iff _ _ _).2.1 ?_, (ht.analyze_success_iff _ _ _).1.2 ?_⟩
  · rintro ⟨op, hop, -, hfits⟩
    obtain rfl : op = .sum := by cases op <;> first | rfl | exact absurd hop (by decide)
    exact absurd (hfits 0 _ ⟨"n", rfl, rfl, rfl⟩ rfl) (by decide)
  · have hcolumn : Request.text? { operation := "top_n", column := some "n" } .column = some "n" := rfl
    refine ⟨.topN, rfl, ⟨?_, ?_, nofun, ?_, nofun, nofun⟩, nofun⟩
    all_goals simp [hcolumn, Schema.NumericNamed, t]
    all_goals decide

end Table

end TableReport
