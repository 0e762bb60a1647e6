import TableReport.Proofs.Analysis.Findings
import TableReport.Proofs.Analysis.Validation
import TableReport.Proofs.Condition.Arrangement
/-!
# What a result depends on

An operation on named columns finds the same in every table that has these columns, wherever they stand
in it, and whatever the parameters are that it does not use. Plans for two such tables correspond: they
are of one kind, and look at columns of the same name, type and cells.
-/
namespace TableReport

/-! ### Requests -/

namespace Operation

/-- The parameters that an operation uses. -/
def parameters : Operation → List Parameter
  | .info => []
  | .topN | .bottomN => [.column, .n]
  | .sum | .mean | .stats | .unique => [.column]
  | .groupBy => [.groupBy, .aggregate]
  | .filter => [.condition]
  | .duplicates => [.columns]
  | .correlate => [.column1, .column2]

theorem mem_parameters_of_names {op : Operation} {p : Parameter} (h : p ∈ op.columnParameters) :
    p ∈ op.parameters := by
  cases op <;> simp_all [parameters]

/-- The operations whose results show rows of the table. -/
def showsRows : Operation → Bool
  | .info | .topN | .bottomN | .filter | .duplicates => true
  | .sum | .mean | .stats | .groupBy | .unique | .correlate => false

end Operation

namespace Request

/-- Two requests give a parameter alike. -/
def SameAt (r r' : Request) : Parameter → Prop
  | .column => r.column = r'.column
  | .column1 => r.column1 = r'.column1
  | .column2 => r.column2 = r'.column2
  | .columns => r.columns = r'.columns
  | .n => r.n = r'.n
  | .groupBy => r.groupBy = r'.groupBy
  | .aggregate => r.aggregate = r'.aggregate
  | .condition => r.condition = r'.condition

/-- The columns that the parameters of an operation name. -/
def namedColumns (r : Request) : Operation → List String
  | .filter => match (r.text? .condition).map Condition.parse with
    | some (.ok e) => e.columns
    | _ => []
  | .duplicates => r.columnSubset
  | op => op.columnParameters.filterMap r.text?

/-- The operation is left to look at named columns only. -/
def IsFocused (r : Request) : Operation → Prop
  | .info => False
  | .stats => r.text? .column ≠ none
  | .duplicates => r.columnSubset ≠ []
  | _ => True

variable {r r' : Request}

theorem SameAt.symm {p : Parameter} (h : r.SameAt r' p) : r'.SameAt r p := by
  cases p <;> exact Eq.symm h

theorem SameAt.text?_eq {p : Parameter} (h : r.SameAt r' p) : r.text? p = r'.text? p := by
  cases p with
  | n => rfl
  | column | column1 | column2 | columns | groupBy | aggregate | condition =>
    exact congrArg present? h

theorem mem_namedColumns {op : Operation} {p : Parameter} {name : String}
    (hp : p ∈ op.columnParameters) (h : r.text? p = some name) : name ∈ r.namedColumns op := by
  have hmem : name ∈ op.columnParameters.filterMap r.text? := List.mem_filterMap.2 ⟨p, hp, h⟩
  cases op with
  | filter | duplicates => cases hp
  | info | topN | bottomN | sum | mean | stats | groupBy | unique | correlate => exact hmem

theorem SameAt.columnSubset_eq (h : r.SameAt r' .columns) : r.columnSubset = r'.columnSubset := by
  have hcolumns : r.columns = r'.columns := h
  rw [columnSubset, hcolumns, columnSubset]

end Request

/-! ### Columns of two tables -/

namespace Table

/-- Both tables have a column of a name, with the same type and the same cells. -/
def SharesColumn (t t' : Table) (name : String) : Prop :=
  ∃ i j, t.schema.indexOf? name = some i ∧ t'.schema.indexOf? name = some j ∧
    t.typeAt i = t'.typeAt j ∧ t.column i = t'.column j

/-- A column of one table and a column of another have the same name, type and cells. -/
structure SameColumn (t t' : Table) (i j : Nat) : Prop where
  name : t.nameAt i = t'.nameAt j
  type : t.typeAt i = t'.typeAt j
  cells : t.column i = t'.column j

variable {t t' : Table} {name : String} {i j : Nat}

theorem SharesColumn.symm (h : t.SharesColumn t' name) : t'.SharesColumn t name := by
  obtain ⟨i, j, hi, hj, htype, hcells⟩ := h
  exact ⟨j, i, hj, hi, htype.symm, hcells.symm⟩

theorem typeNamed_eq (h : t.schema.indexOf? name = some i) :
    t.schema.typeNamed name = some (t.typeAt i) := by
  obtain ⟨htype, hi⟩ := Schema.typeNamed_of_indexOf? h
  have hfield := List.getElem?_eq_getElem hi
  rw [htype, typeAt, Schema.typeAt?, hfield]
  rfl

theorem SharesColumn.exists_sameColumn (h : t.SharesColumn t' name)
    (hi : t.schema.indexOf? name = some i) :
    ∃ j, t'.schema.indexOf? name = some j ∧ SameColumn t t' i j := by
  obtain ⟨i', j, hi', hj, htype, hcells⟩ := h
  obtain rfl : i = i' := Option.some.inj (hi.symm.trans hi')
  refine ⟨j, hj, ?_, htype, hcells⟩
  rw [nameAt_of_indexOf? hi, nameAt_of_indexOf? hj]

theorem SharesColumn.typeNamed_eq (h : t.SharesColumn t' name) :
    t'.schema.typeNamed name = t.schema.typeNamed name := by
  obtain ⟨i, j, hi, hj, htype, -⟩ := h
  rw [Table.typeNamed_eq hi, Table.typeNamed_eq hj, htype]

theorem SharesColumn.numericNamed (h : t.SharesColumn t' name)
    (hnumeric : t.schema.NumericNamed name) : t'.schema.NumericNamed name := by
  unfold Schema.NumericNamed at hnumeric ⊢
  rw [h.typeNamed_eq]
  exact hnumeric

theorem agreeOn_of_sharesColumn {names : List String} (hsize : t.size = t'.size)
    (h : ∀ name ∈ names, t.SharesColumn t' name) : t.AgreeOn names t' := by
  constructor
  · intro name hname
    exact (h name hname).typeNamed_eq
  · rw [List.forall₂_iff_get]
    refine ⟨hsize, ?_⟩
    intro k hk hk' name hname
    obtain ⟨i, j, hi, hj, -, hcells⟩ := h name hname
    rw [Schema.cellUnder_of_findIdx? hi, Schema.cellUnder_of_findIdx? hj]
    have hcell := congrArg (·[k]?) hcells
    simpa [column, hk, hk'] using hcell.symm

/-! ### The same columns give the same findings -/

namespace SameColumn

variable {limits : Limits}

theorem cell (h : SameColumn t t' i j) (k : Nat) : (t.row k).cell i = (t'.row k).cell j := by
  rw [cell_row, cell_row, h.cells]

theorem total_eq (h : SameColumn t t' i j) : t.total i = t'.total j := by
  rw [total, h.type, h.cells, h.name, total]

theorem sum_eq (h : SameColumn t t' i j) : t.sum i = t'.sum j := by
  rw [sum, h.total_eq, sum]

theorem mean_eq (h : SameColumn t t' i j) : t.mean i = t'.mean j := by
  have hcount : t.count i = t'.count j := by
    rw [count, present, h.cells, count, present]
  rw [mean, hcount, h.sum_eq, mean]

theorem describe_eq (h : SameColumn t t' i j) : t.describe i = t'.describe j := by
  rw [describe, h.mean_eq, numbers, h.cells, describe, numbers]

theorem rankedNumbers_eq (h : SameColumn t t' i j) (hsize : t.size = t'.size) (n : Nat)
    (direction : Direction) : t.rankedNumbers i n direction = t'.rankedNumbers j n direction := by
  have hwith : (t.numbersWhere fun row => !(row.cell i).isMissing) =
      t'.numbersWhere fun row => !(row.cell j).isMissing := by
    apply numbersWhere_congr hsize
    intro k _
    rw [h.cell k]
  simp only [rankedNumbers, hwith, h.cell]

theorem groupSum_eq {key key' : Nat} (hkey : SameColumn t t' key key') (h : SameColumn t t' i j)
    (hsize : t.size = t'.size) : t.groupSum key i = t'.groupSum key' j := by
  have hentries : Group.entries t key i = Group.entries t' key' j := by
    apply filterMap_rows_congr hsize
    intro k _
    rw [hkey.cell k, h.cell k]
  rw [groupSum, hentries, h.type, h.name, groupSum]

theorem correlate_eq {x x' : Nat} (hx : SameColumn t t' x x') (h : SameColumn t t' i j)
    (hsize : t.size = t'.size) : t.correlate x i = t'.correlate x' j := by
  have hpairs : t.pairs x i = t'.pairs x' j := by
    apply filterMap_rows_congr hsize
    intro k _
    rw [hx.cell k, h.cell k]
  rw [correlate, hpairs, correlate]

theorem keys_eq {columns columns' : List Nat} (h : List.Forall₂ (SameColumn t t') columns columns')
    (k : Nat) : (t.row k).keys columns = (t'.row k).keys columns' := by
  induction h with
  | nil => rfl
  | cons hcolumn h ih => exact congrArg₂ List.cons (congrArg Cell.key (hcolumn.cell k)) ih

theorem repeatedNumbers_congr {columns columns' : List Nat}
    (h : List.Forall₂ (SameColumn t t') (t.comparedColumns columns) (t'.comparedColumns columns'))
    (hsize : t.size = t'.size) : t.repeatedNumbers columns = t'.repeatedNumbers columns' := by
  have hkeys : t.rows.map (Row.keys (t.comparedColumns columns)) =
      t'.rows.map (Row.keys (t'.comparedColumns columns')) := by
    apply map_rows_congr hsize
    intro k _
    exact keys_eq h k
  simp only [repeatedNumbers, hkeys]
  apply numbersWhere_congr hsize
  intro k _
  rw [keys_eq h k]

theorem repeatedNumbers_eq {columns columns' : List Nat}
    (h : List.Forall₂ (SameColumn t t') columns columns') (hne : columns ≠ [])
    (hsize : t.size = t'.size) : t.repeatedNumbers columns = t'.repeatedNumbers columns' := by
  have hne' : columns' ≠ [] := by
    rintro rfl
    exact hne (List.forall₂_nil_right_iff.1 h)
  apply repeatedNumbers_congr _ hsize
  simpa only [comparedColumns, List.isEmpty_iff, hne, hne', if_false] using h

end SameColumn

end Table

/-- Plans of one kind for two tables, over the same columns. -/
inductive Plan.Corresponds (t t' : Table) : Plan → Plan → Prop where
  | rank {i j : Nat} (n : Nat) (direction : Direction) (h : t.SameColumn t' i j) :
      Corresponds t t' (.rank i n direction) (.rank j n direction)
  | sum {i j : Nat} (h : t.SameColumn t' i j) : Corresponds t t' (.sum i) (.sum j)
  | mean {i j : Nat} (h : t.SameColumn t' i j) : Corresponds t t' (.mean i) (.mean j)
  | stats {i j : Nat} (h : t.SameColumn t' i j) : Corresponds t t' (.stats i) (.stats j)
  | groupBy {key key' value value' : Nat} (hkey : t.SameColumn t' key key')
      (hvalue : t.SameColumn t' value value') :
      Corresponds t t' (.groupBy key value) (.groupBy key' value')
  | filter {p p' : Predicate} (h : p.mask t = p'.mask t') : Corresponds t t' (.filter p) (.filter p')
  | unique {i j : Nat} (h : t.SameColumn t' i j) : Corresponds t t' (.unique i) (.unique j)
  | duplicates {columns columns' : List Nat} (h : List.Forall₂ (t.SameColumn t') columns columns')
      (hne : columns ≠ []) : Corresponds t t' (.duplicates columns) (.duplicates columns')
  | correlate {x x' y y' : Nat} (hx : t.SameColumn t' x x') (hy : t.SameColumn t' y y') :
      Corresponds t t' (.correlate x y) (.correlate x' y')

namespace Plan

variable {t t' : Table} {plan plan' : Plan} {limits : Limits}

/-- A result that shows no rows needs no column names. -/
theorem map_result_congr {β : Type} (x : Except ColumnError β) {f : β → Payload}
    (hf : ∀ b, (f b).toJson t.schema = (f b).toJson t'.schema) :
    (x.map f).map (fun payload => Findings.result (payload.toJson t.schema)) =
      (x.map f).map fun payload => Findings.result (payload.toJson t'.schema) := by
  cases x with
  | error e => rfl
  | ok b => exact congrArg (fun json => Except.ok (Findings.result json)) (hf b)

/-- Corresponding plans find the same. -/
theorem Corresponds.findings_eq (h : Corresponds t t' plan plan') (hsize : t.size = t'.size) :
    t.findings limits plan = t'.findings limits plan' := by
  cases h with
  | rank n direction h => simp only [Table.findings, h.rankedNumbers_eq hsize]
  | sum h =>
    simp only [Table.findings, Table.execute, h.sum_eq]
    exact map_result_congr _ fun _ => rfl
  | mean h =>
    simp only [Table.findings, Table.execute, h.mean_eq]
    exact map_result_congr _ fun _ => rfl
  | stats h =>
    simp only [Table.findings, Table.execute, h.describe_eq]
    exact map_result_congr _ fun _ => rfl
  | groupBy hkey hvalue =>
    simp only [Table.findings, Table.execute, hkey.groupSum_eq hvalue hsize]
    exact map_result_congr _ fun _ => rfl
  | @filter p p' h =>
    have hnumbers : t.numbersWhere (p.test ·) = t'.numbersWhere (p'.test ·) := by
      apply Table.numbersWhere_congr hsize
      intro k hk
      have hmask := congrArg (·[k]?) h
      simp only [Predicate.mask, t.getElem?_map_rows _ hk,
        t'.getElem?_map_rows _ (hsize ▸ hk)] at hmask
      exact Option.some.inj hmask
    simp only [Table.findings, hnumbers, hsize]
  | unique h =>
    simp only [Table.findings, Table.execute, Table.unique, h.cells]
    rfl
  | duplicates h hne => simp only [Table.findings, Table.SameColumn.repeatedNumbers_eq h hne hsize]
  | correlate hx hy =>
    simp only [Table.findings, Table.execute, hx.correlate_eq hy hsize]
    rfl

/-! ### Requests have corresponding plans -/

section Requests

variable {r r' : Request} {op : Operation} {p : Parameter}

/-- Two requests give a parameter alike, and the column that it names, if any, is one of both tables. -/
structure NamesShared (t t' : Table) (r r' : Request) (p : Parameter) : Prop where
  same : r.SameAt r' p
  shared : ∀ name, r.text? p = some name → t.SharesColumn t' name

theorem NamesShared.exists_column (h : NamesShared t t' r r' p) {name : String} {i : Nat}
    (hname : r.text? p = some name) (hi : t.schema.indexOf? name = some i) :
    r'.text? p = some name ∧ ∃ j, t'.schema.indexOf? name = some j ∧ t.SameColumn t' i j := by
  constructor
  · rw [← h.same.text?_eq]
    exact hname
  · exact (h.shared name hname).exists_sameColumn hi

theorem NamesShared.exists_numericColumn (h : NamesShared t t' r r' p) {i : Nat}
    (hi : numericColumn t.schema op r p = .ok i) :
    ∃ j, numericColumn t'.schema op r' p = .ok j ∧ t.SameColumn t' i j := by
  obtain ⟨name, hname, hi, hnumeric⟩ := numericColumn_eq_ok_iff.1 hi
  obtain ⟨hname', j, hj, hsame⟩ := h.exists_column hname hi
  refine ⟨j, ?_, hsame⟩
  rw [numericColumn_eq_ok_iff]
  exact ⟨name, hname', hj, (h.shared name hname).numericNamed hnumeric⟩

/-- An operation on one numeric column. -/
theorem exists_corresponds_column (hp : NamesShared t t' r r' p) {make make' : Nat → Plan}
    (hmake : ∀ i j, t.SameColumn t' i j → Corresponds t t' (make i) (make' j))
    (h : (numericColumn t.schema op r p >>= fun i => .ok (make i)) = .ok plan) :
    ∃ plan', (numericColumn t'.schema op r' p >>= fun i => .ok (make' i)) = .ok plan' ∧
      Corresponds t t' plan plan' := by
  obtain ⟨i, hi, h⟩ := bind_eq_ok h
  obtain rfl := Except.ok.inj h
  obtain ⟨j, hj, hsame⟩ := hp.exists_numericColumn hi
  exact ⟨make' j, bind_eq_ok_iff.2 ⟨j, hj, rfl⟩, hmake i j hsame⟩

theorem exists_corresponds_groupBy (hkeys : NamesShared t t' r r' .groupBy)
    (hvalues : NamesShared t t' r r' .aggregate)
    (h : ofOperation t.schema r limits .groupBy = .ok plan) :
    ∃ plan', ofOperation t'.schema r' limits .groupBy = .ok plan' ∧ Corresponds t t' plan plan' := by
  obtain ⟨keyName, name, key, value, hkeyName, hname, hkey, hvalue, hnumeric, rfl⟩ :=
    ofOperation_groupBy_eq_ok_iff.1 h
  obtain ⟨hkeyName', key', hkey', hkeySame⟩ := hkeys.exists_column hkeyName hkey
  obtain ⟨hname', value', hvalue', hsame⟩ := hvalues.exists_column hname hvalue
  refine ⟨.groupBy key' value', ?_, .groupBy hkeySame hsame⟩
  rw [ofOperation_groupBy_eq_ok_iff]
  exact ⟨keyName, name, key', value', hkeyName', hname', hkey', hvalue',
    (hvalues.shared name hname).numericNamed hnumeric, rfl⟩

theorem exists_corresponds_unique (hp : NamesShared t t' r r' .column)
    (h : ofOperation t.schema r limits .unique = .ok plan) :
    ∃ plan', ofOperation t'.schema r' limits .unique = .ok plan' ∧ Corresponds t t' plan plan' := by
  simp only [ofOperation, bind_eq_ok_iff, required_eq_ok_iff, lookUp_eq_ok_iff] at h ⊢
  obtain ⟨name, hname, i, hi, h⟩ := h
  obtain rfl := Except.ok.inj h
  obtain ⟨hname', j, hj, hsame⟩ := hp.exists_column hname hi
  exact ⟨.unique j, ⟨name, hname', j, hj, rfl⟩, .unique hsame⟩

theorem exists_corresponds_correlate (hfirst : NamesShared t t' r r' .column1)
    (hsecond : NamesShared t t' r r' .column2)
    (h : ofOperation t.schema r limits .correlate = .ok plan) :
    ∃ plan', ofOperation t'.schema r' limits .correlate = .ok plan' ∧
      Corresponds t t' plan plan' := by
  simp only [ofOperation, bind_eq_ok_iff] at h ⊢
  obtain ⟨x, hx, y, hy, h⟩ := h
  obtain rfl := Except.ok.inj h
  obtain ⟨x', hx', hxSame⟩ := hfirst.exists_numericColumn hx
  obtain ⟨y', hy', hySame⟩ := hsecond.exists_numericColumn hy
  exact ⟨.correlate x' y', ⟨x', hx', y', hy', rfl⟩, .correlate hxSame hySame⟩

theorem exists_lookUp_all {role : ColumnRole} {names : List String} {columns : List Nat}
    (hnames : ∀ name ∈ names, t.SharesColumn t' name)
    (h : names.mapM (lookUp t.schema role) = .ok columns) :
    ∃ columns', names.mapM (lookUp t'.schema role) = .ok columns' ∧
      List.Forall₂ (t.SameColumn t') columns columns' := by
  simp only [mapM_eq_ok_iff, lookUp_eq_ok_iff] at h ⊢
  induction h with
  | nil => exact ⟨[], .nil, .nil⟩
  | @cons name i names columns hi h ih =>
    obtain ⟨hname, hrest⟩ := List.forall_mem_cons.1 hnames
    obtain ⟨j, hj, hsame⟩ := hname.exists_sameColumn hi
    obtain ⟨columns', hcolumns', hsames⟩ := ih hrest
    exact ⟨j :: columns', .cons hj hcolumns', .cons hsame hsames⟩

theorem exists_compile {text : String} {p : Predicate} (hsize : t.size = t'.size)
    (hnames : ∀ e, Condition.parse text = .ok e → ∀ name ∈ e.columns, t.SharesColumn t' name)
    (h : Predicate.compile t.schema text = .ok p) :
    ∃ p', Predicate.compile t'.schema text = .ok p' ∧ p.mask t = p'.mask t' := by
  unfold Predicate.compile at h ⊢
  cases hparse : Condition.parse text with
  | error problem =>
    rw [hparse] at h
    cases h
  | ok e =>
    rw [hparse] at h
    have hmask := Condition.mask?_congr (Table.agreeOn_of_sharesColumn hsize (hnames e hparse))
    have hbind : e.bind t.schema = .ok p := h
    simp only [Condition.mask?, hbind] at hmask
    cases hbind' : e.bind t'.schema with
    | error err =>
      rw [hbind'] at hmask
      cases hmask
    | ok p' =>
      rw [hbind'] at hmask
      exact ⟨p', hbind', (Option.some.inj hmask).symm⟩

theorem exists_corresponds_filter (hsize : t.size = t'.size) (hp : r.SameAt r' .condition)
    (hcolumns : ∀ name ∈ r.namedColumns .filter, t.SharesColumn t' name)
    (h : ofOperation t.schema r limits .filter = .ok plan) :
    ∃ plan', ofOperation t'.schema r' limits .filter = .ok plan' ∧ Corresponds t t' plan plan' := by
  simp only [ofOperation, bind_eq_ok_iff, required_eq_ok_iff, mapError_eq_ok] at h ⊢
  obtain ⟨text, htext, p, hcompile, h⟩ := h
  obtain rfl := Except.ok.inj h
  have hnamed : ∀ e, Condition.parse text = .ok e → ∀ name ∈ e.columns, t.SharesColumn t' name := by
    intro e he
    simpa [Request.namedColumns, htext, he] using hcolumns
  obtain ⟨p', hcompile', hmask⟩ := exists_compile hsize hnamed hcompile
  rw [hp.text?_eq] at htext
  exact ⟨.filter p', ⟨text, htext, p', hcompile', rfl⟩, .filter hmask⟩

theorem exists_corresponds_duplicates (hp : r.SameAt r' .columns) (hsubset : r.columnSubset ≠ [])
    (hcolumns : ∀ name ∈ r.columnSubset, t.SharesColumn t' name)
    (h : ofOperation t.schema r limits .duplicates = .ok plan) :
    ∃ plan', ofOperation t'.schema r' limits .duplicates = .ok plan' ∧
      Corresponds t t' plan plan' := by
  obtain ⟨columns, hfound, h⟩ := bind_eq_ok h
  obtain rfl := Except.ok.inj h
  obtain ⟨columns', hfound', hsames⟩ := exists_lookUp_all hcolumns hfound
  have hne : columns ≠ [] := by
    rintro rfl
    exact hsubset (List.forall₂_nil_right_iff.1 (mapM_eq_ok_iff.1 hfound))
  rw [hp.columnSubset_eq] at hfound'
  exact ⟨_, bind_eq_ok_iff.2 ⟨columns', hfound', rfl⟩, .duplicates hsames hne⟩

/-- Where the named columns are the same, a request that agrees on what is used has a plan that looks at
the same columns. -/
theorem exists_corresponds (hsize : t.size = t'.size) (hfocused : r.IsFocused op)
    (hparameters : ∀ p ∈ op.parameters, r.SameAt r' p)
    (hcolumns : ∀ name ∈ r.namedColumns op, t.SharesColumn t' name)
    (h : ofOperation t.schema r limits op = .ok plan) :
    ∃ plan', ofOperation t'.schema r' limits op = .ok plan' ∧ Corresponds t t' plan plan' := by
  have hshared : ∀ p ∈ op.columnParameters, NamesShared t t' r r' p := by
    intro p hp
    refine ⟨hparameters p (Operation.mem_parameters_of_names hp), ?_⟩
    intro name hname
    exact hcolumns name (Request.mem_namedColumns hp hname)
  cases op with
  | info => exact hfocused.elim
  | topN | bottomN =>
    have hn : r.n = r'.n := hparameters .n (by decide)
    apply exists_corresponds_column (hshared .column (by simp)) _ h
    intro i j hsame
    rw [hn]
    exact .rank _ _ hsame
  | sum => exact exists_corresponds_column (hshared .column (by simp)) (fun _ _ => .sum) h
  | mean => exact exists_corresponds_column (hshared .column (by simp)) (fun _ _ => .mean) h
  | stats =>
    have hcolumn := (hparameters .column (by decide)).text?_eq
    have hgiven : (r.text? .column).isSome = true := Option.isSome_iff_ne_none.2 hfocused
    simp only [ofOperation, hgiven, if_true] at h
    simp only [ofOperation, ← hcolumn, hgiven, if_true]
    exact exists_corresponds_column (hshared .column (by simp)) (fun _ _ => .stats) h
  | groupBy =>
    exact exists_corresponds_groupBy (hshared .groupBy (by simp)) (hshared .aggregate (by simp)) h
  | filter => exact exists_corresponds_filter hsize (hparameters .condition (by decide)) hcolumns h
  | unique => exact exists_corresponds_unique (hshared .column (by simp)) h
  | duplicates =>
    exact exists_corresponds_duplicates (hparameters .columns (by decide)) hfocused hcolumns h
  | correlate =>
    exact exists_corresponds_correlate (hshared .column1 (by simp)) (hshared .column2 (by simp)) h

end Requests

/-- The result of an operation that shows no rows is all that is found. -/
theorem exists_result_of_findings {op : Operation} {f : Findings} (hop : op ∈ plan.operations)
    (hrows : op.showsRows = false) (h : t.findings limits plan = .ok f) :
    ∃ json, f = .result json := by
  cases plan with
  | info | filter | duplicates =>
    obtain rfl := List.mem_singleton.1 hop
    cases hrows
  | rank =>
    simp only [operations, List.mem_cons, List.not_mem_nil, or_false] at hop
    rcases hop with rfl | rfl <;> cases hrows
  | sum | mean | stats | statsOfAll | groupBy =>
    obtain ⟨payload, -, rfl⟩ := map_eq_ok h
    exact ⟨_, rfl⟩
  | unique | correlate =>
    obtain rfl := Except.ok.inj h
    exact ⟨_, rfl⟩

end Plan

/-! ### Answers -/

namespace Request

variable {r r' : Request} {op : Operation}

theorem namedColumns_congr (h : ∀ p ∈ op.parameters, r.SameAt r' p) :
    r.namedColumns op = r'.namedColumns op := by
  cases op with
  | filter => simp only [namedColumns, (h .condition (by decide)).text?_eq]
  | duplicates => exact (h .columns (by decide)).columnSubset_eq
  | info | topN | bottomN | sum | mean | stats | groupBy | unique | correlate =>
    apply List.filterMap_congr
    intro p hp
    exact (h p (Operation.mem_parameters_of_names hp)).text?_eq

theorem isFocused_congr (h : ∀ p ∈ op.parameters, r.SameAt r' p) (hfocused : r.IsFocused op) :
    r'.IsFocused op := by
  cases op with
  | info => exact hfocused
  | stats =>
    rw [IsFocused, ← (h .column (by decide)).text?_eq]
    exact hfocused
  | duplicates =>
    rw [IsFocused, ← (h .columns (by decide)).columnSubset_eq]
    exact hfocused
  | topN | bottomN | sum | mean | groupBy | filter | unique | correlate => trivial

end Request

namespace Table

variable {t t' : Table} {r r' : Request} {op : Operation} {limits : Limits} {f : Findings}

theorem found_eq_some_iff (hop : op.name = r.operation) : t.found limits r = some f ↔
    ∃ plan, Plan.ofOperation t.schema r limits op = .ok plan ∧ t.findings limits plan = .ok f := by
  have hname : Operation.ofName? r.operation = some op := Operation.ofName?_eq_some_iff.2 hop
  unfold found Plan.ofRequest
  rw [hname]
  dsimp only
  cases hplan : Plan.ofOperation t.schema r limits op with
  | error e => simp [Except.map]
  | ok plan =>
    cases hfound : t.findings limits plan <;> simp [Except.map, Except.toOption, hfound]

/-- What is found in one table is found in every other that has the named columns. -/
theorem found_of_sharesColumn (hsize : t.size = t'.size) (hop : op.name = r.operation)
    (hop' : op.name = r'.operation) (hfocused : r.IsFocused op)
    (hparameters : ∀ p ∈ op.parameters, r.SameAt r' p)
    (hcolumns : ∀ name ∈ r.namedColumns op, t.SharesColumn t' name)
    (h : t.found limits r = some f) : t'.found limits r' = some f := by
  obtain ⟨plan, hplan, hf⟩ := (found_eq_some_iff hop).1 h
  obtain ⟨plan', hplan', hcorresponds⟩ :=
    Plan.exists_corresponds hsize hfocused hparameters hcolumns hplan
  rw [found_eq_some_iff hop']
  exact ⟨plan', hplan', hcorresponds.findings_eq hsize ▸ hf⟩

theorem toJson_eq_of_found (hop : op.name = r.operation) (hrows : op.showsRows = false)
    (h : t.found limits r = some f) (t' : Table) : f.toJson t limits = f.toJson t' limits := by
  obtain ⟨plan, hplan, hf⟩ := (found_eq_some_iff hop).1 h
  obtain ⟨json, rfl⟩ :=
    Plan.exists_result_of_findings (Plan.mem_operations_of_ofOperation hplan) hrows hf
  rfl

/-- A result depends only on what the request names. Where two tables of one size have the named columns,
with the same types and cells, two requests for an operation that agree on its parameters find the same:
the same result, or the same row numbers where the result shows rows of the table. -/
theorem result_depends_only_on_named_columns (t t' : Table) (r r' : Request) (op : Operation)
    (limits : Limits) (source source' : String) (hsize : t.size = t'.size)
    (hop : op.name = r.operation) (hop' : op.name = r'.operation) (hfocused : r.IsFocused op)
    (hparameters : ∀ p ∈ op.parameters, r.SameAt r' p)
    (hcolumns : ∀ name ∈ r.namedColumns op, t.SharesColumn t' name) :
    t.found limits r = t'.found limits r' ∧
      (t.analyze source r limits).result? = (t.found limits r).map (·.toJson t limits) ∧
      (t'.analyze source' r' limits).result? = (t'.found limits r').map (·.toJson t' limits) ∧
      (op.showsRows = false →
        (t.analyze source r limits).result? = (t'.analyze source' r' limits).result?) := by
  have hfound : t.found limits r = t'.found limits r' := by
    apply Option.ext
    intro f
    constructor
    · exact found_of_sharesColumn hsize hop hop' hfocused hparameters hcolumns
    · apply found_of_sharesColumn hsize.symm hop' hop (Request.isFocused_congr hparameters hfocused)
      · intro p hp
        exact (hparameters p hp).symm
      · intro name hname
        rw [← Request.namedColumns_congr hparameters] at hname
        exact (hcolumns name hname).symm
  refine ⟨hfound, t.result?_analyze limits source r, t'.result?_analyze limits source' r', ?_⟩
  intro hrows
  rw [t.result?_analyze, t'.result?_analyze, ← hfound]
  cases h : t.found limits r with
  | none => rfl
  | some f => exact congrArg some (toJson_eq_of_found hop hrows h t')

/-- The column of numbers stands first in one table and last in the other, behind a column of another
type, and the requests differ in a parameter that they do not use. -/
theorem top_rows_of_shared_column :
    let t : Table := ⟨⟨[⟨"n", .int64⟩, ⟨"x", .utf8⟩]⟩,
      [[.int 3, .text "a"], [.null, .text "b"], [.int 5, .text "c"]]⟩
    let t' : Table := ⟨⟨[⟨"x", .bool⟩, ⟨"n", .int64⟩]⟩,
      [[.bool true, .int 3], [.bool true, .null], [.null, .int 5]]⟩
    let r : Request := { operation := "top_n", column := some "n", condition := some "x" }
    let r' : Request := { operation := "top_n", column := some "n" }
    t.found {} r = some (.ranked [2, 0]) ∧ t'.found {} r' = some (.ranked [2, 0]) ∧
      (t'.analyze "" r' {}).result? =
        some (t'.schema.records [[.null, .int 5], [.bool true, .int 3]]) := by
  intro t t' r r'
  have hparameters : ∀ p ∈ Operation.topN.parameters, r.SameAt r' p := by
    intro p hp
    simp only [Operation.parameters, List.mem_cons, List.not_mem_nil, or_false] at hp
    rcases hp with rfl | rfl <;> rfl
  have hcolumns : ∀ name ∈ r.namedColumns .topN, t.SharesColumn t' name := by
    intro name hname
    obtain rfl : name = "n" := by simpa using (show name ∈ ["n"] from hname)
    exact ⟨0, 1, by decide, by decide, by decide, by decide⟩
  have h := result_depends_only_on_named_columns t t' r r' .topN {} "" "" rfl (by decide) (by decide)
    trivial hparameters hcolumns
  have hfound : t.found {} r = some (.ranked [2, 0]) := rfl
  have hfound' : t'.found {} r' = some (.ranked [2, 0]) := h.1.symm.trans hfound
  refine ⟨hfound, hfound', h.2.2.1.trans ?_⟩
  rw [hfound']
  rfl

end Table

end TableReport
