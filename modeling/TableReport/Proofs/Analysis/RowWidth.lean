import TableReport.Proofs.Analysis.NamedColumns
/-!
# Rows of any length

A row may have fewer cells than there are columns, or more. It is read as if it had null in each column
that it does not reach, and as if it ended at the last column.
-/
namespace TableReport

/-- The row with one cell for each column: filled up with nulls, or cut off. -/
def Row.fitted (width : Nat) (row : Row) : Row :=
  (row ++ List.replicate (width - row.length) Cell.null).take width

def Table.fitted (t : Table) : Table := { t with rows := t.rows.map (Row.fitted t.schema.width) }

namespace Row

variable {row : Row} {width i : Nat}

theorem cell_fitted (h : i < width) : (row.fitted width).cell i = row.cell i := by
  simp only [cell, fitted, List.getD_eq_getElem?_getD, List.getElem?_take_of_lt h]
  by_cases hi : i < row.length
  · rw [List.getElem?_append_left hi]
  · simp [List.getElem?_append_right (Nat.le_of_not_lt hi), Nat.le_of_not_lt hi,
      List.getElem?_replicate]
    split <;> rfl

end Row

theorem Operand.cell_fitted {row : Row} {width : Nat} {o : Operand}
    (h : ∀ i ∈ o.positions, i < width) : o.cell (row.fitted width) = o.cell row := by
  cases o with
  | column i => exact Row.cell_fitted (h i (by simp [positions]))
  | value c => rfl

/-- A condition does not look beyond the columns that it is bound to. -/
theorem Predicate.test_fitted {row : Row} {width : Nat} {p : Predicate}
    (h : ∀ i ∈ p.positions, i < width) : p.test (row.fitted width) = p.test row := by
  induction p with
  | compare left op right =>
    simp only [positions, List.mem_append] at h
    rw [test, Operand.cell_fitted fun i hi => h i (.inl hi),
      Operand.cell_fitted fun i hi => h i (.inr hi), test]
  | holds i => rw [test, Row.cell_fitted (h i (by simp [positions])), test]
  | constant v => rfl
  | both left right ihl ihr =>
    simp only [positions, List.mem_append] at h
    rw [test, ihl fun i hi => h i (.inl hi), ihr fun i hi => h i (.inr hi), test]
  | either left right ihl ihr =>
    simp only [positions, List.mem_append] at h
    rw [test, ihl fun i hi => h i (.inl hi), ihr fun i hi => h i (.inr hi), test]
  | negation inner ih => rw [test, ih h, test]

namespace Table

variable {t : Table} {limits : Limits} {i : Nat}

theorem schema_fitted : t.fitted.schema = t.schema := rfl

theorem size_fitted : t.fitted.size = t.size := List.length_map _

theorem row_fitted {k : Nat} (hk : k < t.size) :
    t.fitted.row k = (t.row k).fitted t.schema.width := by
  have hk' : k < t.rows.length := hk
  simp [row, fitted, hk']

/-! ### Columns -/

theorem column_fitted (h : i < t.schema.width) : t.fitted.column i = t.column i := by
  simp [column, fitted, Row.cell_fitted h]

theorem sameColumn_fitted (h : i < t.schema.width) : SameColumn t.fitted t i i :=
  ⟨rfl, rfl, column_fitted h⟩

theorem describeAll_fitted : t.fitted.describeAll = t.describeAll := by
  apply mapM_congr
  intro p hp
  obtain ⟨f, i⟩ := p
  have hfield := List.mem_zipIdx_iff_getElem?.1 (List.mem_filter.1 hp).1
  obtain ⟨hi, -⟩ : ∃ hi : i < t.schema.width, _ := List.getElem?_eq_some_iff.1 hfield
  dsimp only
  rw [(sameColumn_fitted hi).describe_eq]

theorem repeatedNumbers_fitted {columns : List Nat}
    (h : ∀ i ∈ t.comparedColumns columns, i < t.schema.width) :
    t.fitted.repeatedNumbers columns = t.repeatedNumbers columns := by
  apply SameColumn.repeatedNumbers_congr _ size_fitted
  exact List.forall₂_same.2 fun i hi => sameColumn_fitted (h i hi)

/-! ### Findings and answers -/

/-- A plan that looks at the columns of the schema finds the same. -/
theorem findings_fitted {plan : Plan} (h : ∀ i ∈ plan.positions t, i < t.schema.width)
    (hinfo : plan ≠ .info) : t.fitted.findings limits plan = t.findings limits plan := by
  cases plan with
  | info => exact absurd rfl hinfo
  | rank i n direction =>
    have hsame := sameColumn_fitted (h i (by simp [Plan.positions]))
    simp only [findings, hsame.rankedNumbers_eq size_fitted]
  | sum i =>
    have hsame := sameColumn_fitted (h i (by simp [Plan.positions]))
    simp only [findings, execute, hsame.sum_eq, schema_fitted]
  | mean i =>
    have hsame := sameColumn_fitted (h i (by simp [Plan.positions]))
    simp only [findings, execute, hsame.mean_eq, schema_fitted]
  | stats i =>
    have hsame := sameColumn_fitted (h i (by simp [Plan.positions]))
    simp only [findings, execute, hsame.describe_eq, schema_fitted]
  | statsOfAll => simp only [findings, execute, describeAll_fitted, schema_fitted]
  | groupBy key value =>
    have hkey := sameColumn_fitted (h key (by simp [Plan.positions]))
    have hvalue := sameColumn_fitted (h value (by simp [Plan.positions]))
    simp only [findings, execute, hkey.groupSum_eq hvalue size_fitted, schema_fitted]
  | filter p =>
    have hnumbers : t.fitted.numbersWhere (p.test ·) = t.numbersWhere (p.test ·) := by
      apply numbersWhere_congr size_fitted
      intro k hk
      rw [row_fitted (size_fitted ▸ hk), Predicate.test_fitted h]
    simp only [findings, hnumbers, size_fitted]
  | unique i =>
    have hcolumn := column_fitted (h i (by simp [Plan.positions]))
    simp only [findings, execute, unique, hcolumn, schema_fitted]
  | duplicates columns => simp only [findings, repeatedNumbers_fitted h]
  | correlate x y =>
    have hx := sameColumn_fitted (h x (by simp [Plan.positions]))
    have hy := sameColumn_fitted (h y (by simp [Plan.positions]))
    simp only [findings, execute, hx.correlate_eq hy size_fitted, schema_fitted]

theorem records_rowsAt_fitted (numbers : List Nat) :
    t.schema.records (t.fitted.rowsAt numbers) = t.schema.records (t.rowsAt numbers) := by
  have hrecord : ∀ k, t.schema.record (t.fitted.row k) = t.schema.record (t.row k) := by
    intro k
    unfold Schema.record
    congr 1
    apply List.map_congr_left
    intro p hp
    obtain ⟨f, i⟩ := p
    obtain ⟨hi, -⟩ := List.getElem?_eq_some_iff.1 (List.mem_zipIdx_iff_getElem?.1 hp)
    dsimp only
    rw [cell_row, cell_row, column_fitted hi]
  simp only [Schema.records, rowsAt, List.map_map, Function.comp_def, hrecord]

theorem toJson_findings_fitted (f : Findings) : f.toJson t.fitted limits = f.toJson t limits := by
  cases f with
  | ranked | selected | repeated =>
    simp only [Findings.toJson, Payload.toJson, schema_fitted, records_rowsAt_fitted]
  | result => rfl

/-- Rows of the wrong width are read as if they fitted the schema: with short ones filled up and long ones
cut off, the answer to every request is the same. Only an inspection tells them apart, which counts the
cells that are there. -/
theorem analyze_fitted (source : String) (r : Request) (hr : r.operation ≠ Operation.info.name) :
    t.fitted.analyze source r limits = t.analyze source r limits := by
  refine t.analyze_congr limits schema_fitted size_fitted ?_ source
  intro op plan hplan
  obtain ⟨hop, hplan⟩ := Plan.ofRequest_eq_ok_iff.1 hplan
  have hinfo : plan ≠ .info := by
    rintro rfl
    obtain rfl := List.mem_singleton.1 (Plan.mem_operations_of_ofOperation hplan)
    exact hr hop.symm
  rw [findings_fitted (Plan.positions_lt_width hplan) hinfo]
  congr 1
  funext f
  exact toJson_findings_fitted f

/-- The second row is too long, and the last two, which are too short in different ways, are the same. -/
theorem repeated_rows_of_wrong_width :
    let t : Table := ⟨⟨[⟨"n", .int64⟩, ⟨"x", .utf8⟩]⟩,
      [[.int 1, .text "a"], [.int 2, .text "b", .bool true], [], [.null]]⟩
    let r : Request := { operation := "duplicates" }
    t.fitted.rows = [[.int 1, .text "a"], [.int 2, .text "b"], [.null, .null], [.null, .null]] ∧
      (t.duplicates [] 10).count = 2 ∧
      t.fitted.analyze "data.csv" r {} = t.analyze "data.csv" r {} := by
  intro t r
  exact ⟨by decide, by decide, analyze_fitted "data.csv" r (by decide)⟩

end Table

end TableReport
