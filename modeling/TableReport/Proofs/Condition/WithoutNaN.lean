import TableReport.Condition.Predicate
import TableReport.Proofs.Condition.CellComparison
import TableReport.Proofs.Reduce.Missing
/-!
# Conditions on rows with NaN

A comparison takes a NaN for a missing cell unless the other side has a value that is no number: such a
value differs from null, but it is not compared with a NaN. Nothing else in a condition tells them apart.
-/
namespace TableReport

theorem Cell.withoutNaN_eq_bool_iff {c : Cell} {v : Bool} : c.withoutNaN = .bool v ↔ c = .bool v := by
  cases c with
  | float x => cases h : x.isNaN <;> simp [withoutNaN, h]
  | null | int | bool | text | dateTime => rfl

namespace Operand

/-- The row has a NaN in the column. -/
def hasNaN (row : Row) : Operand → Bool
  | .column i => (row.cell i).isMissing && !(row.cell i).isNull
  | .value _ => false

variable {row : Row} {o : Operand}

theorem cell_withoutNaN_of_hasNaN (h : o.hasNaN row = true) :
    (o.cell row).isMissing = true ∧ o.cell row.withoutNaN = .null := by
  cases o with
  | column i =>
    simp only [hasNaN, Bool.and_eq_true] at h
    refine ⟨h.1, ?_⟩
    rw [cell, Row.cell_withoutNaN, Cell.withoutNaN_of_missing h.1]
  | value c => cases h

theorem cell_withoutNaN_of_not_hasNaN (h : o.hasNaN row = false) :
    o.cell row.withoutNaN = o.cell row := by
  cases o with
  | column i =>
    rw [cell, Row.cell_withoutNaN, cell]
    cases hmissing : (row.cell i).isMissing with
    | false => exact Cell.withoutNaN_of_present hmissing
    | true =>
      have hnull : (row.cell i).isNull = true := by simpa [hasNaN, hmissing] using h
      cases hcell : row.cell i with
      | null => rfl
      | _ => rw [hcell] at hnull; cases hnull
  | value c => rfl

end Operand

/-- A missing cell differs from everything but values of another kind. -/
theorem Comparison.between_of_missing {a b : Cell} (op : Comparison)
    (h : a.isMissing = true ∨ b.isMissing = true) :
    op.between a b = (op == .ne && !decide (a.Apart b)) := by
  by_cases hapart : a.Apart b
  · rw [(coherent a b).apart hapart]
    simp [hapart]
  · rw [between, Relation.ofCells_eq_unequal_iff.2 ⟨h, hapart⟩]
    simp [hapart, Relation.satisfies]

namespace Predicate

/-- Somewhere `!=` compares a NaN of the row with a value that is no number. -/
def setsNaNApart (row : Row) : Predicate → Bool
  | .compare left op right =>
    op == .ne && (left.hasNaN row || right.hasNaN row) && decide ((left.cell row).Apart (right.cell row))
  | .holds _ | .constant _ => false
  | .both left right | .either left right => left.setsNaNApart row || right.setsNaNApart row
  | .negation inner => inner.setsNaNApart row

variable {row : Row} {left right : Operand} {op : Comparison}

/-- A comparison with a NaN has the outcome that it has with null, but for `!=` and a value that is no
number. -/
theorem test_compare_of_hasNaN (op : Comparison)
    (h : left.hasNaN row = true ∨ right.hasNaN row = true) :
    (compare left op right).test row.withoutNaN = (op == .ne) ∧
      (compare left op right).test row =
        (op == .ne && !decide ((left.cell row).Apart (right.cell row))) := by
  have hmissing : (left.cell row).isMissing = true ∨ (right.cell row).isMissing = true :=
    h.imp (fun h => (Operand.cell_withoutNaN_of_hasNaN h).1)
      fun h => (Operand.cell_withoutNaN_of_hasNaN h).1
  refine ⟨?_, op.between_of_missing hmissing⟩
  rw [test]
  rcases h with h | h
  · rw [(Operand.cell_withoutNaN_of_hasNaN h).2]
    exact (op.between_null _).1
  · rw [(Operand.cell_withoutNaN_of_hasNaN h).2]
    exact (op.between_null _).2

theorem test_compare_withoutNaN_iff :
    (compare left op right).test row.withoutNaN = (compare left op right).test row ↔
      (compare left op right).setsNaNApart row = false := by
  by_cases h : left.hasNaN row = true ∨ right.hasNaN row = true
  · have hany : (left.hasNaN row || right.hasNaN row) = true := by simpa using h
    obtain ⟨hnull, hnan⟩ := test_compare_of_hasNaN op h
    rw [hnull, hnan, setsNaNApart, hany]
    cases op == .ne <;> simp
  · obtain ⟨hleft, hright⟩ : left.hasNaN row = false ∧ right.hasNaN row = false := by simpa using h
    rw [test, Operand.cell_withoutNaN_of_not_hasNaN hleft,
      Operand.cell_withoutNaN_of_not_hasNaN hright]
    simp [test, setsNaNApart, hleft, hright]

theorem test_withoutNaN {p : Predicate} (h : p.setsNaNApart row = false) :
    p.test row.withoutNaN = p.test row := by
  induction p with
  | compare left op right => exact test_compare_withoutNaN_iff.2 h
  | holds i =>
    rw [test, Row.cell_withoutNaN, test, Bool.eq_iff_iff, beq_iff_eq, beq_iff_eq,
      Cell.withoutNaN_eq_bool_iff]
  | constant v => rfl
  | both left right ihl ihr =>
    obtain ⟨hleft, hright⟩ := Bool.or_eq_false_iff.1 h
    rw [test, ihl hleft, ihr hright, test]
  | either left right ihl ihr =>
    obtain ⟨hleft, hright⟩ := Bool.or_eq_false_iff.1 h
    rw [test, ihl hleft, ihr hright, test]
  | negation inner ih => rw [test, ih h, test]

/-- A condition takes each NaN of a row for null unless it sets a NaN apart from a value that is no number.
A comparison that does so holds of null and not of the NaN. -/
theorem compile_test_withoutNaN : ∀ (schema : Schema) (s : String) (p : Predicate),
    compile schema s = .ok p → ∀ row : Row,
      (p.setsNaNApart row = false → p.test row.withoutNaN = p.test row) ∧
        ∀ left op right, p = .compare left op right → p.setsNaNApart row = true →
          p.test row.withoutNaN = true ∧ p.test row = false := by
  intro schema s p _ row
  refine ⟨test_withoutNaN, ?_⟩
  rintro left op right rfl happart
  simp only [setsNaNApart, Bool.and_eq_true, Bool.or_eq_true] at happart
  obtain ⟨⟨hne, hnan⟩, happart⟩ := happart
  obtain ⟨hnull, htest⟩ := test_compare_of_hasNaN op hnan
  rw [hnull, htest, hne, happart]
  exact ⟨rfl, rfl⟩

/-- A NaN is compared with itself, with numbers and with a null among texts, where it is taken for null, and
then with a text, where it is not. -/
theorem test_withoutNaN_of_nested_condition :
    let schema : Schema := ⟨[⟨"x", .float64⟩, ⟨"s", .utf8⟩, ⟨"b", .bool⟩]⟩
    let row : Row := [.float .nan, .null, .bool false]
    let row' : Row := [.float .nan, .text "a", .bool false]
    (∃ p, compile schema "x != 1 and not (x == x or x < 2 or b) and x != s" = .ok p ∧
      p.test row.withoutNaN = p.test row ∧ p.test row = true) ∧
    ∃ p, compile schema "x != s" = .ok p ∧ p.test row'.withoutNaN = true ∧ p.test row' = false := by
  intro schema row row'
  have hnested : compile schema "x != 1 and not (x == x or x < 2 or b) and x != s" =
      .ok (.both (.both (.compare (.column 0) .ne (.value (.int 1)))
        (.negation (.either (.either (.compare (.column 0) .eq (.column 0))
          (.compare (.column 0) .lt (.value (.int 2)))) (.holds 2))))
        (.compare (.column 0) .ne (.column 1))) := by decide +kernel
  have hsingle : compile schema "x != s" = .ok (.compare (.column 0) .ne (.column 1)) := by
    decide +kernel
  obtain ⟨hsame, -⟩ := compile_test_withoutNaN schema _ _ hnested row
  obtain ⟨-, happart⟩ := compile_test_withoutNaN schema _ _ hsingle row'
  refine ⟨⟨_, hnested, hsame (by decide), by decide⟩, _, hsingle, ?_⟩
  exact happart _ _ _ rfl (by decide)

/-- A NaN does not satisfy a comparison with a text that null satisfies. -/
theorem test_withoutNaN_ne :
    ¬ ∀ (schema : Schema) (s : String) (p : Predicate), compile schema s = .ok p →
      ∀ row : Row, p.test row.withoutNaN = p.test row := by
  intro h
  have hcompile : compile ⟨[⟨"x", .float64⟩]⟩ "x != 'a'" =
      .ok (.compare (.column 0) .ne (.value (.text "a"))) := by decide +kernel
  have hsame := h _ _ _ hcompile [.float .nan]
  revert hsame
  decide

end Predicate

end TableReport
