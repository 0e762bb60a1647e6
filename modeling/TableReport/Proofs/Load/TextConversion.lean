import TableReport.Proofs.Load.Lawful
/-!
# Texts in records and in sheets

A text becomes the same cell in a record as in a sheet, or it is rejected in both. Only a column of texts
tells the two apart: a record gives it the text without the blanks around it, a sheet the text as it stands.
-/
namespace TableReport

namespace TextCell

variable {kept kept' raw : String} {notDate notDate' : ValueProblem} {type : ColumnType}

theorem read_eq_null_iff :
    read kept notDate type raw = .ok .null ↔ isMissingMarker (Text.trim raw) = true ∨ type = .null := by
  constructor
  · intro h
    exact (read_eq_ok h).2.1 rfl
  · rintro (hmarker | rfl)
    · simp only [read, if_pos hmarker]
    · simp only [read, ite_self]

theorem read_utf8 :
    read kept notDate .utf8 raw = .ok (if isMissingMarker (Text.trim raw) then .null else .text kept) :=
  (apply_ite Except.ok _ _ _).symm

/-- The kept text has a say in columns of texts only, and the problem with dates in columns of dates only. -/
theorem read_congr (hutf8 : type ≠ .utf8) (hdate : type ≠ .dateTime) :
    read kept notDate type raw = read kept' notDate' type raw := by
  cases type with
  | utf8 => exact absurd rfl hutf8
  | dateTime => exact absurd rfl hdate
  | null | int64 | float64 | bool => rfl

theorem read_date :
    (∃ c, read kept notDate .dateTime raw = .ok c ∧ read kept' notDate' .dateTime raw = .ok c) ∨
      read kept notDate .dateTime raw = .error notDate ∧
        read kept' notDate' .dateTime raw = .error notDate' := by
  by_cases hmarker : isMissingMarker (Text.trim raw) = true
  · exact .inl ⟨.null, read_eq_null_iff.2 (.inl hmarker), read_eq_null_iff.2 (.inl hmarker)⟩
  · simp only [read, if_neg hmarker]
    cases readDateTime? (Text.trim raw) with
    | none => exact .inr ⟨rfl, rfl⟩
    | some d => exact .inl ⟨.dateTime d, rfl, rfl⟩

/-- Outside columns of texts there is one cell for a text, or there is none. -/
theorem read_alike (hutf8 : type ≠ .utf8) :
    (∃ c, read kept notDate type raw = .ok c ∧ read kept' notDate' type raw = .ok c) ∨
      ∃ problem problem', read kept notDate type raw = .error problem ∧
        read kept' notDate' type raw = .error problem' ∧ (type ≠ .dateTime → problem = problem') := by
  by_cases hdate : type = .dateTime
  · subst hdate
    rcases read_date with hcell | ⟨herror, herror'⟩
    · exact .inl hcell
    · exact .inr ⟨notDate, notDate', herror, herror', fun h => absurd rfl h⟩
  · have hsame : read kept notDate type raw = read kept' notDate' type raw := read_congr hutf8 hdate
    rw [hsame]
    cases read kept' notDate' type raw with
    | ok c => exact .inl ⟨c, rfl, rfl⟩
    | error problem => exact .inr ⟨problem, problem, rfl, rfl, fun _ => rfl⟩

end TextCell

/-- A text in a record and the same text in a cell of a sheet. -/
theorem text_converts_alike (s : String) (type : ColumnType) (line row : RowPlace) (name name' : String) :
    let inRecord := line.cell Csv.cellRules ⟨name, type⟩ s
    let inSheet := row.cell SheetCell.cellRules ⟨name', type⟩ (.text s)
    (inRecord = .ok .null ↔ isMissingMarker (Text.trim s) = true ∨ type = .null) ∧
    (inSheet = .ok .null ↔ isMissingMarker (Text.trim s) = true ∨ type = .null) ∧
    (type ≠ .utf8 →
      (∃ c, inRecord = .ok c ∧ inSheet = .ok c) ∨
      ∃ problem problem', inRecord = .error (.value line.number (line.label name) s problem) ∧
        inSheet = .error (.value row.number (row.label name') s problem') ∧
        (type ≠ .dateTime → problem = problem')) ∧
    (type = .utf8 →
      inRecord = .ok .null ∧ inSheet = .ok .null ∨
      inSheet = .ok (.text s) ∧ inRecord = .ok (.text (Text.trim s))) := by
  have hrecord : Csv.cellRules.cell type s = TextCell.read (Text.trim s) .dateText type s := by
    dsimp only [Csv.cellRules]
  have hsheet : SheetCell.cellRules.cell type (.text s) = TextCell.read s .date type s := by
    dsimp only [SheetCell.cellRules]
    rw [SheetCell.toCell_text]
  -- Both sides are now readings that drop the blanks first, each with a kept text of its own.
  intro inRecord inSheet
  simp only [inRecord, inSheet, RowPlace.cell, hrecord, hsheet, mapError_eq_ok,
    TextCell.read_eq_null_iff, true_and]
  refine ⟨fun hutf8 => ?_, ?_⟩
  · obtain hcell | ⟨problem, problem', herror, herror', hsame⟩ := TextCell.read_alike hutf8
    · exact .inl hcell
    · rw [herror, herror']
      exact .inr ⟨problem, problem', rfl, rfl, hsame⟩
  · rintro rfl
    simp only [TextCell.read_utf8]
    split
    case isTrue hmarker => exact .inl ⟨.inl hmarker, .inl hmarker⟩
    case isFalse => exact .inr ⟨rfl, rfl⟩

/-- A word for a truth value, an integer beyond the range, and a text, with blanks around them. -/
theorem text_converts_alike_with_blanks :
    let line : RowPlace := ⟨2, none⟩
    let row : RowPlace := ⟨3, some "a"⟩
    (line.cell Csv.cellRules ⟨"b", .bool⟩ " Yes\t" = .ok (.bool true) ∧
      row.cell SheetCell.cellRules ⟨"b", .bool⟩ (.text " Yes\t") = .ok (.bool true)) ∧
    (∃ problem,
      line.cell Csv.cellRules ⟨"n", .int64⟩ " 9223372036854775808" =
        .error (.value 2 "n" " 9223372036854775808" problem) ∧
      row.cell SheetCell.cellRules ⟨"n", .int64⟩ (.text " 9223372036854775808") =
        .error (.value 3 "a:n" " 9223372036854775808" problem)) ∧
    row.cell SheetCell.cellRules ⟨"s", .utf8⟩ (.text " a b ") = .ok (.text " a b ") ∧
      line.cell Csv.cellRules ⟨"s", .utf8⟩ " a b " = .ok (.text "a b") := by
  intro line row
  obtain ⟨-, -, hbool, -⟩ := text_converts_alike " Yes\t" .bool line row "b" "b"
  obtain ⟨-, -, hint, -⟩ := text_converts_alike " 9223372036854775808" .int64 line row "n" "n"
  obtain ⟨hnull, -, -, htext⟩ := text_converts_alike " a b " .utf8 line row "s" "s"
  refine ⟨?_, ?_, ?_⟩
  · have hyes : line.cell Csv.cellRules ⟨"b", .bool⟩ " Yes\t" = .ok (.bool true) := by decide +kernel
    obtain ⟨c, hrecord, hsheet⟩ | ⟨problem, problem', herror, -⟩ := hbool (by decide)
    · obtain rfl := Except.ok.inj (hrecord.symm.trans hyes)
      exact ⟨hyes, hsheet⟩
    · cases herror.symm.trans hyes
  · have hlarge : ∀ c, line.cell Csv.cellRules ⟨"n", .int64⟩ " 9223372036854775808" ≠ .ok c := by
      have herror : line.cell Csv.cellRules ⟨"n", .int64⟩ " 9223372036854775808" =
          .error (.value 2 "n" " 9223372036854775808" (.integer .tooLarge)) := by decide +kernel
      simp [herror]
    obtain ⟨c, hrecord, -⟩ | ⟨problem, problem', herror, herror', hsame⟩ := hint (by decide)
    · exact absurd hrecord (hlarge c)
    · obtain rfl := hsame (by decide)
      exact ⟨problem, herror, herror'⟩
  · obtain ⟨hempty, -⟩ | ⟨hsheet, hrecord⟩ := htext rfl
    · exact absurd (hnull.1 hempty) (by decide +kernel)
    · have htrim : Text.trim " a b " = "a b" := by decide +kernel
      exact ⟨hsheet, htrim ▸ hrecord⟩

end TableReport
