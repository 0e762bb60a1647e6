import TableReport.Load.Csv.Table
import TableReport.Load.Json.Table
import TableReport.Load.Workbook.SheetCell
import TableReport.Proofs.Calendar.Reading
import TableReport.Proofs.Load.CellRules
/-!
# The rules of the three formats

What texts, JSON values and cells of a sheet become fits the column they stand in. The tests for a
missing value agree with the kinds that column types are inferred from.
-/
namespace TableReport

namespace TextCell

theorem kind?_eq_none_iff {raw : String} :
    kind? raw = none ↔ isMissingMarker (Text.trim raw) = true := by
  unfold kind?
  grind

theorem read_eq_ok {kept raw : String} {notDate : ValueProblem} {type : ColumnType} {c : Cell}
    (h : read kept notDate type raw = .ok c) :
    c.fits type = true ∧ (c = .null ↔ isMissingMarker (Text.trim raw) = true ∨ type = .null) := by
  unfold read at h
  by_cases hmissing : isMissingMarker (Text.trim raw) = true
  · rw [if_pos hmissing, Except.ok.injEq] at h
    subst h
    exact ⟨rfl, by simp [hmissing]⟩
  · rw [if_neg hmissing] at h
    cases type with
    | null | utf8 => cases h; simp [hmissing, Cell.fits]
    | int64 =>
      obtain ⟨v, -, rfl⟩ := map_eq_ok (mapError_eq_ok.1 h)
      simp [hmissing, Cell.fits]
    | float64 =>
      cases hread : readBinary64? (Text.trim raw) <;> rw [hread] at h <;> cases h
      simp [hmissing, Cell.fits]
    | bool =>
      cases hread : readBool? (Text.trim raw) <;> rw [hread] at h <;> cases h
      simp [hmissing, Cell.fits]
    | dateTime =>
      cases hread : readDateTime? (Text.trim raw) <;> rw [hread] at h <;> cases h
      simp [hmissing, Cell.fits]

end TextCell

theorem Csv.cellRules_lawful : Csv.cellRules.Lawful where
  fits := fun {type raw c} h => by
    dsimp only [Csv.cellRules] at h
    exact (TextCell.read_eq_ok h).1
  null_iff := fun {type raw c} h => by
    dsimp only [Csv.cellRules] at h ⊢
    rw [TextCell.kind?_eq_none_iff]
    exact (TextCell.read_eq_ok h).2

namespace Json

theorem kind?_eq_none_iff {v : Json} : kind? v = none ↔ v.isNull = true := by
  cases v <;> simp [kind?, isNull]

section Readers

variable {type : ColumnType} {v : Json} {c : Cell}

theorem boolCell_eq_ok (h : v.boolCell = .ok c) : ∃ b, c = .bool b := by
  cases v with
  | bool b => exact ⟨b, (Except.ok.inj h).symm⟩
  | null | int | float | text | list | object => cases h

theorem intCell_eq_ok (h : v.intCell = .ok c) : ∃ i, c = .int i := by
  cases v with
  | int i =>
    simp only [intCell] at h
    split at h
    case isTrue => exact ⟨_, (Except.ok.inj h).symm⟩
    case isFalse => cases h
  | null | bool | float | text | list | object => cases h

theorem floatCell_eq_ok (h : v.floatCell = .ok c) : ∃ x, c = .float x := by
  cases v with
  | int | float => exact ⟨_, (Except.ok.inj h).symm⟩
  | null | bool | text | list | object => cases h

theorem dateCell_eq_ok (h : v.dateCell = .ok c) : ∃ d, c = .dateTime d := by
  cases v with
  | text s =>
    simp only [dateCell] at h
    split at h
    case h_1 d _ => exact ⟨d, (Except.ok.inj h).symm⟩
    case h_2 => cases h
  | null | bool | int | float | list | object => cases h

theorem toCell_eq_ok (h : toCell type v = .ok c) :
    c.fits type = true ∧ (c = .null ↔ v.isNull = true ∨ type = .null) := by
  unfold toCell at h
  by_cases hnull : v.isNull = true
  · rw [if_pos hnull, Except.ok.injEq] at h
    subst h
    exact ⟨rfl, by simp [hnull]⟩
  · rw [if_neg hnull] at h
    cases type with
    | null | utf8 => cases h; simp [hnull, Cell.fits]
    | bool =>
      obtain ⟨b, rfl⟩ := boolCell_eq_ok h
      simp [hnull, Cell.fits]
    | int64 =>
      obtain ⟨i, rfl⟩ := intCell_eq_ok h
      simp [hnull, Cell.fits]
    | float64 =>
      obtain ⟨x, rfl⟩ := floatCell_eq_ok h
      simp [hnull, Cell.fits]
    | dateTime =>
      obtain ⟨d, rfl⟩ := dateCell_eq_ok h
      simp [hnull, Cell.fits]

end Readers

theorem cellRules_lawful : cellRules.Lawful where
  fits h := (toCell_eq_ok h).1
  null_iff := fun {type v c} h => by
    change c = .null ↔ v.kind? = none ∨ type = .null
    rw [kind?_eq_none_iff]
    exact (toCell_eq_ok h).2

end Json

namespace SheetCell

theorem kind?_eq_none_iff {c : SheetCell} : c.kind? = none ↔ c.isMissing = true := by
  unfold kind?
  cases c <;> grind [isMissing]

@[simp]
theorem isMissing_text (s : String) :
    (SheetCell.text s).isMissing = isMissingMarker (Text.trim s) := rfl

/-- Sheets have the same words for truth values as records. -/
theorem wordValue?_boolWords (s : String) : TextCell.wordValue? boolWords s = TextCell.readBool? s := by
  have hwords : boolWords = TextCell.boolWords := by
    funext b
    cases b <;> rfl
  rw [hwords, TextCell.readBool?]

/-- A text in a sheet is read by type, and each type drops the blanks for itself. What comes of it is what a
reader that drops them first makes of the text. -/
theorem toCell_text (type : ColumnType) (s : String) :
    toCell type (.text s) = TextCell.read s .date type s := by
  simp only [toCell, isMissing_text, TextCell.read]
  refine if_congr Iff.rfl rfl ?_
  cases type with
  | null | utf8 => rfl
  | int64 => simp only [intCell]
  | float64 => cases hread : readBinary64? (Text.trim s) <;> simp only [floatCell, hread]
  | bool =>
    cases hread : TextCell.readBool? (Text.trim s) <;> simp only [boolCell, wordValue?_boolWords, hread]
  | dateTime =>
    rw [readDateTime?_trim]
    cases hread : readDateTime? s <;> simp only [dateCell, hread]

section Readers

variable {type : ColumnType} {v : SheetCell} {c : Cell}

theorem boolCell_eq_ok (h : v.boolCell = .ok c) : ∃ b, c = .bool b := by
  cases v with
  | bool | int | number => exact ⟨_, (Except.ok.inj h).symm⟩
  | text s =>
    simp only [boolCell] at h
    split at h
    case h_1 b _ => exact ⟨b, (Except.ok.inj h).symm⟩
    case h_2 => cases h
  | empty | date | isoDate | duration | fault => cases h

theorem intCell_eq_ok (h : v.intCell = .ok c) : ∃ i, c = .int i := by
  cases v with
  | int i => exact ⟨i, (Except.ok.inj h).symm⟩
  | number x =>
    simp only [intCell] at h
    split at h
    case isTrue => exact ⟨_, (Except.ok.inj h).symm⟩
    case isFalse => cases h
  | text s =>
    simp only [intCell] at h
    obtain ⟨i, -, rfl⟩ := map_eq_ok (mapError_eq_ok.1 h)
    exact ⟨i, rfl⟩
  | empty | bool | date | isoDate | duration | fault => cases h

theorem floatCell_eq_ok (h : v.floatCell = .ok c) : ∃ x, c = .float x := by
  cases v with
  | number | int => exact ⟨_, (Except.ok.inj h).symm⟩
  | text s =>
    simp only [floatCell] at h
    split at h
    case h_1 x _ => exact ⟨x, (Except.ok.inj h).symm⟩
    case h_2 => cases h
  | empty | bool | date | isoDate | duration | fault => cases h

theorem dateCell_eq_ok (h : v.dateCell = .ok c) : ∃ d, c = .dateTime d := by
  cases v with
  | date | isoDate | text =>
    simp only [dateCell] at h
    split at h
    case h_1 d _ => exact ⟨d, (Except.ok.inj h).symm⟩
    case h_2 => cases h
  | empty | bool | number | int | duration | fault => cases h

theorem toCell_eq_ok (h : toCell type v = .ok c) :
    c.fits type = true ∧ (c = .null ↔ v.isMissing = true ∨ type = .null) := by
  unfold toCell at h
  by_cases hmissing : v.isMissing = true
  · rw [if_pos hmissing, Except.ok.injEq] at h
    subst h
    exact ⟨rfl, by simp [hmissing]⟩
  · rw [if_neg hmissing] at h
    cases type with
    | null | utf8 => cases h; simp [hmissing, Cell.fits]
    | bool =>
      obtain ⟨b, rfl⟩ := boolCell_eq_ok h
      simp [hmissing, Cell.fits]
    | int64 =>
      obtain ⟨i, rfl⟩ := intCell_eq_ok h
      simp [hmissing, Cell.fits]
    | float64 =>
      obtain ⟨x, rfl⟩ := floatCell_eq_ok h
      simp [hmissing, Cell.fits]
    | dateTime =>
      obtain ⟨d, rfl⟩ := dateCell_eq_ok h
      simp [hmissing, Cell.fits]

end Readers

theorem cellRules_lawful : cellRules.Lawful where
  fits h := (toCell_eq_ok h).1
  null_iff := fun {type v c} h => by
    change c = .null ↔ v.kind? = none ∨ type = .null
    rw [kind?_eq_none_iff]
    exact (toCell_eq_ok h).2

end SheetCell

end TableReport
