import TableReport.Proofs.Json.Integer
import TableReport.Proofs.Load.SheetInference
import TableReport.Proofs.Number.Whole
/-!
# Columns of integers

A text or a JSON number in a column of 64-bit integers is the integer that it denotes, or it is rejected
with its place. The same goes for a cell of a sheet, but for one that holds an integer beyond the range:
it becomes the end of the range. A type that is inferred from the sheets is never that of such a column.
-/
namespace TableReport

/-- A value of a column of integers becomes the one integer that it denotes, or it is rejected with its
place. -/
def CellRules.Exact {α : Type} (rules : CellRules α) (denotes : α → Int → Prop) (v : α) : Prop :=
  ∀ (place : RowPlace) (name : String),
    (∃ i : Int64, place.cell rules ⟨name, .int64⟩ v = .ok (.int i) ∧
      ∀ n, denotes v n ↔ n = i.toInt) ∨
    ∃ problem, place.cell rules ⟨name, .int64⟩ v =
      .error (.value place.number (place.label name) (rules.shown v) problem)

theorem CellRules.exact_iff {α : Type} {rules : CellRules α} {denotes : α → Int → Prop} {v : α} :
    rules.Exact denotes v ↔ ∀ cell, rules.cell .int64 v = .ok cell →
      ∃ i : Int64, cell = .int i ∧ ∀ n, denotes v n ↔ n = i.toInt := by
  constructor
  · intro h cell hcell
    rcases h ⟨0, none⟩ "" with ⟨i, hi, hdenotes⟩ | ⟨problem, hproblem⟩
    · have hsame := hcell.symm.trans (mapError_eq_ok.1 hi)
      exact ⟨i, Except.ok.inj hsame, hdenotes⟩
    · rw [RowPlace.cell, hcell] at hproblem
      cases hproblem
  · intro h place name
    cases hcell : rules.cell .int64 v with
    | error problem => exact .inr ⟨problem, by rw [RowPlace.cell, hcell]; rfl⟩
    | ok cell =>
      obtain ⟨i, rfl, hdenotes⟩ := h cell hcell
      exact .inl ⟨i, mapError_eq_ok.2 hcell, hdenotes⟩

/-! ### Texts -/

/-- A text that denotes an integer once the blanks around it are dropped. -/
def TextCell.DenotesTrimmed (raw : String) (n : Int) : Prop :=
  DenotesInteger (Text.trim raw).toList n

/-- In a column of integers a text is the integer that it denotes. -/
theorem TextCell.denotesTrimmed_of_read {kept raw : String} {notDate : ValueProblem} {cell : Cell}
    (hmarker : isMissingMarker (Text.trim raw) = false)
    (h : TextCell.read kept notDate .int64 raw = .ok cell) :
    ∃ i : Int64, cell = .int i ∧ ∀ n, DenotesTrimmed raw n ↔ n = i.toInt := by
  simp only [TextCell.read, hmarker, Bool.false_eq_true, if_false] at h
  obtain ⟨i, hread, rfl⟩ := map_eq_ok (mapError_eq_ok.1 h)
  have hdenotes := readInt64_eq_ok_iff.1 hread
  exact ⟨i, rfl, fun n => ⟨fun hn => hn.unique hdenotes, fun hn => hn ▸ hdenotes⟩⟩

/-! ### JSON -/

namespace Json

/-- A number and the integer that it is. -/
inductive Denotes : Json → Int → Prop
  | int (i : Int) : Denotes (.int i) i
  | float {x : Binary64} {i : Int} (h : x.IsInteger i) : Denotes (.float x) i

theorem denotes_of_toCell {v : Json} {cell : Cell} (hnull : v.isNull = false)
    (h : toCell .int64 v = .ok cell) :
    ∃ i : Int64, cell = .int i ∧ ∀ n, Denotes v n ↔ n = i.toInt := by
  simp only [toCell, hnull, Bool.false_eq_true, if_false] at h
  cases v with
  | int i =>
    simp only [intCell] at h
    split_ifs at h with hfits
    refine ⟨_, (Except.ok.inj h).symm, fun n => ?_⟩
    rw [toInt_ofInt_of_fits hfits]
    constructor
    · rintro ⟨⟩
      rfl
    · rintro rfl
      exact .int n
  | null | bool | float | text | list | object => cases h

end Json

/-! ### Sheets -/

namespace SheetCell

/-- The integer that stands in a cell. -/
inductive Denotes : SheetCell → Int → Prop
  | int (v : Int64) : Denotes (.int v) v.toInt
  | number {x : Binary64} {i : Int} (h : x.IsInteger i) : Denotes (.number x) i
  | text {s : String} {i : Int} (h : TextCell.DenotesTrimmed s i) : Denotes (.text s) i

/-- A number that is an integer of more than 64 bits. -/
def BeyondInt64 (c : SheetCell) : Prop :=
  ∃ x i, c = .number x ∧ x.IsInteger i ∧ fitsInt64 i = false

/-- It becomes an end of the range. -/
theorem toCell_of_beyondInt64 {x : Binary64} {i : Int} (h : x.IsInteger i) (hi : fitsInt64 i = false) :
    toCell .int64 (.number x) = .ok (.int (if i < 0 then Int64.minValue else Int64.maxValue)) := by
  have hmissing : (SheetCell.number x).isMissing = false := Binary64.isNaN_of_isFinite h.1
  simp only [toCell, hmissing, Bool.false_eq_true, if_false, intCell, h.isWhole, if_true]
  refine congrArg (fun v => Except.ok (Cell.int v)) (Int64.toInt_inj.1 ?_)
  rw [h.toInt_truncate]
  have hends : Int64.minValue.toInt = lowestInt64 ∧ Int64.maxValue.toInt = highestInt64 := by decide
  have hrange : lowestInt64 ≤ highestInt64 ∧ lowestInt64 < 0 ∧ 0 ≤ highestInt64 := by decide
  simp only [fitsInt64, Bool.and_eq_false_iff, decide_eq_false_iff_not] at hi
  split <;> omega

/-- A cell is exact unless it holds an integer beyond the range. -/
theorem exact_iff_not_beyondInt64 {c : SheetCell} (hmissing : c.isMissing = false) :
    cellRules.Exact Denotes c ↔ ¬ c.BeyondInt64 := by
  rw [CellRules.exact_iff]
  constructor
  · rintro h ⟨x, i, rfl, hx, hi⟩
    obtain ⟨v, -, hdenotes⟩ := h _ (toCell_of_beyondInt64 hx hi)
    rw [(hdenotes i).1 (.number hx), fitsInt64_toInt] at hi
    cases hi
  · intro h cell hcell
    replace hcell : toCell .int64 c = .ok cell := hcell
    cases c with
    | int v =>
      refine ⟨v, (Except.ok.inj hcell).symm, fun n => ⟨?_, ?_⟩⟩
      · rintro ⟨⟩
        rfl
      · rintro rfl
        exact .int v
    | number x =>
      simp only [toCell, hmissing, Bool.false_eq_true, if_false, intCell] at hcell
      split_ifs at hcell with hwhole
      have hx : x.IsInteger (x.withSign x.wholePart) := Binary64.isInteger_iff.2 ⟨hwhole, rfl⟩
      have hi : fitsInt64 (x.withSign x.wholePart) = true := by
        by_contra hi
        exact h ⟨x, _, rfl, hx, by simpa using hi⟩
      refine ⟨_, (Except.ok.inj hcell).symm, fun n => ?_⟩
      rw [hx.toInt_truncate_eq_iff.2 hi]
      constructor
      · rintro ⟨⟩
        next hn => exact hn.unique hx
      · rintro rfl
        exact .number hx
    | text s =>
      rw [toCell_text] at hcell
      rw [isMissing_text] at hmissing
      obtain ⟨i, rfl, hdenotes⟩ := TextCell.denotesTrimmed_of_read hmissing hcell
      refine ⟨i, rfl, fun n => ⟨?_, fun hn => .text ((hdenotes n).2 hn)⟩⟩
      rintro ⟨⟩
      next hn => exact (hdenotes n).1 hn
    | empty | fault => cases hmissing
    | bool | date | isoDate | duration => cases hcell

/-- What looks like an integer is not beyond the range. -/
theorem not_beyondInt64_of_kind? {c : SheetCell} (h : c.kind? = some .int) : ¬ c.BeyondInt64 := by
  rintro ⟨x, i, rfl, hx, hi⟩
  obtain ⟨-, rfl⟩ := Binary64.isInteger_iff.1 hx
  have hlooks : looksInt x = true := by
    by_contra hnot
    simp [kind?, hnot] at h
  have hpart := of_decide_eq_true (Bool.and_eq_true_iff.1 hlooks).2
  have habs := x.natAbs_withSign x.wholePart
  have hlimit : 9 * Nat.pow 10 15 = 9000000000000000 := by decide
  have hends : lowestInt64 = -9223372036854775808 ∧ highestInt64 = 9223372036854775807 := ⟨rfl, rfl⟩
  simp only [fitsInt64, Bool.and_eq_false_iff, decide_eq_false_iff_not] at hi
  omega

end SheetCell

/-! ### Exactness -/

/-- No integer is changed on the way into a column of integers but one in a sheet that is beyond the range,
and that only under a schema. -/
theorem integer_columns_exact (raw : String) (v : Json) (c : SheetCell) (w : Workbook)
    (selection : SheetSelection) :
    (isMissingMarker (Text.trim raw) = false → Csv.cellRules.Exact TextCell.DenotesTrimmed raw) ∧
    (v.isNull = false → Json.cellRules.Exact Json.Denotes v) ∧
    (∀ cs rest i, Json.number? cs = some (.int i, rest) →
      ∃ text, cs = text ++ rest ∧ DenotesInteger text i) ∧
    (c.isMissing = false →
      (SheetCell.cellRules.Exact SheetCell.Denotes c ↔ ¬ c.BeyondInt64)) ∧
    ∀ t, w.table selection none = .ok t →
      ∃ sheets, List.Forall₂ (fun name s => w.sheet name = .ok s)
          (selection.select w.sheetNames none) sheets ∧
        ∀ (i : Nat) (column : String), t.schema.names[i]? = some column → t.typeAt i = .int64 →
          ∀ cell ∈ Workbook.cellsUnder sheets column, cell.isMissing = false →
            SheetCell.cellRules.Exact SheetCell.Denotes cell := by
  refine ⟨fun hmarker => ?_, fun hnull => ?_, fun _ _ _ => Json.denotesInteger_of_number?,
    SheetCell.exact_iff_not_beyondInt64, fun t h => ?_⟩
  · refine CellRules.exact_iff.2 fun cell hcell => ?_
    have hread : TextCell.read (Text.trim raw) .dateText .int64 raw = .ok cell := hcell
    exact TextCell.denotesTrimmed_of_read hmarker hread
  · exact CellRules.exact_iff.2 fun _ => Json.denotes_of_toCell hnull
  · obtain ⟨sheets, hsheets, htypes⟩ := Workbook.exists_typeAt_of_table h
    refine ⟨sheets, hsheets, fun i column hi htype c hc hmissing => ?_⟩
    rw [htypes i column hi] at htype
    apply (SheetCell.exact_iff_not_beyondInt64 hmissing).2
    apply SheetCell.not_beyondInt64_of_kind?
    cases hkind : c.kind? with
    | none => rw [SheetCell.kind?_eq_none_iff.1 hkind] at hmissing; cases hmissing
    | some kind =>
      have hfits := Workbook.fits_inferredType hc kind hkind
      rw [htype] at hfits
      cases kind with
      | int => rfl
      | _ => cases hfits

/-- A text with blanks and a sign, the lowest integer in JSON, and a sheet of whole numbers without a
schema. -/
theorem integer_columns_exact_of_whole_numbers :
    let s : Sheet := ⟨"a", [[.text "n"], [.number (.ofNat 8999999999999999)], [.int (-3)], [.text "NA"]]⟩
    let w : Workbook := ⟨.xlsx, [s]⟩
    let t : Table := ⟨⟨[⟨"n", .int64⟩]⟩, [[.int 8999999999999999], [.int (-3)], [.null]]⟩
    Csv.cellRules.Exact TextCell.DenotesTrimmed " +042 " ∧
      Json.number? "-9223372036854775808,".toList = some (.int (-9223372036854775808), [',']) ∧
      DenotesInteger "-9223372036854775808".toList (-9223372036854775808) ∧
      Json.cellRules.Exact Json.Denotes (.int (-9223372036854775808)) ∧
      w.table .first none = .ok t ∧
      ∀ c ∈ Workbook.cellsUnder [s] "n", c.isMissing = false →
        SheetCell.cellRules.Exact SheetCell.Denotes c := by
  intro s w t
  obtain ⟨htext, hjson, hliteral, -, hinferred⟩ :=
    integer_columns_exact " +042 " (.int (-9223372036854775808)) .empty w .first
  have hnumber : Json.number? "-9223372036854775808,".toList =
      some (.int (-9223372036854775808), [',']) := by rfl
  have hdenotes : DenotesInteger "-9223372036854775808".toList (-9223372036854775808) := by
    obtain ⟨text, happend, hdenotes⟩ := hliteral _ _ _ hnumber
    have hsame : "-9223372036854775808".toList ++ [','] = text ++ [','] := happend
    rwa [List.append_cancel_right hsame]
  have htable : w.table .first none = .ok t := by decide +kernel
  obtain ⟨sheets, hsheets, hexact⟩ := hinferred t htable
  have hselected : sheets = [s] := by
    obtain ⟨s', rest, hs', hrest, rfl⟩ := List.forall₂_cons_left_iff.1 hsheets
    obtain rfl := List.forall₂_nil_left_iff.1 hrest
    have hs : w.sheet "a" = .ok s := by decide +kernel
    rw [Except.ok.inj (hs'.symm.trans hs)]
  rw [hselected] at hexact
  exact ⟨htext (by decide +kernel), hnumber, hdenotes, hjson rfl, htable,
    hexact 0 "n" rfl (by decide +kernel)⟩

/-- The least of the integers that are beyond the range is read as the greatest that is not. -/
theorem integer_beyond_range_inexact :
    ¬ ∀ c : SheetCell, c.isMissing = false → SheetCell.cellRules.Exact SheetCell.Denotes c := by
  let x := Binary64.ofNat 9223372036854775808
  have hx : x.IsInteger 9223372036854775808 :=
    Binary64.isInteger_iff.2 ⟨by decide +kernel, by decide +kernel⟩
  have hcell : SheetCell.toCell .int64 (.number x) = .ok (.int Int64.maxValue) :=
    SheetCell.toCell_of_beyondInt64 hx rfl
  intro h
  obtain ⟨v, hv, hdenotes⟩ := CellRules.exact_iff.1 (h (.number x) (by decide +kernel)) _ hcell
  obtain rfl := Cell.int.inj hv
  exact absurd ((hdenotes _).1 (.number hx)) (by decide)

end TableReport
