import TableReport.Proofs.Analysis.Findings
import TableReport.Proofs.Calendar.DateTime
import TableReport.Proofs.Reduce.Distinct
import TableReport.Proofs.Table.WellFormed
/-!
# Distinct values in a report

A report lists distinct values as JSON, which has null for every number that is not finite and leaves out
the fraction of a second. So values that are told apart in a column may be written alike: null, NaN and the
infinities, or two dates in the same second.
-/
namespace TableReport

namespace Cell

/-- A cell that is written as null: it has no value, or a number that is not finite. -/
def isWrittenNull : Cell → Bool
  | .null => true
  | .float v => !v.isFinite
  | _ => false

/-- The second that a date and time is in. -/
def second? : Cell → Option DateTime
  | .dateTime v => some v.wholeSecond
  | _ => none

/-- Both cells are written as null, or they are dates in the same second. -/
def WrittenAlike (a b : Cell) : Prop :=
  (a.isWrittenNull = true ∧ b.isWrittenNull = true) ∨
    (a.second?.isSome = true ∧ a.second? = b.second?)

instance (a b : Cell) : Decidable (WrittenAlike a b) :=
  inferInstanceAs (Decidable (_ ∨ _))

variable {type : ColumnType} {a b : Cell}

theorem toJson_float (v : Binary64) :
    (Cell.float v).toJson = if v.isFinite then .float v else .null := rfl

theorem toJson_eq_iff (ha : a.fits type = true) (hb : b.fits type = true) :
    a.toJson = b.toJson ↔ a = b ∨ WrittenAlike a b := by
  cases a <;> cases b
  -- Numbers and null meet in null; dates meet in their second; cells of other types keep apart.
  case float.float v w =>
    cases hv : v.isFinite <;> cases hw : w.isFinite <;>
      simp [toJson_float, WrittenAlike, isWrittenNull, second?, hv, hw]
    all_goals
      rintro rfl
      simp_all
  case null.float w =>
    cases hw : w.isFinite <;>
      simp [toJson, Json.ofBinary64, WrittenAlike, isWrittenNull, second?, hw]
  case float.null v =>
    cases hv : v.isFinite <;>
      simp [toJson, Json.ofBinary64, WrittenAlike, isWrittenNull, second?, hv]
  case dateTime.dateTime v w =>
    simp only [toJson, Json.text.injEq, DateTime.text_eq_iff, WrittenAlike, isWrittenNull, second?,
      Cell.dateTime.injEq]
    constructor
    · intro h
      exact .inr (.inr ⟨rfl, congrArg some h⟩)
    · rintro (rfl | h | ⟨-, h⟩)
      · rfl
      · cases h.1
      · exact Option.some.inj h
  all_goals
    cases type <;> simp_all [fits, toJson, WrittenAlike, isWrittenNull, second?, Int64.toInt_inj]

/-- Only numbers and dates are written alike when they differ. -/
theorem WrittenAlike.eq (h : WrittenAlike a b) (ha : a.fits type = true) (hb : b.fits type = true)
    (hfloat : type ≠ .float64) (hdate : type ≠ .dateTime) : a = b := by
  cases type <;> cases a <;> cases b <;>
    simp_all [fits, WrittenAlike, isWrittenNull, second?]

end Cell

namespace Table

variable {t : Table} {r : Request} {limits : Limits} {i limit : Nat} {c : Cell}
  {found : DistinctValues}

theorem WellFormed.fits_of_mem_unique (ht : t.WellFormed) (h : c ∈ (t.unique i limit).values) :
    c.fits (t.typeAt i) = true :=
  ht.fits_of_mem_column (mem_column_of_mem_unique h)

theorem WellFormed.nodup_toJson_unique_iff (ht : t.WellFormed) :
    ((t.unique i limit).values.map Cell.toJson).Nodup ↔
      (t.unique i limit).values.Pairwise fun a b => ¬ a.WrittenAlike b := by
  have hdistinct : (t.unique i limit).values.Nodup := nodup_keys_unique.of_map
  unfold List.Nodup
  rw [List.pairwise_map]
  constructor
  · intro h
    apply h.imp_of_mem
    intro a b ha hb hne halike
    exact hne ((Cell.toJson_eq_iff (ht.fits_of_mem_unique ha) (ht.fits_of_mem_unique hb)).2
      (.inr halike))
  · intro h
    apply (List.Pairwise.and hdistinct h).imp_of_mem
    intro a b ha hb hab heq
    obtain hsame | halike :=
      (Cell.toJson_eq_iff (ht.fits_of_mem_unique ha) (ht.fits_of_mem_unique hb)).1 heq
    · exact hab.1 hsame
    · exact hab.2 halike

theorem WellFormed.not_writtenAlike_unique (ht : t.WellFormed) (hfloat : t.typeAt i ≠ .float64)
    (hdate : t.typeAt i ≠ .dateTime) :
    (t.unique i limit).values.Pairwise fun a b => ¬ a.WrittenAlike b := by
  have hdistinct : (t.unique i limit).values.Nodup := nodup_keys_unique.of_map
  apply hdistinct.imp_of_mem
  intro a b ha hb hne halike
  exact hne (halike.eq (ht.fits_of_mem_unique ha) (ht.fits_of_mem_unique hb) hfloat hdate)

/-- A report on distinct values has their number and their JSON values. -/
theorem analyze_unique (source : String)
    (hplan : Plan.ofRequest t.schema r limits = .ok (.unique, .unique i))
    (hfound : t.unique i limits.distinct = found) :
    ∃ report, t.analyze source r limits = .success report ∧
      report.result = .object [("unique_count", .ofNat found.count),
        ("values", .list (found.values.map Cell.toJson))] := by
  have hpayload : t.execute limits (.unique i) = .ok (.unique found) := by
    rw [execute, hfound]
  exact ⟨_, analyze_eq_success t limits hplan hpayload, rfl⟩

/-- The values that a report lists have different keys. Their JSON values are different exactly when at
most one of the values is null or not finite, and no two of them are dates in the same second; in columns
of integers, texts and truth values they always are. -/
theorem WellFormed.unique_result_iff (ht : t.WellFormed) (hfound : t.unique i limit = found) :
    (found.values.map Cell.key).Nodup ∧
      (Payload.unique found).toJson t.schema = .object [("unique_count", .ofNat found.count),
        ("values", .list (found.values.map Cell.toJson))] ∧
      ((found.values.map Cell.toJson).Nodup ↔
        found.values.Pairwise fun a b => ¬ a.WrittenAlike b) ∧
      (t.typeAt i ≠ .float64 → t.typeAt i ≠ .dateTime → (found.values.map Cell.toJson).Nodup) ∧
      ∀ source r limits, Plan.ofRequest t.schema r limits = .ok (.unique, .unique i) →
        limits.distinct = limit → ∃ report, t.analyze source r limits = .success report ∧
          report.result = (Payload.unique found).toJson t.schema := by
  subst hfound
  refine ⟨nodup_keys_unique, rfl, ht.nodup_toJson_unique_iff, ?_, ?_⟩
  · intro hfloat hdate
    exact ht.nodup_toJson_unique_iff.2 (ht.not_writtenAlike_unique hfloat hdate)
  · rintro source r limits hplan rfl
    exact analyze_unique source hplan rfl

/-- One null and one of the zeros are listed. -/
theorem unique_result_of_zeros :
    let t : Table := ⟨⟨[⟨"x", .float64⟩]⟩,
      [[.float (-0)], [.null], [.float 0], [.float (.ofNat 1)], [.null]]⟩
    let r : Request := { operation := "unique", column := some "x" }
    let items : List Json := [.float (-0), .null, .float (.ofNat 1)]
    items.Nodup ∧ ∃ report, t.analyze "readings.csv" r {} = .success report ∧
      report.result = .object [("unique_count", .int 3), ("values", .list items)] := by
  intro t r items
  have ht : t.WellFormed := by decide
  have hplan : Plan.ofRequest t.schema r {} = .ok (.unique, .unique 0) := rfl
  have hfound : t.unique 0 100 = ⟨3, [.float (-0), .null, .float (.ofNat 1)]⟩ := by decide +kernel
  obtain ⟨-, hresult, hnodup, -, hreport⟩ := ht.unique_result_iff hfound
  obtain ⟨report, hreport, hresult'⟩ := hreport "readings.csv" r {} hplan rfl
  exact ⟨hnodup.2 (by decide +kernel), report, hreport, hresult'.trans hresult⟩

/-- A report lists two dates in the same second as one text twice, and infinity as null beside null. -/
theorem unique_result_repeated :
    let first : DateTime := ⟨⟨2024, 1, 1, by decide, by decide, by decide⟩,
      ⟨0, 0, 0, 250000000, by decide, by decide, by decide, by decide⟩⟩
    let second : DateTime := ⟨⟨2024, 1, 1, by decide, by decide, by decide⟩,
      ⟨0, 0, 0, 500000000, by decide, by decide, by decide, by decide⟩⟩
    let t : Table := ⟨⟨[⟨"at", .dateTime⟩, ⟨"x", .float64⟩]⟩,
      [[.dateTime first, .null], [.dateTime second, .float (.infinity false)]]⟩
    t.WellFormed ∧
      (∃ report, t.analyze "readings.csv" { operation := "unique", column := some "at" } {} =
          .success report ∧
        report.result = .object [("unique_count", .int 2),
          ("values", .list [.text "2024-01-01 00:00:00", .text "2024-01-01 00:00:00"])]) ∧
      ∃ report, t.analyze "readings.csv" { operation := "unique", column := some "x" } {} =
          .success report ∧
        report.result = .object [("unique_count", .int 2), ("values", .list [.null, .null])] := by
  intro first second t
  have hplan : Plan.ofRequest t.schema { operation := "unique", column := some "at" } {} =
      .ok (.unique, .unique 0) := rfl
  have hplan' : Plan.ofRequest t.schema { operation := "unique", column := some "x" } {} =
      .ok (.unique, .unique 1) := rfl
  have hdates : t.unique 0 100 = ⟨2, [.dateTime first, .dateTime second]⟩ := by decide +kernel
  have hnumbers : t.unique 1 100 = ⟨2, [.null, .float (.infinity false)]⟩ := by decide +kernel
  have hfirst : (Cell.dateTime first).toJson = .text "2024-01-01 00:00:00" :=
    congrArg Json.text (by decide +kernel)
  have hsecond : (Cell.dateTime second).toJson = .text "2024-01-01 00:00:00" :=
    congrArg Json.text (by decide +kernel)
  refine ⟨by decide, ?_, ?_⟩
  · obtain ⟨report, hreport, hresult⟩ := analyze_unique "readings.csv" hplan hdates
    refine ⟨report, hreport, hresult.trans ?_⟩
    rw [List.map_cons, List.map_cons, List.map_nil, hfirst, hsecond]
    rfl
  · obtain ⟨report, hreport, hresult⟩ := analyze_unique "readings.csv" hplan' hnumbers
    exact ⟨report, hreport, hresult⟩

end Table

end TableReport
