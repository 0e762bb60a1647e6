import TableReport.Proofs.Analysis.Findings
import TableReport.Proofs.Analysis.Validation
import TableReport.Proofs.Calendar.DateTime
import TableReport.Proofs.Json.Members
import TableReport.Proofs.Number.Integer
import TableReport.Proofs.Number.Layout
/-!
# Groups in a report

A report lists its groups by the text of their keys. Integers, numbers, truth values and texts are told
apart by it; dates and times are told apart up to the second only. So a report has all groups unless two
of them have keys in the same second.
-/
namespace TableReport

namespace Cell

/-- The cell without a fraction of a second. -/
def wholeSecond : Cell → Cell
  | .dateTime v => .dateTime v.wholeSecond
  | c => c

variable {type : ColumnType} {a b : Cell}

theorem IsOf.wholeSecond_eq (h : IsOf type a) (htype : type ≠ .dateTime) : a.wholeSecond = a := by
  cases h <;> first | rfl | exact absurd rfl htype

/-- What the text of a cell says. -/
theorem IsOf.shown_eq_iff (ha : IsOf type a) (hb : IsOf type b) (hapresent : a.isMissing = false)
    (hbpresent : b.isMissing = false) : a.shown = b.shown ↔ a.wholeSecond = b.wholeSecond := by
  cases ha <;> cases hb
  case int.int v w =>
    refine ⟨fun h => ?_, congrArg shown⟩
    have hread := readInt64_toString v
    rw [show toString v.toInt = toString w.toInt from h, readInt64_toString w] at hread
    exact congrArg Cell.int (Except.ok.inj hread).symm
  case float.float v w =>
    exact ⟨fun h => congrArg Cell.float (Binary64.text_injective hapresent hbpresent h), congrArg shown⟩
  case bool.bool v w => cases v <;> cases w <;> decide
  case text.text v w => exact ⟨congrArg Cell.text, congrArg shown⟩
  case dateTime.dateTime v w =>
    exact DateTime.text_eq_iff.trans ⟨congrArg Cell.dateTime, Cell.dateTime.inj⟩

end Cell

namespace Table

variable {t : Table} {r : Request} {limits : Limits} {key value : Nat} {groups : List Group}

/-- The texts of keys are distinct when the keys are, up to the second. -/
theorem WellFormed.nodup_shown_iff (ht : t.WellFormed) (h : t.groupSum key value = .ok groups) :
    (groups.map fun g => g.key.shown).Nodup ↔ (groups.map fun g => g.key.wholeSecond).Nodup := by
  unfold List.Nodup
  rw [List.pairwise_map, List.pairwise_map]
  refine List.Pairwise.iff_of_mem fun {g g'} hg hg' => not_congr ?_
  obtain ⟨hkey, hpresent⟩ := ht.groupSum_key h hg
  obtain ⟨hkey', hpresent'⟩ := ht.groupSum_key h hg'
  exact hkey.shown_eq_iff hkey' hpresent hpresent'

theorem WellFormed.nodup_wholeSecond (ht : t.WellFormed) (h : t.groupSum key value = .ok groups)
    (htype : t.typeAt key ≠ .dateTime) : (groups.map fun g => g.key.wholeSecond).Nodup := by
  have hkeys : groups.map (fun g => g.key.wholeSecond) = groups.map Group.key :=
    List.map_congr_left fun g hg => (ht.groupSum_key h hg).1.wholeSecond_eq htype
  rw [hkeys]
  refine (ht.groupSum_ascending h).imp_of_mem fun {a b} ha _ hlt heq => ?_
  obtain ⟨g, hg, rfl⟩ := List.mem_map.1 ha
  have hkey := (ht.groupSum_key h hg).1
  rw [← heq] at hlt
  exact ((hkey.order_lt_iff hkey).1 hlt).2 rfl

/-- A report on groups has their texts and totals as the members of its result. -/
theorem analyze_groupBy (source : String)
    (hplan : Plan.ofRequest t.schema r limits = .ok (.groupBy, .groupBy key value))
    (h : t.groupSum key value = .ok groups) : ∃ report, t.analyze source r limits = .success report ∧
      report.result = .ofPairs (groups.map fun g => (g.key.shown, g.total.toJson)) := by
  have hpayload : t.execute limits (.groupBy key value) = .ok (.groups groups) :=
    congrArg (Except.map Payload.groups) h
  exact ⟨_, analyze_eq_success t limits hplan hpayload, rfl⟩

/-- The groups of a request stand in the order of their keys, one for each key, with the total of the
rows that have it. The report has one entry for each group with its total, in that order, exactly when
no two keys agree up to the fraction of a second. Keys that are not dates never do. -/
theorem WellFormed.groupBy_result_iff (ht : t.WellFormed) (source : String)
    (hplan : Plan.ofRequest t.schema r limits = .ok (.groupBy, .groupBy key value))
    (h : t.groupSum key value = .ok groups) :
    (groups.map Group.key).Pairwise (fun a b => a.order b = .lt) ∧
      (∀ k, k ∈ groups.map Group.key ↔ t.groupCells key value k ≠ []) ∧
      (∀ g ∈ groups, (Total.ofCells (t.typeAt value) (t.groupCells key value g.key)).finish
        (t.nameAt value) = .ok g.total) ∧
      ∃ report, t.analyze source r limits = .success report ∧
        (report.result = .object (groups.map fun g => (g.key.shown, g.total.toJson)) ↔
          (groups.map fun g => g.key.wholeSecond).Nodup) ∧
        (t.typeAt key ≠ .dateTime → (groups.map fun g => g.key.wholeSecond).Nodup) := by
  obtain ⟨report, hreport, hresult⟩ := analyze_groupBy source hplan h
  refine ⟨ht.groupSum_ascending h, ht.mem_groupSum_keys_iff h, fun _ => ht.groupSum_total h, report,
    hreport, ?_, ht.nodup_wholeSecond h⟩
  -- Members are lost exactly when two of them have the same name.
  have hnames : (groups.map fun g => g.key.shown) =
      (groups.map fun g => (g.key.shown, g.total.toJson)).map Prod.fst := by
    rw [List.map_map]
    rfl
  rw [hresult, ← ht.nodup_shown_iff h, hnames, ← Json.Members.ofList_eq_self_iff]
  exact ⟨Json.object.inj, congrArg Json.object⟩

/-- Keys in different seconds both have their entry. -/
theorem groupBy_result_next_second :
    let first : DateTime := ⟨⟨2024, 1, 1, by decide, by decide, by decide⟩,
      ⟨0, 0, 0, 250000000, by decide, by decide, by decide, by decide⟩⟩
    let second : DateTime := ⟨⟨2024, 1, 1, by decide, by decide, by decide⟩,
      ⟨0, 0, 1, 500000000, by decide, by decide, by decide, by decide⟩⟩
    let t : Table := ⟨⟨[⟨"at", .dateTime⟩, ⟨"n", .int64⟩]⟩,
      [[.dateTime second, .int 2], [.dateTime first, .int 1]]⟩
    let r : Request := { operation := "group_by", groupBy := some "at", aggregate := some "n" }
    ∃ report, t.analyze "readings.csv" r {} = .success report ∧
      report.result = .object [("2024-01-01 00:00:00", .int 1), ("2024-01-01 00:00:01", .int 2)] := by
  intro first second t r
  have ht : t.WellFormed := by decide
  have hplan : Plan.ofRequest t.schema r {} = .ok (.groupBy, .groupBy 0 1) := rfl
  have hgroups : t.groupSum 0 1 = .ok [⟨.dateTime first, .int 1⟩, ⟨.dateTime second, .int 2⟩] := by
    decide +kernel
  have hfirst : (Cell.dateTime first).shown = "2024-01-01 00:00:00" := by decide +kernel
  have hsecond : (Cell.dateTime second).shown = "2024-01-01 00:00:01" := by decide +kernel
  obtain ⟨-, -, -, report, hreport, hresult, -⟩ := ht.groupBy_result_iff "readings.csv" hplan hgroups
  refine ⟨report, hreport, (hresult.2 (by decide)).trans ?_⟩
  rw [List.map_cons, List.map_cons, List.map_nil, hfirst, hsecond]
  rfl

/-- Of two groups in the same second, the report has the total of the later one only. -/
theorem groupBy_result_same_second :
    let first : DateTime := ⟨⟨2024, 1, 1, by decide, by decide, by decide⟩,
      ⟨0, 0, 0, 250000000, by decide, by decide, by decide, by decide⟩⟩
    let second : DateTime := ⟨⟨2024, 1, 1, by decide, by decide, by decide⟩,
      ⟨0, 0, 0, 500000000, by decide, by decide, by decide, by decide⟩⟩
    let t : Table := ⟨⟨[⟨"at", .dateTime⟩, ⟨"n", .int64⟩]⟩,
      [[.dateTime first, .int 1], [.dateTime second, .int 2]]⟩
    let r : Request := { operation := "group_by", groupBy := some "at", aggregate := some "n" }
    t.WellFormed ∧
      t.groupSum 0 1 = .ok [⟨.dateTime first, .int 1⟩, ⟨.dateTime second, .int 2⟩] ∧
        ∃ report, t.analyze "readings.csv" r {} = .success report ∧
          report.result = .object [("2024-01-01 00:00:00", .int 2)] := by
  intro first second t r
  have hplan : Plan.ofRequest t.schema r {} = .ok (.groupBy, .groupBy 0 1) := rfl
  have hgroups : t.groupSum 0 1 = .ok [⟨.dateTime first, .int 1⟩, ⟨.dateTime second, .int 2⟩] := by
    decide +kernel
  have hfirst : (Cell.dateTime first).shown = "2024-01-01 00:00:00" := by decide +kernel
  have hsecond : (Cell.dateTime second).shown = "2024-01-01 00:00:00" := by decide +kernel
  obtain ⟨report, hreport, hresult⟩ := analyze_groupBy "readings.csv" hplan hgroups
  refine ⟨by decide, hgroups, report, hreport, hresult.trans ?_⟩
  rw [List.map_cons, List.map_cons, List.map_nil, hfirst, hsecond]
  rfl

end Table

end TableReport
