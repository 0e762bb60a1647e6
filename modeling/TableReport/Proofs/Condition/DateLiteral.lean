import TableReport.Analysis.Report
import TableReport.Proofs.Calendar.ReadBack
import TableReport.Proofs.Condition.ByName
import TableReport.Proofs.Table.CellOrder
/-!
# Dates as they are shown

A date that was read from a text can be copied from a result, or from the name of a group, into a text or
a condition: it is the same date there, but for the fraction of its second.
-/
namespace TableReport

namespace DateTime

variable {s : String} {d : DateTime}

theorem wholeSecond_of_nano_eq_zero (h : d.clock.nano = 0) : d.wholeSecond = d := by
  obtain ⟨date, ⟨hour, minute, second, nano, _, _, _, _⟩⟩ := d
  cases h
  rfl

end DateTime

namespace Condition

variable {schema : Schema} {name : String} {row : Row} {s : String} {d e : DateTime}

/-- A text that denotes a date, opposite a column of dates, is bound, and compares as that date. -/
theorem holdsIn_date_literal (htype : schema.typeNamed name = some .dateTime)
    (hcell : Schema.cellUnder name schema.fields row = .dateTime e) (hread : readDateTime? s = some d)
    (op : Comparison) :
    holdsIn schema row (.compare (.column name) op (.literal (.text s))) = op.holds (e.order d) ∧
      holdsIn schema row (.compare (.literal (.text s)) op (.column name)) = op.holds (d.order e) := by
  have hdenoted : denoted schema row (.literal (.text s)) (.column name) = .dateTime d := by
    simp only [denoted, columnType?, htype, hread, if_true]
  have hcolumn : denoted schema row (.column name) (.literal (.text s)) = .dateTime e := hcell
  simp only [holdsIn, hdenoted, hcolumn]
  exact ⟨rfl, rfl⟩

theorem bind_date_literal (htype : schema.typeNamed name = some .dateTime) (op : Comparison) :
    (∃ p, bind schema (.compare (.column name) op (.literal (.text s))) = .ok p) ∧
      ∃ p, bind schema (.compare (.literal (.text s)) op (.column name)) = .ok p := by
  have hname : name ∈ schema.names := by
    by_contra hname
    rw [Schema.typeNamed_eq_none.2 hname] at htype
    cases htype
  constructor
  all_goals
    apply bind_isOk_iff.2
    simp [places, Place.accepted, hname]

end Condition

namespace DateTime

variable {s : String} {d : DateTime}

/-- What is shown of a date that was read denotes the start of its second. A date without a fraction of a
second is denoted itself, and equals its own cell in a condition. -/
theorem shown_reads_back (h : readDateTime? s = some d) :
    (0 ≤ d.date.year ∧ d.date.year ≤ 9999) ∧
    (∃ shown, (Cell.dateTime d).toJson = .text shown ∧ (Cell.dateTime d).shown = shown ∧
      readDateTime? shown = some d.wholeSecond) ∧
    (d.clock.nano = 0 → readDateTime? d.text = some d ∧
      ∀ (schema : Schema) (name : String) (row : Row), schema.typeNamed name = some .dateTime →
        Schema.cellUnder name schema.fields row = .dateTime d →
          ∀ e ∈ [Condition.compare (.column name) .eq (.literal (.text d.text)),
              Condition.compare (.literal (.text d.text)) .eq (.column name)],
            ∃ p, e.bind schema = .ok p ∧ p.test row = true) := by
  have hyear := year_of_readDateTime? h
  have hback := readDateTime?_text hyear
  refine ⟨hyear, ⟨d.text, rfl, rfl, hback⟩, ?_⟩
  intro hnano
  rw [wholeSecond_of_nano_eq_zero hnano] at hback
  refine ⟨hback, ?_⟩
  intro schema name row htype hcell
  obtain ⟨⟨p, hp⟩, ⟨q, hq⟩⟩ := Condition.bind_date_literal htype .eq
  obtain ⟨hholds, hholds'⟩ := Condition.holdsIn_date_literal htype hcell hback .eq
  have hself : Comparison.eq.holds (d.order d) = true := by
    rw [order_eq_iff.2 rfl]
    rfl
  rw [List.forall_mem_cons, List.forall_mem_singleton]
  constructor
  · exact ⟨p, hp, by rw [(Condition.test_of_bind hp).2, hholds, hself]⟩
  · exact ⟨q, hq, by rw [(Condition.test_of_bind hq).2, hholds', hself]⟩

/-- A leap second with a fraction, and one without. -/
theorem shown_reads_back_leap_second :
    (∃ d, readDateTime? " 2016-12-31T23:59:60.25" = some d ∧ d.clock.nano = 250000000 ∧
      d.text = "2016-12-31 23:59:60" ∧ readDateTime? "2016-12-31 23:59:60" = some d.wholeSecond) ∧
    ∃ d, readDateTime? "2016-12-31 23:59:60" = some d ∧ ∃ p,
      Condition.bind ⟨[⟨"day", .dateTime⟩]⟩
        (.compare (.column "day") .eq (.literal (.text "2016-12-31 23:59:60"))) = .ok p ∧
      p.test [.dateTime d] = true := by
  constructor
  · have hshown : (readDateTime? " 2016-12-31T23:59:60.25").map (fun d => (d.text, d.clock.nano)) =
        some ("2016-12-31 23:59:60", 250000000) := by decide +kernel
    obtain ⟨d, hd, htext⟩ := Option.map_eq_some_iff.1 hshown
    obtain ⟨htext, hnano⟩ := Prod.mk.inj htext
    obtain ⟨-, ⟨shown, -, hcell, hback⟩, -⟩ := shown_reads_back hd
    have hsame : shown = "2016-12-31 23:59:60" := hcell.symm.trans htext
    exact ⟨d, hd, hnano, htext, hsame ▸ hback⟩
  · have hshown : (readDateTime? "2016-12-31 23:59:60").map (fun d => (d.text, d.clock.nano)) =
        some ("2016-12-31 23:59:60", 0) := by decide +kernel
    obtain ⟨d, hd, htext⟩ := Option.map_eq_some_iff.1 hshown
    obtain ⟨htext, hnano⟩ := Prod.mk.inj htext
    obtain ⟨-, hcondition⟩ := (shown_reads_back hd).2.2 hnano
    refine ⟨d, hd, ?_⟩
    rw [← htext]
    exact hcondition ⟨[⟨"day", .dateTime⟩]⟩ "day" [.dateTime d] rfl rfl _ List.mem_cons_self

end DateTime

end TableReport
