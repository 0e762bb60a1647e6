import TableReport.Proofs.Calendar.Reading
import TableReport.Proofs.Load.Inference
import TableReport.Proofs.Load.Loaders
import TableReport.Proofs.Load.MemberNames
import TableReport.Proofs.Number.Reading
/-!
# Inference from texts and JSON values

What a text looks like is tested in one order, and what a column makes of it by a test of its own. The
tests agree because the texts of integers are texts of numbers, and no date is the text of a number or
a word for a truth value.
-/
namespace TableReport

namespace TextCell

variable {raw : String} {kind : CellKind}

/-- A word that begins with a letter is no text that begins with a digit. -/
theorem isWord_eq_false {s word : String} {d : Char} {rest : List Char} (hs : s.toList = d :: rest)
    (hd : d.isDigit = true) (hword : ∀ c ∈ word.toList.head?, c.isDigit = false) :
    isWord s word = false := by
  unfold isWord
  rw [beq_eq_false_iff_ne]
  intro hlower
  rw [← hlower, Text.lowerAscii, String.toList_ofList, hs, List.map_cons, toLower_of_isDigit hd] at hword
  rw [hword d rfl] at hd
  cases hd

theorem kind?_of_readDateTime? {d : DateTime} (hmissing : isMissingMarker (Text.trim raw) = false)
    (h : readDateTime? (Text.trim raw) = some d) : kind? raw = some .dateTime := by
  obtain ⟨ds, rest, hne, hds, hchars⟩ := digits_dash_of_readDateTime? h
  rw [Text.trim_trim] at hchars
  have hnumber : readBinary64? (Text.trim raw) = none := readBinary64?_digits_dash hne hds hchars
  have hinteger : (readInt64 (Text.trim raw)).isOk = false := by
    cases hread : readInt64 (Text.trim raw) with
    | error e => rfl
    | ok v =>
      obtain ⟨x, hx⟩ := exists_readBinary64?_of_readInt64 hread
      rw [hnumber] at hx
      cases hx
  cases ds with
  | nil => exact absurd rfl hne
  | cons c ds =>
    have hc : c.isDigit = true := hds c List.mem_cons_self
    have htrue : isWord (Text.trim raw) "true" = false := isWord_eq_false hchars hc (by simp)
    have hfalse : isWord (Text.trim raw) "false" = false := isWord_eq_false hchars hc (by simp)
    simp [kind?, hmissing, hinteger, hnumber, htrue, hfalse, h]

theorem isOk_readInt64_iff (h : kind? raw = some kind) :
    (readInt64 (Text.trim raw)).isOk = true ↔ kind = .int := by
  unfold kind? at h
  grind

theorem isSome_readBinary64?_iff (h : kind? raw = some kind) :
    (readBinary64? (Text.trim raw)).isSome = true ↔ kind = .int ∨ kind = .float := by
  have hint := isOk_readInt64_iff h
  constructor
  · intro hfloat
    unfold kind? at h
    grind
  · rintro (rfl | rfl)
    · obtain ⟨v, hv⟩ := isOk_iff_exists.1 (hint.2 rfl)
      rw [Option.isSome_iff_exists]
      exact exists_readBinary64?_of_readInt64 hv
    · unfold kind? at h
      grind

theorem isSome_readDateTime?_iff (h : kind? raw = some kind) :
    (readDateTime? (Text.trim raw)).isSome = true ↔ kind = .dateTime := by
  constructor
  · intro hdate
    obtain ⟨d, hd⟩ := Option.isSome_iff_exists.1 hdate
    have hmissing : isMissingMarker (Text.trim raw) = false := by
      rw [Bool.eq_false_iff, ne_eq, ← kind?_eq_none_iff, h]
      simp
    rw [kind?_of_readDateTime? hmissing hd] at h
    exact (Option.some.inj h).symm
  · rintro rfl
    unfold kind? at h
    grind

/-- A text becomes a cell of just those types that hold what it looks like. Only a column of truth
values takes more, as the digits one and zero count as words there. -/
theorem exists_read_iff {kept : String} {notDate : ValueProblem} {type : ColumnType}
    (h : kind? raw = some kind) (htype : type ≠ .bool) :
    (∃ c, read kept notDate type raw = .ok c) ↔ kind.fits type = true := by
  have hmissing : ¬isMissingMarker (Text.trim raw) = true := by
    rw [← kind?_eq_none_iff, h]
    simp
  have hint := isOk_readInt64_iff h
  have hfloat := isSome_readBinary64?_iff h
  have hdate := isSome_readDateTime?_iff h
  simp only [read, if_neg hmissing]
  cases type with
  | null | utf8 => simp [CellKind.fits]
  | bool => exact absurd rfl htype
  | int64 =>
    simp only [mapError_eq_ok, exists_map_eq_ok_iff, ← isOk_iff_exists, hint]
    simp [CellKind.fits]
  | float64 =>
    cases hread : readBinary64? (Text.trim raw) with
    | none => simpa [hread, CellKind.fits] using hfloat
    | some x => simpa [hread, CellKind.fits] using hfloat
  | dateTime =>
    cases hread : readDateTime? (Text.trim raw) with
    | none => simpa [hread, CellKind.fits] using hdate
    | some d => simpa [hread, CellKind.fits] using hdate

theorem exists_readBool?_of_kind? (h : kind? raw = some .bool) :
    ∃ b, readBool? (Text.trim raw) = some b := by
  have hword : isWord (Text.trim raw) "true" = true ∨ isWord (Text.trim raw) "false" = true := by
    unfold kind? at h
    grind
  rcases hword with hword | hword
  · exact ⟨true, by simp [readBool?, wordValue?, beq_iff_eq.1 hword, boolWords]⟩
  · exact ⟨false, by simp [readBool?, wordValue?, beq_iff_eq.1 hword, boolWords]⟩

theorem exists_read_of_fits {kept : String} {notDate : ValueProblem} {type : ColumnType}
    (h : kind? raw = some kind) (hfits : kind.fits type = true) :
    ∃ c, read kept notDate type raw = .ok c := by
  by_cases hbool : type = .bool
  · subst hbool
    obtain rfl : kind = .bool := by simpa [CellKind.fits] using hfits
    obtain ⟨b, hb⟩ := exists_readBool?_of_kind? h
    have hmissing : ¬isMissingMarker (Text.trim raw) = true := by
      rw [← kind?_eq_none_iff, h]
      simp
    exact ⟨.bool b, by simp [read, hmissing, hb]⟩
  · exact (exists_read_iff h hbool).2 hfits

theorem read_of_missing {kept : String} {notDate : ValueProblem} {type : ColumnType}
    (h : kind? raw = none) : read kept notDate type raw = .ok .null := by
  simp [read, kind?_eq_none_iff.1 h]

end TextCell

namespace Csv

theorem cellRules_sound : cellRules.Sound where
  missing := fun {type raw} h => by
    dsimp only [cellRules] at h ⊢
    exact ⟨.null, TextCell.read_of_missing h⟩
  present := fun {type raw kind} h hfits => by
    dsimp only [cellRules] at h ⊢
    exact TextCell.exists_read_of_fits h hfits

namespace Document

variable {d : Document} {t : Table} {i : Nat}

/-- A record has a text in a column that is there and that a type rejects. -/
def HasMisfit (d : Document) (type : ColumnType) (i : Nat) : Prop :=
  ∃ fields ∈ d.records, isMissingMarker (Text.trim (fields.getD i "")) = false ∧
    ∃ problem, cellRules.cell type (fields.getD i "") = .error problem

theorem mem_values_rows {positions : List Nat} {values : List String} :
    values ∈ (d.rows positions).map SourceRow.values ↔
      ∃ fields ∈ d.records, positions.map (fields.getD · "") = values := by
  rw [values_rows, List.mem_map]

/-- A type that does not hold all that the inferred type holds rejects a text of the column. -/
theorem hasMisfit_of_fits (kind : CellKind) (h : d.table none = .ok t) (hi : i < d.headers.length)
    (hpresent : t.typeAt i ≠ .null) {type : ColumnType} (hbool : type ≠ .bool)
    (hkind : kind.fits (t.typeAt i) = true) (htype : kind.fits type = false) : d.HasMisfit type i := by
  rw [CellRules.typeAt_of_inferTable h hi] at hpresent hkind
  have hne := mt ColumnType.ofKinds_eq_null_iff.2 hpresent
  obtain ⟨k, hk, hfits⟩ := ColumnType.exists_not_fits hne hkind htype
  obtain ⟨values, hvalues, raw, hraw, hk⟩ := CellRules.mem_kindsAt.1 hk
  obtain ⟨fields, hfields, rfl⟩ := mem_values_rows.1 hvalues
  obtain rfl : fields.getD i "" = raw := by
    simpa [hi] using hraw
  dsimp only [cellRules] at hk
  refine ⟨fields, hfields, ?_, ?_⟩
  · rw [Bool.eq_false_iff, ne_eq, ← TextCell.kind?_eq_none_iff, hk]
    simp
  · dsimp only [cellRules]
    cases hread : TextCell.read (Text.trim (fields.getD i "")) .dateText type (fields.getD i "") with
    | error problem => exact ⟨problem, rfl⟩
    | ok c =>
      rw [(TextCell.exists_read_iff hk hbool).1 ⟨c, hread⟩] at hfits
      cases hfits

end Document

end Csv

namespace Json

theorem exists_toCell_of_fits {v : Json} {kind : CellKind} {type : ColumnType}
    (h : kind? v = some kind) (hfits : kind.fits type = true) : ∃ c, toCell type v = .ok c := by
  cases v with
  | null => cases h
  | bool b =>
    obtain rfl := Option.some.inj h
    cases type with
    | null | utf8 | bool => exact ⟨_, rfl⟩
    | int64 | float64 | dateTime => cases hfits
  | float x =>
    obtain rfl := Option.some.inj h
    cases type with
    | null | utf8 | float64 => exact ⟨_, rfl⟩
    | int64 | bool | dateTime => cases hfits
  | list items | object members =>
    obtain rfl := Option.some.inj h
    cases type with
    | null | utf8 => exact ⟨_, rfl⟩
    | int64 | float64 | bool | dateTime => cases hfits
  | int i =>
    by_cases hrange : fitsInt64 i = true
    · obtain rfl : kind = .int := by simpa [kind?, hrange] using h.symm
      cases type with
      | null | utf8 | float64 => exact ⟨_, rfl⟩
      | int64 => exact ⟨.int (Int64.ofInt i), by simp [toCell, isNull, intCell, hrange]⟩
      | bool | dateTime => cases hfits
    · obtain rfl : kind = .float := by simpa [kind?, hrange] using h.symm
      cases type with
      | null | utf8 | float64 => exact ⟨_, rfl⟩
      | int64 | bool | dateTime => cases hfits
  | text s =>
    cases hread : readDateTime? s with
    | none =>
      obtain rfl : kind = .text := by simpa [kind?, hread] using h.symm
      cases type with
      | null | utf8 => exact ⟨_, rfl⟩
      | int64 | float64 | bool | dateTime => cases hfits
    | some d =>
      obtain rfl : kind = .dateTime := by simpa [kind?, hread] using h.symm
      cases type with
      | null | utf8 => exact ⟨_, rfl⟩
      | dateTime => exact ⟨.dateTime d, by simp [toCell, isNull, dateCell, hread]⟩
      | int64 | float64 | bool => cases hfits

theorem cellRules_sound : cellRules.Sound where
  missing := fun {type v} h => by
    refine ⟨.null, ?_⟩
    change toCell type v = .ok .null
    simp [toCell, kind?_eq_none_iff.1 h]
  present := exists_toCell_of_fits

/-- Objects always make a table, whatever members they have. -/
theorem exists_inferredTable {records : List Json}
    (h : ∀ v ∈ records, ∃ members, v.members? = some members) :
    ∃ t, inferredTable records = .ok t := by
  have hrecord : ∀ p ∈ records.zipIdx 1, ∃ members,
      (asRecord p.1 p.2).mapError LoadError.shape = .ok members := by
    intro p hp
    obtain ⟨members, hmembers⟩ := h p.1 (List.fst_mem_of_mem_zipIdx hp)
    exact ⟨members, by simp [asRecord, hmembers, Except.mapError]⟩
  obtain ⟨members, hmembers⟩ := exists_mapM_eq_ok_iff.2 hrecord
  simp only [inferredTable, bind_eq_ok_iff]
  obtain ⟨t, ht⟩ := CellRules.exists_inferTable cellRules_sound (nodup_memberNames members) _
  exact ⟨t, members, hmembers, ht⟩

end Json

/-- Inference rejects nothing, neither among the records of a CSV text under headers of which no two are
the same nor among JSON objects. In a CSV text it is as narrow as it can be: among other numbers than
integers there is a text that is no integer, and among texts there is one that is no integer, one that
is no number and one that is no date. -/
theorem inference_sound_and_narrowest :
    (∀ d : Csv.Document, d.headers.Nodup → ∃ t, d.table none = .ok t ∧ ∀ i < d.headers.length,
      (t.typeAt i = .float64 → d.HasMisfit .int64 i) ∧
      (t.typeAt i = .utf8 → d.HasMisfit .int64 i ∧ d.HasMisfit .float64 i ∧
        d.HasMisfit .dateTime i)) ∧
    ∀ input records, Json.readRecords input = .ok records →
      (∀ v ∈ records, ∃ members, v.members? = some members) →
        ∃ t, Json.loadTable input none = .ok t := by
  constructor
  · intro d hheaders
    obtain ⟨t, ht⟩ := CellRules.exists_inferTable Csv.cellRules_sound hheaders
      (d.rows (List.range d.headers.length))
    refine ⟨t, ht, fun i hi => ⟨fun htype => ?_, fun htype => ?_⟩⟩
    · apply Csv.Document.hasMisfit_of_fits .float ht hi <;> simp [htype, CellKind.fits]
    · refine ⟨?_, ?_, ?_⟩
      all_goals
        apply Csv.Document.hasMisfit_of_fits .text ht hi <;> simp [htype, CellKind.fits]
  · intro input records hrecords hobjects
    obtain ⟨t, ht⟩ := Json.exists_inferredTable hobjects
    exact ⟨t, bind_eq_ok_iff.2 ⟨records, mapError_eq_ok.2 hrecords, ht⟩⟩

/-- Integers among other numbers, a date among integers, and objects with a text for a number. -/
theorem inference_mixed_columns :
    let d : Csv.Document := ⟨["x", "y"], [["1", " 2024-01-02"], ["0.5", "7"]]⟩
    let input := "[\x7b\"n\": 1\x7d, \x7b\"n\": \"one\"\x7d]"
    d.HasMisfit .int64 0 ∧
      (d.HasMisfit .int64 1 ∧ d.HasMisfit .float64 1 ∧ d.HasMisfit .dateTime 1) ∧
      ∃ t, Json.loadTable input none = .ok t := by
  intro d input
  obtain ⟨t, ht, hmisfits⟩ := inference_sound_and_narrowest.1 d (by decide)
  have htypes : (d.table none).map (fun t => (t.typeAt 0, t.typeAt 1)) = .ok (.float64, .utf8) := by
    decide +kernel
  rw [ht] at htypes
  obtain ⟨hx, hy⟩ := Prod.mk.inj (Except.ok.inj htypes)
  refine ⟨(hmisfits 0 (by decide)).1 hx, (hmisfits 1 (by decide)).2 hy, ?_⟩
  have hobjects : ((Json.readRecords input).toOption.any (·.all (·.members?.isSome))) = true := by
    decide +kernel
  obtain ⟨records, hrecords, hall⟩ := exists_of_any_toOption hobjects
  apply inference_sound_and_narrowest.2 input records hrecords
  intro v hv
  exact Option.isSome_iff_exists.1 (List.all_eq_true.1 hall v hv)

end TableReport
