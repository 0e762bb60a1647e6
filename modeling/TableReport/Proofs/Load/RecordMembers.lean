import TableReport.Proofs.Json.Members
import TableReport.Proofs.Load.MemberNames
import TableReport.Proofs.Load.Missing
import TableReport.Proofs.Number.Integer
/-!
# Members of records

Without a schema each object of a JSON text is a row, and its members stand in the columns of their names.
What is null in the row is a member that is null or not there, and in columns of integers, truth values
and texts the others are kept as they are.
-/
namespace TableReport.Json

/-- How a value that is not null is kept in a column of a type. A column of texts has the JSON text of a
value that is no text. -/
inductive KeptAs : ColumnType → Json → Cell → Prop
  | int (v : Int64) : KeptAs .int64 (.int v.toInt) (.int v)
  | bool (v : Bool) : KeptAs .bool (.bool v) (.bool v)
  | text (s : String) : KeptAs .utf8 (.text s) (.text s)
  | written {v : Json} (h : ∀ s, v ≠ .text s) : KeptAs .utf8 v (.text v.compact)
  | float (v : Binary64) : KeptAs .float64 (.float v) (.float v)
  | whole (v : Int) : KeptAs .float64 (.int v) (.float (Binary64.ofInt v))
  | date {s : String} {d : DateTime} (h : readDateTime? s = some d) :
    KeptAs .dateTime (.text s) (.dateTime d)

theorem KeptAs.ne_null {type : ColumnType} {v : Json} {c : Cell} (h : KeptAs type v c) : c ≠ .null := by
  cases h <;> simp

theorem isNull_iff {v : Json} : v.isNull = true ↔ v = .null := by
  cases v <;> simp [isNull]

/-- A column that has some type of values keeps each value that it has a cell for. -/
theorem keptAs_of_toCell {type : ColumnType} {v : Json} {c : Cell} (hv : v ≠ .null) (htype : type ≠ .null)
    (h : toCell type v = .ok c) : KeptAs type v c := by
  unfold toCell at h
  rw [if_neg (mt isNull_iff.1 hv)] at h
  cases type with
  | null => exact absurd rfl htype
  | utf8 =>
    obtain rfl := Except.ok.inj h
    cases v with
    | text s => exact .text s
    | null | bool | int | float | list | object => exact .written nofun
  | bool =>
    cases v with
    | bool b => exact Except.ok.inj h ▸ .bool b
    | null | int | float | text | list | object => cases h
  | int64 =>
    cases v with
    | int i =>
      dsimp only [intCell] at h
      split_ifs at h with hfits
      have hkept := KeptAs.int (Int64.ofInt i)
      rw [toInt_ofInt_of_fits hfits] at hkept
      exact Except.ok.inj h ▸ hkept
    | null | bool | float | text | list | object => cases h
  | float64 =>
    cases v with
    | int i => exact Except.ok.inj h ▸ .whole i
    | float x => exact Except.ok.inj h ▸ .float x
    | null | bool | text | list | object => cases h
  | dateTime =>
    cases v with
    | text s =>
      dsimp only [dateCell] at h
      split at h
      case h_1 d hd => exact Except.ok.inj h ▸ .date hd
      case h_2 => cases h
    | null | bool | int | float | list | object => cases h

section Tables

variable {records : List Json} {objects : List Members} {t : Table} {members : Members} {i j : Nat}
  {key : String}

theorem exists_objects_of_inferredTable (h : inferredTable records = .ok t) :
    ∃ objects : List Members, records = objects.map .object ∧ t.rows.length = objects.length ∧
      t.schema.names = memberNames objects := by
  obtain ⟨objects, hobjects, h⟩ := bind_eq_ok h
  refine ⟨objects, ?_, ?_, (CellRules.table_of_inferTable h).1⟩
  · have hall : List.Forall₂ (· = ·) records (objects.map .object) := by
      rw [List.forall₂_map_right_iff]
      refine (members?_of_asRecord hobjects).imp fun v members hv => ?_
      cases v with
      | object ms => exact congrArg object (Option.some.inj hv)
      | null | bool | int | float | text | list => cases hv
    rwa [List.forall₂_eq_eq_eq] at hall
  · rw [CellRules.table_rows_length (CellRules.inferTable_eq_ok h).2, List.length_map,
      List.length_zipIdx]

/-- A cell is null where there is nothing to keep. -/
theorem cell_of_member (h : inferredTable (objects.map .object) = .ok t)
    (hi : objects[i]? = some members) (hj : t.schema.names[j]? = some key) :
    ((t.row i).cell j = .null ↔ key ∉ members.map Prod.fst ∨ members.get? key = some .null) ∧
      ∀ v, members.get? key = some v → v ≠ .null → KeptAs (t.typeAt j) v ((t.row i).cell j) := by
  have hrecord : (objects.map Json.object)[i]? = some (.object members) := by simp [hi]
  obtain ⟨hcell, kinds, htype, hkinds⟩ := cell_of_inferredTable h hrecord hj rfl
  rw [← Members.get?_eq_none_iff]
  have hkept : ∀ v, members.get? key = some v → v ≠ .null →
      KeptAs (t.typeAt j) v ((t.row i).cell j) := by
    intro v hv hne
    rw [hv, Option.getD_some] at hcell hkinds
    refine keptAs_of_toCell hne ?_ hcell
    obtain ⟨kind, hkind⟩ : ∃ kind, kind? v = some kind := by
      rw [← Option.isSome_iff_exists, Option.isSome_iff_ne_none, ne_eq, kind?_eq_none_iff, isNull_iff]
      exact hne
    rw [htype, ne_eq, ColumnType.ofKinds_eq_null_iff]
    exact List.ne_nil_of_mem (hkinds kind hkind)
  refine ⟨⟨fun hnull => ?_, ?_⟩, hkept⟩
  · cases hv : members.get? key with
    | none => exact .inl rfl
    | some v =>
      by_cases hne : v = .null
      · exact .inr (congrArg some hne)
      · exact absurd hnull (hkept v hv hne).ne_null
  · rintro (hv | hv)
    · rw [hv] at hcell
      exact (Except.ok.inj hcell).symm
    · rw [hv] at hcell
      exact (Except.ok.inj hcell).symm

end Tables

/-- Without a schema no member is lost or misplaced. The rows are the objects, and the columns are the
names of their members in the order in which they are found first. A cell is null when the object has
no such member or null for it, and otherwise the member is kept as the type of the column has it. -/
theorem inferred_table_keeps_members {input : String} {t : Table} (h : loadTable input none = .ok t) :
    ∃ objects : List Members, readRecords input = .ok (objects.map .object) ∧ t.WellFormed ∧
      t.rows.length = objects.length ∧ t.schema.names.Nodup ∧
      (∀ key, key ∈ t.schema.names ↔ ∃ members ∈ objects, key ∈ members.map Prod.fst) ∧
      t.schema.names.Pairwise (FoundBefore objects) ∧
      ∀ i members j key, objects[i]? = some members → t.schema.names[j]? = some key →
        ((t.row i).cell j = .null ↔ key ∉ members.map Prod.fst ∨ members.get? key = some .null) ∧
        ∀ v, members.get? key = some v → v ≠ .null → KeptAs (t.typeAt j) v ((t.row i).cell j) := by
  have hformed := (loadedAs_of_loadTable h).1
  obtain ⟨records, hrecords, h⟩ := bind_eq_ok h
  obtain ⟨objects, rfl, hlength, hnames⟩ := exists_objects_of_inferredTable h
  refine ⟨objects, mapError_eq_ok.1 hrecords, hformed, hlength, ?_, ?_, ?_, ?_⟩
  · rw [hnames]
    exact nodup_memberNames objects
  · intro key
    rw [hnames, mem_memberNames_iff]
  · rw [hnames]
    exact pairwise_memberNames objects
  · intro i members j key hi hj
    exact cell_of_member h hi hj

/-- The second object has a name of the first one, lacks another, and has a new one. -/
theorem inferred_table_of_ragged_objects :
    let input := "[\x7b\"b\": 1, \"a\": null\x7d, \x7b\"a\": true, \"c\": [2]\x7d]"
    let first : Members := [("b", .int 1), ("a", .null)]
    let second : Members := [("a", .bool true), ("c", .list [.int 2])]
    let t : Table := ⟨⟨[⟨"b", .int64⟩, ⟨"a", .bool⟩, ⟨"c", .utf8⟩]⟩,
      [[.int 1, .null, .null], [.null, .bool true, .text "[2]"]]⟩
    loadTable input none = .ok t ∧ readRecords input = .ok [.object first, .object second] ∧
      ["b", "a", "c"].Pairwise (FoundBefore [first, second]) ∧
      ((t.row 1).cell 0 = .null ↔ "b" ∉ second.map Prod.fst ∨ second.get? "b" = some .null) ∧
      KeptAs (t.typeAt 2) (.list [.int 2]) ((t.row 1).cell 2) := by
  intro input first second t
  let chars := ['[', '\x7b', '"', 'b', '"', ':', ' ', '1', ',', ' ', '"', 'a', '"', ':', ' ', 'n', 'u',
    'l', 'l', '\x7d', ',', ' ', '\x7b', '"', 'a', '"', ':', ' ', 't', 'r', 'u', 'e', ',', ' ', '"', 'c',
    '"', ':', ' ', '[', '2', ']', '\x7d', ']']
  have htable : loadTable input none = .ok t := by decide +kernel
  have hread : readRecords input = .ok [.object first, .object second] :=
    readRecords_of_list (parse?_of_chars (by decide +kernel : _ = chars) rfl)
  obtain ⟨objects, hrecords, -, -, -, -, horder, hcells⟩ := inferred_table_keeps_members htable
  obtain rfl : objects = [first, second] :=
    List.map_injective_iff.2 (fun _ _ => Json.object.inj) (Except.ok.inj (hrecords.symm.trans hread))
  refine ⟨htable, hread, horder, (hcells 1 second 0 "b" rfl rfl).1, ?_⟩
  exact (hcells 1 second 2 "c" rfl rfl).2 _ rfl nofun

end TableReport.Json
