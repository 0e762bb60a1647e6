import Mathlib.Data.List.Forall2
import Mathlib.Data.List.Nodup
import TableReport.Proofs.Condition.ByName
import TableReport.Proofs.Condition.Grammar
import TableReport.Proofs.Table.WellFormed
/-!
# Conditions on tables with their columns rearranged

A condition sees nothing of a table but the types and the cells under the names in it. So it selects
the same rows when the columns stand in another order, and when there are further columns that it does
not name.
-/
namespace TableReport

namespace Table

/-- The columns of one table are those at some positions of another, in the order of the positions. -/
structure Arranges (positions : List Nat) (t t' : Table) : Prop where
  width : t'.schema.width = positions.length
  fields : ∀ k i : Nat, positions[k]? = some i → t'.schema.fields[k]? = t.schema.fields[i]?
  rows : List.Forall₂ (fun row row' : Row => ∀ k i : Nat, positions[k]? = some i →
    row'.cell k = row.cell i) t.rows t'.rows

/-- Two tables have the same types and cells under some names. -/
structure AgreeOn (names : List String) (t t' : Table) : Prop where
  types : ∀ name ∈ names, t'.schema.typeNamed name = t.schema.typeNamed name
  rows : List.Forall₂ (fun row row' => ∀ name ∈ names,
    Schema.cellUnder name t'.schema.fields row' = Schema.cellUnder name t.schema.fields row)
    t.rows t'.rows

end Table

namespace Schema

variable {name : String}

theorem cellUnder_of_not_mem {fields : List Field} (h : name ∉ fields.map Field.name) (row : Row) :
    cellUnder name fields row = .null := by
  induction fields generalizing row with
  | nil => rfl
  | cons f fields ih =>
    simp only [List.map_cons, List.mem_cons, not_or] at h
    rw [cellUnder, if_neg (Ne.symm h.1), ih h.2]

end Schema

namespace Table

variable {positions : List Nat} {t t' : Table} {name : String} {i k : Nat}

theorem Arranges.names (h : Arranges positions t t') (hk : positions[k]? = some i) :
    t'.schema.names[k]? = t.schema.names[i]? := by
  simp only [Schema.names, List.getElem?_map, h.fields k i hk]

theorem Arranges.mem_names (h : Arranges positions t t') (hname : name ∈ t'.schema.names) :
    name ∈ t.schema.names := by
  obtain ⟨k, hk⟩ := List.mem_iff_getElem?.1 hname
  have hlt : k < positions.length := by
    have := (List.getElem?_eq_some_iff.1 hk).1
    rwa [Schema.names, List.length_map, ← Schema.width, h.width] at this
  rw [h.names (List.getElem?_eq_getElem hlt)] at hk
  exact List.mem_of_getElem? hk

/-- The first column with a name is first among the arranged columns. -/
theorem Arranges.indexOf? (h : Arranges positions t t') (hi : t.schema.indexOf? name = some i)
    (hk : positions[k]? = some i)
    (hbefore : ∀ j < k, ∀ i', positions[j]? = some i' → t.schema.names[i']? ≠ some name) :
    t'.schema.indexOf? name = some k := by
  rw [Schema.indexOf?_eq_some, h.names hk]
  refine ⟨(Schema.indexOf?_eq_some.1 hi).1, fun j hj => ?_⟩
  have hlt : j < positions.length := by
    have := (List.getElem?_eq_some_iff.1 hk).1
    omega
  have hj' := List.getElem?_eq_getElem hlt
  rw [h.names hj']
  exact hbefore j hj _ hj'

/-- Arranged columns look the same under names whose first columns are kept as first columns. -/
theorem Arranges.agreeOn {names : List String} (h : Arranges positions t t')
    (hfirst : ∀ name ∈ names, ∀ i, t.schema.indexOf? name = some i →
      ∃ k, t'.schema.indexOf? name = some k ∧ positions[k]? = some i) : AgreeOn names t t' := by
  constructor
  · intro name hname
    cases hi : t.schema.indexOf? name with
    | none =>
      have hmem := Schema.indexOf?_eq_none.1 hi
      rw [Schema.typeNamed_eq_none.2 hmem, Schema.typeNamed_eq_none.2 (mt h.mem_names hmem)]
    | some i =>
      obtain ⟨k, hk, hpos⟩ := hfirst name hname i hi
      rw [(Schema.typeNamed_of_indexOf? hk).1, (Schema.typeNamed_of_indexOf? hi).1,
        Schema.typeAt?, h.fields k i hpos]
      rfl
  · refine h.rows.imp fun row row' hcell name hname => ?_
    cases hi : t.schema.indexOf? name with
    | none =>
      have hmem := Schema.indexOf?_eq_none.1 hi
      rw [Schema.cellUnder_of_not_mem hmem, Schema.cellUnder_of_not_mem (mt h.mem_names hmem)]
    | some i =>
      obtain ⟨k, hk, hpos⟩ := hfirst name hname i hi
      rw [Schema.cellUnder_of_findIdx? hk, Schema.cellUnder_of_findIdx? hi, hcell k i hpos]

theorem Arranges.agreeOn_of_perm (h : Arranges positions t t')
    (hperm : positions.Perm (List.range t.schema.width)) (hnames : t.schema.names.Nodup)
    (names : List String) : AgreeOn names t t' := by
  refine h.agreeOn fun name _ i hi => ?_
  have hname := (Schema.indexOf?_eq_some.1 hi).1
  have hwidth : i < t.schema.width := (Schema.typeNamed_of_indexOf? hi).2
  obtain ⟨k, hk⟩ := List.mem_iff_getElem?.1 (hperm.mem_iff.2 (List.mem_range.2 hwidth))
  refine ⟨k, h.indexOf? hi hk fun j hj i' hj' hname' => ?_, hk⟩
  have hlt : i' < t.schema.names.length := (List.getElem?_eq_some_iff.1 hname').1
  obtain rfl : i' = i := (List.getElem?_inj hlt hnames).1 (hname'.trans hname.symm)
  have hnodup : positions.Nodup := hperm.nodup_iff.2 List.nodup_range
  have hlt' : j < positions.length := (List.getElem?_eq_some_iff.1 hj').1
  exact absurd ((List.getElem?_inj hlt' hnodup).1 (hj'.trans hk.symm)) (Nat.ne_of_lt hj)

theorem Arranges.agreeOn_of_sorted {names : List String} (h : Arranges positions t t')
    (hsorted : positions.Pairwise (· < ·))
    (hkept : ∀ i, ∀ name ∈ names, t.schema.names[i]? = some name → i ∈ positions) :
    AgreeOn names t t' := by
  refine h.agreeOn fun name hmem i hi => ?_
  obtain ⟨hname, hfirst⟩ := Schema.indexOf?_eq_some.1 hi
  obtain ⟨k, hk⟩ := List.mem_iff_getElem?.1 (hkept i name hmem hname)
  refine ⟨k, h.indexOf? hi hk fun j hj i' hj' => ?_, hk⟩
  obtain ⟨hlt, rfl⟩ := List.getElem?_eq_some_iff.1 hk
  obtain ⟨hlt', rfl⟩ := List.getElem?_eq_some_iff.1 hj'
  exact hfirst _ (List.pairwise_iff_getElem.1 hsorted j k hlt' hlt hj)

end Table

namespace Condition

/-- The mask of a condition on a table, if it can be bound to the schema. -/
def mask? (e : Condition) (t : Table) : Option (List Bool) :=
  match e.bind t.schema with
  | .ok p => some (p.mask t)
  | .error _ => none

section Congruence

variable {schema schema' : Schema} {row row' : Row} {e opposite : Condition}

theorem operand_accepted_congr
    (htypes : ∀ name ∈ e.columns, schema'.typeNamed name = schema.typeNamed name) :
    (Place.operand e).accepted schema' = (Place.operand e).accepted schema := by
  cases e with
  | column name =>
    have htype := htypes name (by simp [columns])
    have hmem : name ∈ schema'.names ↔ name ∈ schema.names := by
      rw [← not_iff_not, ← Schema.typeNamed_eq_none, ← Schema.typeNamed_eq_none, htype]
    rw [Place.accepted, Place.accepted, Bool.eq_iff_iff, List.contains_iff_mem,
      List.contains_iff_mem]
    exact hmem
  | literal | compare | both | either | negation => rfl

theorem accepted_congr
    (htypes : ∀ name ∈ e.columns, schema'.typeNamed name = schema.typeNamed name) :
    ∀ place ∈ e.places, place.accepted schema' = place.accepted schema := by
  induction e with
  | column name =>
    intro place hplace
    obtain rfl := List.mem_singleton.1 hplace
    rw [Place.accepted, htypes name (by simp [columns]), Place.accepted]
  | literal v =>
    intro place hplace
    obtain rfl := List.mem_singleton.1 hplace
    cases v <;> rfl
  | compare left op right =>
    obtain ⟨hleft, hright⟩ := List.forall_mem_append.1 htypes
    intro place hplace
    simp only [places, List.mem_cons, List.not_mem_nil, or_false] at hplace
    rcases hplace with rfl | rfl
    · exact operand_accepted_congr hleft
    · exact operand_accepted_congr hright
  | both left right ihl ihr | either left right ihl ihr =>
    obtain ⟨hleft, hright⟩ := List.forall_mem_append.1 htypes
    exact List.forall_mem_append.2 ⟨ihl hleft, ihr hright⟩
  | negation inner ih => exact ih htypes

theorem denoted_congr
    (htypes : ∀ name ∈ opposite.columns, schema'.typeNamed name = schema.typeNamed name)
    (hcells : ∀ name ∈ e.columns,
      Schema.cellUnder name schema'.fields row' = Schema.cellUnder name schema.fields row) :
    e.denoted schema' row' opposite = e.denoted schema row opposite := by
  have htype : opposite.columnType? schema' = opposite.columnType? schema := by
    cases opposite with
    | column name => exact htypes name (by simp [columns])
    | literal | compare | both | either | negation => rfl
  cases e with
  | column name => exact hcells name (by simp [columns])
  | literal v =>
    cases v with
    | int | float | bool => rfl
    | text s => simp only [denoted, htype]
  | compare | both | either | negation => rfl

/-- A condition holds alike of rows that have the same cells under its names, if these have the same
types. -/
theorem holdsIn_congr
    (htypes : ∀ name ∈ e.columns, schema'.typeNamed name = schema.typeNamed name)
    (hcells : ∀ name ∈ e.columns,
      Schema.cellUnder name schema'.fields row' = Schema.cellUnder name schema.fields row) :
    e.holdsIn schema' row' = e.holdsIn schema row := by
  induction e with
  | column name => rw [holdsIn, hcells name (by simp [columns]), holdsIn]
  | literal v => cases v <;> rfl
  | compare left op right =>
    obtain ⟨hleft, hright⟩ := List.forall_mem_append.1 htypes
    obtain ⟨hleft', hright'⟩ := List.forall_mem_append.1 hcells
    rw [holdsIn, denoted_congr hright hleft', denoted_congr hleft hright', holdsIn]
  | both left right ihl ihr | either left right ihl ihr =>
    obtain ⟨hleft, hright⟩ := List.forall_mem_append.1 htypes
    obtain ⟨hleft', hright'⟩ := List.forall_mem_append.1 hcells
    rw [holdsIn, ihl hleft hleft', ihr hright hright', holdsIn]
  | negation inner ih => rw [holdsIn, ih htypes hcells, holdsIn]

end Congruence

section Masks

variable {e : Condition} {t t' : Table}

theorem mask?_of_accepted (h : ∀ place ∈ e.places, place.accepted t.schema = true) :
    e.mask? t = some (t.rows.map (e.holdsIn t.schema ·)) := by
  obtain ⟨p, hp⟩ := bind_isOk_iff.2 h
  simp only [mask?, hp, Predicate.mask, (test_of_bind hp).2]

theorem mask?_of_rejected (h : ¬∀ place ∈ e.places, place.accepted t.schema = true) :
    e.mask? t = none := by
  unfold mask?
  cases hp : e.bind t.schema with
  | error err => rfl
  | ok p => exact absurd (bind_isOk_iff.1 ⟨p, hp⟩) h

/-- Tables that agree on the names in a condition have the same mask, or both have none. -/
theorem mask?_congr (h : t.AgreeOn e.columns t') : e.mask? t' = e.mask? t := by
  have haccepted := accepted_congr h.types
  by_cases hall : ∀ place ∈ e.places, place.accepted t.schema = true
  · have hall' : ∀ place ∈ e.places, place.accepted t'.schema = true :=
      fun place hplace => (haccepted place hplace).trans (hall place hplace)
    rw [mask?_of_accepted hall, mask?_of_accepted hall']
    have hrows : List.Forall₂ (· = ·) (t.rows.map (e.holdsIn t.schema ·))
        (t'.rows.map (e.holdsIn t'.schema ·)) := by
      rw [List.forall₂_map_left_iff, List.forall₂_map_right_iff]
      exact h.rows.imp fun row row' hcells => (holdsIn_congr h.types hcells).symm
    rw [List.forall₂_eq_eq_eq] at hrows
    rw [hrows]
  · rw [mask?_of_rejected hall, mask?_of_rejected]
    intro hall'
    exact hall fun place hplace => (haccepted place hplace).symm.trans (hall' place hplace)

/-- Binding a condition succeeds when its operands are columns or literals and its other leaves columns
of truth values or truth values, and else reports the first one that is not. What it gives tests a row
as the names in the condition do. So the order of columns does not matter, and neither do columns that
the condition does not name. -/
theorem bind_agrees_by_name (schema : Schema) (e : Condition) :
    ((∃ p, e.bind schema = .ok p) ↔ ∀ place ∈ e.places, place.accepted schema = true) ∧
      (∀ err, e.bind schema = .error err ↔
        ∃ place, e.places.find? (!·.accepted schema) = some place ∧ err = place.report schema) ∧
      (∀ p, e.bind schema = .ok p → (∀ i ∈ p.positions, i < schema.width) ∧
        ∀ row, p.test row = e.holdsIn schema row) ∧
      (∀ positions t t', t.Arranges positions t' →
        positions.Perm (List.range t.schema.width) → t.schema.names.Nodup →
        e.mask? t' = e.mask? t) ∧
      ∀ positions t t', t.Arranges positions t' → positions.Pairwise (· < ·) →
        (∀ i, ∀ name ∈ e.columns, t.schema.names[i]? = some name → i ∈ positions) →
        e.mask? t' = e.mask? t := by
  refine ⟨bind_isOk_iff, fun err => bind_eq_error_iff, fun p hp => test_of_bind hp, ?_, ?_⟩
  · intro positions t t' h hperm hnames
    exact mask?_congr (h.agreeOn_of_perm hperm hnames e.columns)
  · intro positions t t' h hsorted hkept
    exact mask?_congr (h.agreeOn_of_sorted hsorted hkept)

theorem mask_of_exchanged_columns :
    (Condition.both (.column "ok")
      (.compare (.literal (.text "2024-01-02")) .le (.column "day"))).mask?
      ⟨⟨[⟨"ok", .bool⟩, ⟨"day", .dateTime⟩]⟩, [[.bool true,
        .dateTime ⟨⟨2024, 3, 1, by decide, by decide, by decide⟩, .midnight⟩], [.bool true]]⟩ =
      some [true, false] := by
  let t : Table := ⟨⟨[⟨"day", .dateTime⟩, ⟨"ok", .bool⟩]⟩,
    [[.dateTime ⟨⟨2024, 3, 1, by decide, by decide, by decide⟩, .midnight⟩, .bool true],
      [.null, .bool true]]⟩
  have hplaces : ∀ k i : Nat, [1, 0][k]? = some i → k = 0 ∧ i = 1 ∨ k = 1 ∧ i = 0 := by
    intro k i h
    match k with
    | 0 => simp_all
    | 1 => simp_all
    | k + 2 => simp at h
  refine Eq.trans ((bind_agrees_by_name t.schema _).2.2.2.1 [1, 0] t _ ⟨rfl, ?_, ?_⟩ (by decide)
    (by decide)) (by decide +kernel)
  · intro k i h
    rcases hplaces k i h with ⟨rfl, rfl⟩ | ⟨rfl, rfl⟩ <;> rfl
  · refine .cons ?_ (.cons ?_ .nil)
    · intro k i h
      rcases hplaces k i h with ⟨rfl, rfl⟩ | ⟨rfl, rfl⟩ <;> rfl
    · intro k i h
      rcases hplaces k i h with ⟨rfl, rfl⟩ | ⟨rfl, rfl⟩ <;> rfl

end Masks

end Condition

end TableReport
