import TableReport.Condition.Predicate
import TableReport.Proofs.Outcome
/-!
# Conditions read by name

A condition can be evaluated on a row as it stands, each name being the cell under the first field of
that name. Binding it to a schema refuses the first operand or leaf, from left to right, that has no
such reading; what it accepts tests a row just as the names do.
-/
namespace TableReport

namespace Schema

/-- The type of the first field with a name. -/
def typeNamed (schema : Schema) (name : String) : Option ColumnType :=
  (schema.fields.find? (·.name == name)).map Field.type

/-- The cell of a row under the first field with a name. -/
def cellUnder (name : String) : List Field → Row → Cell
  | [], _ => .null
  | f :: fields, row => if f.name = name then row.cell 0 else cellUnder name fields row.tail

variable {schema : Schema} {name : String} {i : Nat}

private theorem cell_tail (row : Row) (i : Nat) : Row.cell row.tail i = row.cell (i + 1) := by
  cases row with
  | nil => simp [Row.cell]
  | cons c row => simp [Row.cell]

theorem cellUnder_of_findIdx? {fields : List Field}
    (h : fields.findIdx? (·.name == name) = some i) (row : Row) :
    cellUnder name fields row = row.cell i := by
  induction fields generalizing i row with
  | nil => simp at h
  | cons f fields ih =>
    rw [List.findIdx?_cons] at h
    by_cases hf : f.name = name
    · obtain rfl : 0 = i := by simpa [hf] using h
      rw [cellUnder, if_pos hf]
    · have hrest : (fields.findIdx? (·.name == name)).map (· + 1) = some i := by
        simpa [hf] using h
      obtain ⟨j, hj, rfl⟩ := Option.map_eq_some_iff.1 hrest
      rw [cellUnder, if_neg hf, ih hj, cell_tail]

/-- The first field with a name is where the schema has it. -/
theorem typeNamed_of_indexOf? (h : schema.indexOf? name = some i) :
    schema.typeNamed name = schema.typeAt? i ∧ i < schema.width := by
  obtain ⟨hi, hname, hfirst⟩ := List.findIdx?_eq_some_iff_getElem.1 h
  refine ⟨?_, hi⟩
  have hfind : schema.fields.find? (·.name == name) = some schema.fields[i] := by
    rw [List.find?_eq_some_iff_getElem]
    exact ⟨hname, i, hi, rfl, fun j hj => by simpa using hfirst j hj⟩
  rw [typeNamed, hfind, typeAt?, List.getElem?_eq_getElem hi]

theorem indexOf?_eq_none : schema.indexOf? name = none ↔ name ∉ schema.names := by
  rw [indexOf?, List.findIdx?_eq_none_iff, names, List.mem_map]
  constructor
  · rintro h ⟨f, hf, rfl⟩
    simpa using h f hf
  · intro h f hf
    rw [beq_eq_false_iff_ne]
    rintro rfl
    exact h ⟨f, hf, rfl⟩

theorem typeNamed_eq_none : schema.typeNamed name = none ↔ name ∉ schema.names := by
  rw [← indexOf?_eq_none, typeNamed, Option.map_eq_none_iff, List.find?_eq_none, indexOf?,
    List.findIdx?_eq_none_iff]
  simp

end Schema

/-- The positions that an operand looks at. -/
def Operand.positions : Operand → List Nat
  | .column i => [i]
  | .value _ => []

/-- The positions that a bound condition looks at. -/
def Predicate.positions : Predicate → List Nat
  | .compare left _ right => left.positions ++ right.positions
  | .holds i => [i]
  | .constant _ => []
  | .both left right | .either left right => left.positions ++ right.positions
  | .negation inner => inner.positions

namespace Condition

/-! ### Evaluation -/

/-- The type of the column that an operand is. -/
def columnType? (schema : Schema) : Condition → Option ColumnType
  | .column name => schema.typeNamed name
  | _ => none

/-- The cell of an operand in a row. A text opposite a column of dates is the date it denotes. -/
def denoted (schema : Schema) (row : Row) (e opposite : Condition) : Cell :=
  match e with
  | .column name => Schema.cellUnder name schema.fields row
  | .literal (.int v) => .int v
  | .literal (.float v) => .float v
  | .literal (.bool v) => .bool v
  | .literal (.text s) =>
    if opposite.columnType? schema = some .dateTime then
      match readDateTime? s with
      | some d => .dateTime d
      | none => .text s
    else .text s
  | _ => .null

/-- Whether a condition holds of a row under the names of a schema. -/
def holdsIn (schema : Schema) (row : Row) : Condition → Bool
  | .column name => Schema.cellUnder name schema.fields row == .bool true
  | .literal (.bool v) => v
  | .literal _ => false
  | .compare left op right =>
    op.between (left.denoted schema row right) (right.denoted schema row left)
  | .both left right => left.holdsIn schema row && right.holdsIn schema row
  | .either left right => left.holdsIn schema row || right.holdsIn schema row
  | .negation inner => !inner.holdsIn schema row

/-! ### Places -/

/-- A place of a condition where binding can go wrong. -/
inductive Place where
  | operand (e : Condition)
  | column (name : String)
  | constant (v : Literal)

/-- The operands and leaves of a condition from left to right. -/
def places : Condition → List Place
  | .column name => [.column name]
  | .literal v => [.constant v]
  | .compare left _ right => [.operand left, .operand right]
  | .both left right | .either left right => left.places ++ right.places
  | .negation inner => inner.places

namespace Place

/-- Whether a place is accepted: an operand is a column or a literal, any other leaf a column of truth
values or a truth value. -/
def accepted (schema : Schema) : Place → Bool
  | .operand (.column name) => schema.names.contains name
  | .operand (.literal _) => true
  | .operand _ => false
  | .column name => schema.typeNamed name == some .bool
  | .constant (.bool _) => true
  | .constant _ => false

/-- What is reported of a place that is not accepted. -/
def report (schema : Schema) : Place → ConditionError
  | .operand (.column name) => .unknownColumn name schema.names
  | .operand e => .invalidOperand e.described
  | .column name =>
    if schema.names.contains name then .notBoolean name else .unknownColumn name schema.names
  | .constant v => .notBoolean v.shown

end Place

/-! ### Acceptance -/

section Acceptance

variable {α β : Type} {schema : Schema} {name : String}

/-- A computation succeeds when every place is accepted, and reports the first one that is not. -/
def Decides (schema : Schema) (ps : List Place) (r : Except ConditionError α) : Prop :=
  match ps.find? (!·.accepted schema) with
  | none => ∃ a, r = .ok a
  | some place => r = .error (place.report schema)

theorem decides_singleton {place : Place} {r : Except ConditionError α}
    (hok : place.accepted schema = true → ∃ a, r = .ok a)
    (herror : place.accepted schema = false → r = .error (place.report schema)) :
    Decides schema [place] r := by
  cases h : place.accepted schema with
  | true => simpa [Decides, h] using hok h
  | false => simpa [Decides, h] using herror h

theorem Decides.bind {ps qs : List Place} {x : Except ConditionError α}
    {f : α → Except ConditionError β} (hx : Decides schema ps x)
    (hf : ∀ a, x = .ok a → Decides schema qs (f a)) : Decides schema (ps ++ qs) (x >>= f) := by
  unfold Decides at hx ⊢
  rw [List.find?_append]
  cases hps : ps.find? (!·.accepted schema) with
  | none =>
    rw [hps] at hx
    obtain ⟨a, rfl⟩ := hx
    exact hf a rfl
  | some place =>
    rw [hps] at hx
    rw [show x = .error (place.report schema) from hx]
    rfl

theorem Decides.then_ok {ps : List Place} {x : Except ConditionError α}
    {f : α → Except ConditionError β} (hx : Decides schema ps x)
    (hf : ∀ a, x = .ok a → ∃ b, f a = .ok b) : Decides schema ps (x >>= f) := by
  rw [← List.append_nil ps]
  exact hx.bind hf

theorem lookUp_eq_ok {i : Nat} {type : ColumnType} (h : lookUp schema name = .ok (i, type)) :
    schema.typeNamed name = some type ∧ i < schema.width ∧
      ∀ row, Schema.cellUnder name schema.fields row = row.cell i := by
  unfold lookUp at h
  cases hi : schema.indexOf? name with
  | none => simp [hi] at h
  | some j =>
    rw [hi] at h
    obtain ⟨rfl, rfl⟩ := Prod.mk.inj (Except.ok.inj h)
    obtain ⟨htype, hlt⟩ := Schema.typeNamed_of_indexOf? hi
    refine ⟨?_, hlt, Schema.cellUnder_of_findIdx? hi⟩
    rw [htype, Schema.typeAt?, List.getElem?_eq_getElem hlt]
    rfl

theorem lookUp_of_mem (h : name ∈ schema.names) : ∃ found, lookUp schema name = .ok found := by
  cases hi : schema.indexOf? name with
  | none => exact absurd h (Schema.indexOf?_eq_none.1 hi)
  | some i => exact ⟨_, by rw [lookUp, hi]⟩

theorem lookUp_of_not_mem (h : name ∉ schema.names) :
    lookUp schema name = .error (.unknownColumn name schema.names) := by
  simp [lookUp, Schema.indexOf?_eq_none.2 h]

theorem decides_operandType (e : Condition) :
    Decides schema [.operand e] (operandType schema e) := by
  apply decides_singleton
  · intro h
    cases e with
    | column name =>
      obtain ⟨found, hfound⟩ := lookUp_of_mem (by simpa [Place.accepted] using h)
      exact ⟨_, by rw [operandType, hfound]; rfl⟩
    | literal v => exact ⟨_, rfl⟩
    | compare | both | either | negation => cases h
  · intro h
    cases e with
    | column name =>
      rw [operandType, lookUp_of_not_mem (by simpa [Place.accepted] using h)]
      rfl
    | literal v => cases h
    | compare | both | either | negation => rfl

/-- An operand that has a type, or needs none, is bound whatever stands opposite. -/
theorem bindOperand_of_operandType {e : Condition} {type : Option ColumnType}
    (h : operandType schema e = .ok type) (opposite : Option ColumnType) :
    ∃ o, bindOperand schema opposite e = .ok o := by
  cases e with
  | column name =>
    obtain ⟨found, hfound, -⟩ := map_eq_ok h
    exact ⟨_, by rw [bindOperand, hfound]; rfl⟩
  | literal v => exact ⟨_, rfl⟩
  | compare | both | either | negation => cases h

theorem decides_column (name : String) :
    Decides schema [.column name] ((Condition.column name).bind schema) := by
  by_cases hmem : name ∈ schema.names
  · obtain ⟨⟨i, type⟩, hfound⟩ := lookUp_of_mem hmem
    have htype := (lookUp_eq_ok hfound).1
    apply decides_singleton
    · intro h
      obtain rfl : type = .bool := by simpa [Place.accepted, htype] using h
      exact ⟨.holds i, by rw [Condition.bind, hfound]; rfl⟩
    · intro h
      have hne : type ≠ .bool := by simpa [Place.accepted, htype] using h
      rw [Condition.bind, hfound, Place.report, if_pos (by simpa using hmem)]
      exact if_neg hne
  · have htype := Schema.typeNamed_eq_none.2 hmem
    apply decides_singleton
    · intro h
      simp [Place.accepted, htype] at h
    · intro h
      rw [Condition.bind, lookUp_of_not_mem hmem, Place.report, if_neg (by simpa using hmem)]
      rfl

/-- Binding succeeds when every operand and leaf is accepted, and else reports the first, from left to
right, that is not. -/
theorem decides_bind (e : Condition) : Decides schema e.places (e.bind schema) := by
  induction e with
  | column name => exact decides_column name
  | literal v =>
    apply decides_singleton
    · intro h
      cases v with
      | bool v => exact ⟨_, rfl⟩
      | int | float | text => cases h
    · intro h
      cases v with
      | bool v => cases h
      | int | float | text => rfl
  | compare left op right =>
    refine (decides_operandType left).bind fun leftType hleft => ?_
    refine (decides_operandType right).then_ok fun rightType hright => ?_
    obtain ⟨l, hl⟩ := bindOperand_of_operandType hleft rightType
    obtain ⟨r, hr⟩ := bindOperand_of_operandType hright leftType
    exact ⟨.compare l op r, by rw [hl, hr]; rfl⟩
  | both left right ihl ihr | either left right ihl ihr =>
    exact ihl.bind fun l _ => ihr.then_ok fun r _ => ⟨_, rfl⟩
  | negation inner ih => exact ih.then_ok fun p _ => ⟨_, rfl⟩

theorem bind_isOk_iff {e : Condition} :
    (∃ p, e.bind schema = .ok p) ↔ ∀ place ∈ e.places, place.accepted schema = true := by
  have h : Decides schema e.places (e.bind schema) := decides_bind e
  unfold Decides at h
  cases hfind : e.places.find? (!·.accepted schema) with
  | none =>
    rw [hfind] at h
    exact iff_of_true h (by simpa using hfind)
  | some place =>
    rw [hfind] at h
    refine iff_of_false ?_ fun hall => ?_
    · rintro ⟨p, hp⟩
      cases hp.symm.trans h
    · have hplace := List.find?_some hfind
      simp [hall place (List.mem_of_find?_eq_some hfind)] at hplace

theorem bind_eq_error_iff {e : Condition} {err : ConditionError} : e.bind schema = .error err ↔
    ∃ place, e.places.find? (!·.accepted schema) = some place ∧ err = place.report schema := by
  have h : Decides schema e.places (e.bind schema) := decides_bind e
  unfold Decides at h
  cases hfind : e.places.find? (!·.accepted schema) with
  | none =>
    rw [hfind] at h
    obtain ⟨p, hp⟩ := h
    simp [hp]
  | some place =>
    rw [hfind] at h
    rw [show e.bind schema = .error (place.report schema) from h]
    simp [eq_comm]

end Acceptance

/-! ### Agreement -/

section Agreement

variable {schema : Schema} {e opposite : Condition}

theorem operandType_eq_ok {type : Option ColumnType} (h : operandType schema e = .ok type) :
    type = e.columnType? schema := by
  cases e with
  | column name =>
    obtain ⟨⟨i, t⟩, hfound, rfl⟩ := map_eq_ok h
    exact (lookUp_eq_ok hfound).1.symm
  | literal v =>
    cases h
    rfl
  | compare | both | either | negation => cases h

theorem bindOperand_eq_ok {o : Operand}
    (h : bindOperand schema (opposite.columnType? schema) e = .ok o) :
    (∀ i ∈ o.positions, i < schema.width) ∧
      ∀ row, o.cell row = e.denoted schema row opposite := by
  cases e with
  | column name =>
    obtain ⟨⟨i, t⟩, hfound, rfl⟩ := map_eq_ok h
    obtain ⟨-, hlt, hcell⟩ := lookUp_eq_ok hfound
    exact ⟨by simpa [Operand.positions] using hlt, fun row => (hcell row).symm⟩
  | literal v =>
    cases h
    refine ⟨by simp [Operand.positions], fun row => ?_⟩
    cases v with
    | int | float | bool => rfl
    | text s =>
      simp only [Operand.cell, literalCell, denoted]
      cases readDateTime? s <;> rfl
  | compare | both | either | negation => cases h

/-- A bound condition looks only at columns of the schema, and holds of the rows of which the condition
holds by name. -/
theorem test_of_bind {p : Predicate} (h : e.bind schema = .ok p) :
    (∀ i ∈ p.positions, i < schema.width) ∧ ∀ row, p.test row = e.holdsIn schema row := by
  induction e generalizing p with
  | column name =>
    obtain ⟨⟨i, type⟩, hfound, hbool⟩ := bind_eq_ok h
    obtain ⟨-, hlt, hcell⟩ := lookUp_eq_ok hfound
    dsimp only at hbool
    split at hbool
    · cases hbool
      refine ⟨by simpa [Predicate.positions] using hlt, fun row => ?_⟩
      rw [holdsIn, hcell]
      rfl
    · cases hbool
  | literal v =>
    cases v with
    | bool v =>
      cases h
      exact ⟨by simp [Predicate.positions], fun row => rfl⟩
    | int | float | text => cases h
  | compare left op right =>
    obtain ⟨leftType, hleft, h⟩ := bind_eq_ok h
    obtain ⟨rightType, hright, h⟩ := bind_eq_ok h
    obtain ⟨l, hl, h⟩ := bind_eq_ok h
    obtain ⟨r, hr, h⟩ := bind_eq_ok h
    cases h
    rw [operandType_eq_ok hright] at hl
    rw [operandType_eq_ok hleft] at hr
    obtain ⟨hlpos, hlcell⟩ := bindOperand_eq_ok hl
    obtain ⟨hrpos, hrcell⟩ := bindOperand_eq_ok hr
    refine ⟨?_, fun row => ?_⟩
    · intro i hi
      exact (List.mem_append.1 hi).elim (hlpos i) (hrpos i)
    · rw [Predicate.test, hlcell, hrcell, holdsIn]
  | both left right ihl ihr | either left right ihl ihr =>
    obtain ⟨l, hl, h⟩ := bind_eq_ok h
    obtain ⟨r, hr, h⟩ := bind_eq_ok h
    cases h
    refine ⟨?_, fun row => ?_⟩
    · intro i hi
      exact (List.mem_append.1 hi).elim ((ihl hl).1 i) ((ihr hr).1 i)
    · rw [Predicate.test, (ihl hl).2, (ihr hr).2, holdsIn]
  | negation inner ih =>
    obtain ⟨q, hq, h⟩ := bind_eq_ok h
    cases h
    refine ⟨(ih hq).1, fun row => ?_⟩
    rw [Predicate.test, (ih hq).2, holdsIn]

end Agreement

end Condition

end TableReport
