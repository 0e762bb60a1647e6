import TableReport.Load.Json.Table
import TableReport.Proofs.Json.Members
import TableReport.Proofs.Outcome
import TableReport.Proofs.Text.Blank
/-!
# Dotted paths

Where no name of a record has a dot, at any depth, a path of names with dots between them leads from
object to object to the value that following the names leads to. So a record can be flattened: under a
schema whose paths lead to values that are no objects, its row is that of the record without nested
objects whose members are these values, each under its whole path.
-/
namespace TableReport.Json

variable {v w : Json} {members : Members} {name path : String} {names : List String}

/-! ### Following names -/

/-- The value that names lead to through nested objects. -/
inductive Reaches : Json → List String → Json → Prop
  | here (v : Json) : Reaches v [] v
  | member {members : Members} {name : String} {names : List String} {v w : Json}
      (h : members.get? name = some v) (hrest : Reaches v names w) :
      Reaches (.object members) (name :: names) w

/-- Names that lead nowhere: an object has no member of the next name, or a value before the last name
is no object. -/
inductive Lost : Json → List String → Prop
  | absent {members : Members} {name : String} (h : name ∉ members.map Prod.fst)
      (names : List String) : Lost (.object members) (name :: names)
  | noObject {v : Json} (h : v.members? = none) (name : String) (names : List String) :
      Lost v (name :: names)
  | member {members : Members} {name : String} {names : List String} {v : Json}
      (h : members.get? name = some v) (hrest : Lost v names) :
      Lost (.object members) (name :: names)

/-- What holds of the names of each object, at any depth of nested objects. -/
inductive EveryObject (p : List String → Prop) : Json → Prop
  | noObject {v : Json} (h : v.members? = none) : EveryObject p v
  | object {members : Members} (hnames : p (members.map Prod.fst))
      (hvalues : ∀ m ∈ members, EveryObject p m.2) : EveryObject p (.object members)

/-- No name has a dot. -/
abbrev Undotted : Json → Prop := EveryObject fun names => ∀ name ∈ names, '.' ∉ name.toList

/-- No object has a name twice. -/
abbrev Distinct : Json → Prop := EveryObject List.Nodup

theorem follow?_eq_some_iff : follow? v names = some w ↔ Reaches v names w := by
  constructor
  · intro h
    fun_induction follow? v names with
    | case1 v =>
      obtain rfl := Option.some.inj h
      exact .here v
    | case2 members name names ih =>
      obtain ⟨u, hu, h⟩ := Option.bind_eq_some_iff.1 h
      exact .member hu (ih u h)
    | case3 => cases h
  · intro h
    induction h with
    | here v => simp [follow?]
    | member h hrest ih => simp [follow?, h, ih]

theorem follow?_eq_none_iff : follow? v names = none ↔ Lost v names := by
  constructor
  · intro h
    fun_induction follow? v names with
    | case1 v => cases h
    | case2 members name names ih =>
      cases hu : Members.get? members name with
      | none => exact .absent (Members.get?_eq_none_iff.1 hu) names
      | some u =>
        rw [hu, Option.bind_some] at h
        exact .member hu (ih u h)
    | case3 v name names hobject =>
      refine .noObject ?_ name names
      cases v with
      | object members => exact absurd rfl (hobject members)
      | null | bool | int | float | text | list => rfl
  · intro h
    induction h with
    | absent h names => simp [follow?, Members.get?_eq_none_iff.2 h]
    | @noObject v h name names =>
      cases v with
      | object members => cases h
      | null | bool | int | float | text | list => simp [follow?]
    | member h hrest ih => simp [follow?, h, ih]

/-! ### Names with dots between them -/

/-- The path of some names. -/
def dotted (names : List String) : String := ".".intercalate names

/-- Some names, none of which has a dot. -/
def DotFree (names : List String) : Prop := names ≠ [] ∧ ∀ name ∈ names, '.' ∉ name.toList

/-- The names of a path are found in it again. -/
theorem pieces_dotted (h : DotFree names) : Text.pieces '.' (dotted names) = names := by
  obtain ⟨hne, hdots⟩ := h
  induction names with
  | nil => exact absurd rfl hne
  | cons name names ih =>
    obtain ⟨hname, hrest⟩ := List.forall_mem_cons.1 hdots
    have hpiece : ∀ c ∈ name.toList, (c == '.') = false := by
      intro c hc
      rw [beq_eq_false_iff_ne]
      rintro rfl
      exact hname hc
    cases names with
    | nil =>
      rw [dotted, String.intercalate_singleton, Text.pieces, Text.splitOn_eq_singleton hpiece]
      simp
    | cons next names =>
      have htext : (dotted (name :: next :: names)).toList =
          name.toList ++ '.' :: (dotted (next :: names)).toList := by
        simp [dotted]
      have hpieces := ih (List.cons_ne_nil next names) hrest
      rw [Text.pieces] at hpieces ⊢
      rw [htext, Text.splitOn_append_cons hpiece rfl, List.map_cons, hpieces, String.ofList_toList]

theorem dotted_injOn {names' : List String} (h : DotFree names) (h' : DotFree names')
    (heq : dotted names = dotted names') : names = names' := by
  rw [← pieces_dotted h, heq, pieces_dotted h']

/-- A path without dots is a single name. -/
theorem eq_singleton_of_dotted (hne : names ≠ []) (h : '.' ∉ (dotted names).toList) :
    names = [dotted names] := by
  match names with
  | [] => exact absurd rfl hne
  | [name] => rw [dotted, String.intercalate_singleton]
  | name :: next :: names => simp [dotted] at h

/-! ### Paths in a record -/

theorem undotted_of_mem {m : String × Json} (h : Undotted (.object members)) (hm : m ∈ members) :
    '.' ∉ m.1.toList ∧ Undotted m.2 := by
  cases h with
  | noObject h => cases h
  | object hnames hvalues => exact ⟨hnames m.1 (List.mem_map_of_mem hm), hvalues m hm⟩

/-- Names that lead somewhere are names of members. -/
theorem not_mem_of_reaches (h : Reaches v names w) (hv : Undotted v) :
    ∀ name ∈ names, '.' ∉ name.toList := by
  induction h with
  | here v => exact List.forall_mem_nil _
  | member h hrest ih =>
    obtain ⟨hname, hvalue⟩ := undotted_of_mem hv (Members.mem_of_get? h)
    exact List.forall_mem_cons.2 ⟨hname, ih hvalue⟩

/-- A member of the very name of a path is what the path leads to. -/
theorem atPath?_dotted (hv : Undotted (.object members)) (h : DotFree names) :
    members.atPath? (dotted names) = follow? (.object members) names := by
  unfold Members.atPath?
  cases hget : members.get? (dotted names) with
  | none =>
    dsimp only
    rw [pieces_dotted h]
  | some v =>
    have hdot := (undotted_of_mem hv (Members.mem_of_get? hget)).1
    rw [eq_singleton_of_dotted h.1 hdot]
    simp [follow?, hget]

/-! ### Flattened records -/

/-- A value that is no object, with the names that lead to it. -/
abbrev Leaf := List String × Json

/-- A leaf of a member, as one of the object. -/
def Leaf.under (name : String) (l : Leaf) : Leaf := (name :: l.1, l.2)

mutual

/-- The leaves of a value, which is one itself if it is no object. -/
def leaves : Json → List Leaf
  | .object members => memberLeaves members
  | v => [([], v)]

/-- The leaves of members. -/
def memberLeaves : List (String × Json) → List Leaf
  | [] => []
  | (name, v) :: rest => (leaves v).map (Leaf.under name) ++ memberLeaves rest

end

/-- The members without nested objects: each value that is none has its path for a name. -/
def flattened (members : Members) : Members :=
  (memberLeaves members).map fun l => (dotted l.1, l.2)

theorem leaves_of_noObject (h : v.members? = none) : leaves v = [([], v)] := by
  cases v with
  | object members => cases h
  | null | bool | int | float | text | list => simp only [leaves]

theorem memberLeaves_eq (members : Members) :
    memberLeaves members = members.flatMap fun m => (leaves m.2).map (Leaf.under m.1) := by
  induction members with
  | nil => simp only [memberLeaves, List.flatMap_nil]
  | cons m members ih => rw [memberLeaves, ih, List.flatMap_cons]

theorem mem_memberLeaves_iff {l : Leaf} : l ∈ memberLeaves members ↔
    ∃ m ∈ members, ∃ l' ∈ leaves m.2, l = l'.under m.1 := by
  rw [memberLeaves_eq]
  simp only [List.mem_flatMap, List.mem_map, eq_comm]

theorem leaves_object (members : Members) : leaves (.object members) = memberLeaves members := by
  simp only [leaves]

theorem not_mem_of_mem_leaves (hv : Undotted v) : ∀ l ∈ leaves v, ∀ name ∈ l.1, '.' ∉ name.toList := by
  induction hv with
  | noObject h =>
    rw [leaves_of_noObject h]
    simp
  | @object members hnames hvalues ih =>
    intro l hl
    obtain ⟨m, hm, l', hl', rfl⟩ := mem_memberLeaves_iff.1 (leaves_object members ▸ hl)
    exact List.forall_mem_cons.2 ⟨hnames m.1 (List.mem_map_of_mem hm), ih m hm l' hl'⟩

theorem dotFree_of_mem_memberLeaves (hv : Undotted (.object members)) :
    ∀ l ∈ memberLeaves members, DotFree l.1 := by
  intro l hl
  refine ⟨?_, not_mem_of_mem_leaves hv l (leaves_object members ▸ hl)⟩
  obtain ⟨m, -, l', -, rfl⟩ := mem_memberLeaves_iff.1 hl
  exact List.cons_ne_nil m.1 l'.1

theorem find?_under_self (ls : List Leaf) (name : String) (names : List String) :
    (ls.map (Leaf.under name)).find? (·.1 == name :: names) =
      (ls.find? (·.1 == names)).map (Leaf.under name) := by
  rw [List.find?_map]
  congr 2
  funext l
  simp [Leaf.under]

theorem find?_under_of_ne {n : String} (h : n ≠ name) (ls : List Leaf) (names : List String) :
    (ls.map (Leaf.under n)).find? (·.1 == name :: names) = none := by
  simp [Leaf.under, h]

/-- Names that lead to a value that is no object are those of a leaf, and the first such leaf is the
value. -/
theorem find?_leaves (h : Reaches v names w) (hw : w.members? = none) :
    (leaves v).find? (·.1 == names) = some (names, w) := by
  induction h with
  | here v => simp [leaves_of_noObject hw]
  | @member members name names v w h hrest ih =>
    rw [leaves_object]
    -- The members in front of the one that is taken have other names, and so have all their leaves.
    induction members with
    | nil => cases h
    | cons m members ihm =>
      obtain ⟨n, u⟩ := m
      rw [memberLeaves, List.find?_append]
      by_cases hn : n = name
      case pos =>
        obtain rfl : u = v := by simpa [Members.get?, hn] using h
        rw [hn, find?_under_self, ih hw]
        rfl
      case neg =>
        have hlater : Members.get? members name = some v := by simpa [Members.get?, hn] using h
        rw [find?_under_of_ne hn, ihm hlater, Option.none_or]

theorem reaches_of_mem_leaves (hv : Distinct v) :
    ∀ l ∈ leaves v, Reaches v l.1 l.2 ∧ l.2.members? = none := by
  induction hv with
  | @noObject v h =>
    intro l hl
    obtain rfl : l = ([], v) := by simpa [leaves_of_noObject h] using hl
    exact ⟨.here v, h⟩
  | @object members hnames hvalues ih =>
    intro l hl
    obtain ⟨m, hm, l', hl', rfl⟩ := mem_memberLeaves_iff.1 (leaves_object members ▸ hl)
    obtain ⟨hreaches, hleaf⟩ := ih m hm l' hl'
    exact ⟨.member (Members.get?_of_mem hnames hm) hreaches, hleaf⟩

theorem nodup_leaves (hv : Distinct v) : ((leaves v).map Prod.fst).Nodup := by
  induction hv with
  | noObject h => simp [leaves_of_noObject h]
  | @object members hnames hvalues ih =>
    clear hvalues
    rw [leaves_object]
    induction members with
    | nil => simp [memberLeaves]
    | cons m members ihm =>
      obtain ⟨n, u⟩ := m
      obtain ⟨hn, hrest⟩ := List.nodup_cons.1 hnames
      rw [memberLeaves, List.map_append, List.nodup_append]
      refine ⟨?_, ?_, ?_⟩
      · have hunder : ((leaves u).map (Leaf.under n)).map Prod.fst =
            ((leaves u).map Prod.fst).map (n :: ·) := by
          simp [Leaf.under]
        rw [hunder]
        exact (ih (n, u) List.mem_cons_self).map List.cons_injective
      · exact ihm hrest fun m hm => ih m (List.mem_cons_of_mem _ hm)
      · -- Leaves of different members differ in their first names.
        rintro _ hfirst _ hlater rfl
        obtain ⟨l, hl, rfl⟩ := List.mem_map.1 hlater
        obtain ⟨m, hm, l', -, rfl⟩ := mem_memberLeaves_iff.1 hl
        obtain ⟨_, hl, heq⟩ := List.mem_map.1 hfirst
        obtain ⟨l'', -, rfl⟩ := List.mem_map.1 hl
        obtain ⟨rfl, -⟩ := List.cons.inj heq
        have hname : m.1 ∈ members.map Prod.fst := List.mem_map_of_mem hm
        exact hn hname

/-- A flattened record has no name twice either. -/
theorem nodup_flattened (hdots : Undotted (.object members)) (hnames : Distinct (.object members)) :
    ((flattened members).map Prod.fst).Nodup := by
  have hfree := dotFree_of_mem_memberLeaves hdots
  have hleaves := nodup_leaves hnames
  have hpaths : (flattened members).map Prod.fst = ((memberLeaves members).map Prod.fst).map dotted := by
    simp [flattened]
  rw [leaves_object] at hleaves
  rw [hpaths]
  refine List.Nodup.map_on ?_ hleaves
  intro names hmem names' hmem' heq
  obtain ⟨l, hl, rfl⟩ := List.mem_map.1 hmem
  obtain ⟨l', hl', rfl⟩ := List.mem_map.1 hmem'
  exact dotted_injOn (hfree l hl) (hfree l' hl') heq

/-- A path leads to a value of a record. -/
def LeadsTo (members : Members) (path : String) (v : Json) : Prop :=
  ∃ names, path = dotted names ∧ Reaches (.object members) names v

theorem dotFree_of_reaches (hv : Undotted (.object members)) (h : Reaches (.object members) names w)
    (hw : w.members? = none) : DotFree names := by
  refine ⟨?_, not_mem_of_reaches h hv⟩
  rintro rfl
  cases h
  cases hw

/-- The path of a value that is no object is a name of the flattened record. -/
theorem get?_flattened (hv : Undotted (.object members)) (h : LeadsTo members path w)
    (hw : w.members? = none) : (flattened members).get? path = some w := by
  obtain ⟨names, rfl, hreaches⟩ := h
  have hnames := dotFree_of_reaches hv hreaches hw
  have hfound := find?_leaves hreaches hw
  rw [leaves_object, List.find?_eq_some_iff_append] at hfound
  obtain ⟨-, before, after, hsplit, hbefore⟩ := hfound
  have hother : (before.map fun l => (dotted l.1, l.2)).find? (·.1 == dotted names) = none := by
    rw [List.find?_map, Option.map_eq_none_iff, List.find?_eq_none]
    intro l hl hpath
    have hl' : l ∈ memberLeaves members := hsplit ▸ List.mem_append_left _ hl
    have hsame : l.1 = names :=
      dotted_injOn (dotFree_of_mem_memberLeaves hv l hl') hnames (beq_iff_eq.1 hpath)
    simpa [hsame] using hbefore l hl
  simp [Members.get?, flattened, hsplit, hother]

theorem leadsTo_of_get?_flattened (hv : Distinct (.object members))
    (h : (flattened members).get? path = some w) : LeadsTo members path w ∧ w.members? = none := by
  obtain ⟨l, hl, heq⟩ := List.mem_map.1 (Members.mem_of_get? h)
  obtain ⟨rfl, rfl⟩ := Prod.mk.inj heq
  obtain ⟨hreaches, hleaf⟩ := reaches_of_mem_leaves hv l (leaves_object members ▸ hl)
  exact ⟨⟨l.1, rfl, hreaches⟩, hleaf⟩

/-! ### Tables -/

/-- A record and the flattened one have the same row under paths to values that are no objects. -/
theorem recordCells_flattened {schema : Schema} (hv : Undotted (.object members))
    (hpaths : ∀ field ∈ schema.fields, ∃ v, LeadsTo members field.name v ∧ v.members? = none)
    (row : Nat) :
    recordCells schema (.object members) row = recordCells schema (.object (flattened members)) row := by
  unfold recordCells
  apply mapM_congr
  intro field hfield
  obtain ⟨v, hleads, hleaf⟩ := hpaths field hfield
  have hflat : (flattened members).atPath? field.name = some v := by
    simp [Members.atPath?, get?_flattened hv hleads hleaf]
  obtain ⟨names, hname, hreaches⟩ := hleads
  have hnested : members.atPath? field.name = some v := by
    rw [hname, atPath?_dotted hv (dotFree_of_reaches hv hreaches hleaf)]
    exact follow?_eq_some_iff.2 hreaches
  rw [hnested, hflat]

theorem strictTable_flattened {schema : Schema} {records : List Members}
    (hrecords : ∀ members ∈ records, Undotted (.object members))
    (hpaths : ∀ members ∈ records, ∀ field ∈ schema.fields,
      ∃ v, LeadsTo members field.name v ∧ v.members? = none) :
    strictTable schema (records.map .object) =
      strictTable schema (records.map fun members => .object (flattened members)) := by
  unfold strictTable
  simp only [List.zipIdx_map, List.mapM_map]
  congr 1
  apply mapM_congr
  rintro ⟨members, row⟩ hmem
  have hmembers : members ∈ records := List.fst_mem_of_mem_zipIdx hmem
  exact recordCells_flattened (hrecords members hmembers) (hpaths members hmembers) row

theorem loadTable_flattened {schema : Schema} {records : List Members} {input flat : String}
    (hrecords : ∀ members ∈ records, Undotted (.object members))
    (hpaths : ∀ members ∈ records, ∀ field ∈ schema.fields,
      ∃ v, LeadsTo members field.name v ∧ v.members? = none)
    (hinput : readRecords input = .ok (records.map .object))
    (hflat : readRecords flat = .ok (records.map fun members => .object (flattened members))) :
    loadTable input (some schema) = loadTable flat (some schema) := by
  unfold loadTable
  rw [hinput, hflat]
  exact strictTable_flattened hrecords hpaths

/-- Where no name has a dot, a path leads to what its names lead to, and nowhere exactly when one of them
is no name of a member or a value before the last is no object. A record is flattened to one whose
members are its values that are no objects, each under its path, and under a schema of paths to such
values the flattened records give the table, or the error, that the records do. -/
theorem dotted_paths_address_flattened_records :
    (∀ (members : Members) (names : List String), Undotted (.object members) → names ≠ [] →
      (∀ name ∈ names, '.' ∉ name.toList) →
      (∀ v, members.atPath? (dotted names) = some v ↔ Reaches (.object members) names v) ∧
      (members.atPath? (dotted names) = none ↔ Lost (.object members) names)) ∧
    (∀ members : Members, Undotted (.object members) → Distinct (.object members) →
      ((flattened members).map Prod.fst).Nodup ∧
      ∀ path v, (flattened members).get? path = some v ↔
        LeadsTo members path v ∧ v.members? = none) ∧
    ∀ (schema : Schema) (records : List Members),
      (∀ members ∈ records, Undotted (.object members)) →
      (∀ members ∈ records, ∀ field ∈ schema.fields,
        ∃ v, LeadsTo members field.name v ∧ v.members? = none) →
      strictTable schema (records.map .object) =
          strictTable schema (records.map fun members => .object (flattened members)) ∧
        ∀ input flat, readRecords input = .ok (records.map .object) →
          readRecords flat = .ok (records.map fun members => .object (flattened members)) →
          loadTable input (some schema) = loadTable flat (some schema) := by
  refine ⟨?_, ?_, ?_⟩
  · intro members names hv hne hdots
    rw [atPath?_dotted hv ⟨hne, hdots⟩]
    exact ⟨fun v => follow?_eq_some_iff, follow?_eq_none_iff⟩
  · intro members hdots hnames
    refine ⟨nodup_flattened hdots hnames, fun path v => ?_⟩
    exact ⟨leadsTo_of_get?_flattened hnames, fun ⟨hleads, hleaf⟩ => get?_flattened hdots hleads hleaf⟩
  · intro schema records hrecords hpaths
    refine ⟨strictTable_flattened hrecords hpaths, fun input flat hinput hflat => ?_⟩
    exact loadTable_flattened hrecords hpaths hinput hflat

/-- A record with two levels of nested objects. -/
theorem dotted_paths_of_nested_record :
    let address : Members := [("city", .text "London"), ("zip", .null)]
    let user : Members := [("name", .text "Ada"), ("address", .object address)]
    let members : Members := [("id", .int 1), ("user", .object user)]
    let schema : Schema := ⟨[⟨"id", .int64⟩, ⟨"user.address.city", .utf8⟩]⟩
    (Undotted (.object members) ∧ Distinct (.object members)) ∧
      members.atPath? "user.address.city" = some (.text "London") ∧
      members.atPath? "user.name.first" = none ∧
      (flattened members).get? "user.address.zip" = some .null ∧
      strictTable schema [.object members] = strictTable schema [.object (flattened members)] := by
  intro address user members schema
  have hevery (p : List String → Prop) (haddress : p ["city", "zip"]) (huser : p ["name", "address"])
      (hmembers : p ["id", "user"]) : EveryObject p (.object members) :=
    .object hmembers (List.forall_mem_cons.2 ⟨.noObject rfl, List.forall_mem_singleton.2
      (.object huser (List.forall_mem_cons.2 ⟨.noObject rfl, List.forall_mem_singleton.2
        (.object haddress (List.forall_mem_cons.2 ⟨.noObject rfl, List.forall_mem_singleton.2
          (.noObject rfl)⟩))⟩))⟩)
  have hdots : Undotted (.object members) := hevery _ (by decide) (by decide) (by decide)
  have hnames : Distinct (.object members) := hevery _ (by decide) (by decide) (by decide)
  have hcity : Reaches (.object members) ["user", "address", "city"] (.text "London") :=
    .member rfl (.member rfl (.member rfl (.here _)))
  have hzip : Reaches (.object members) ["user", "address", "zip"] .null :=
    .member rfl (.member rfl (.member rfl (.here _)))
  have hlost : Lost (.object members) ["user", "name", "first"] :=
    .member rfl (.member rfl (.noObject rfl _ _))
  obtain ⟨hpath, hflat, htable⟩ := dotted_paths_address_flattened_records
  refine ⟨⟨hdots, hnames⟩, ?_, ?_, ?_, ?_⟩
  · exact ((hpath members _ hdots (by simp) (by decide)).1 _).2 hcity
  · exact (hpath members _ hdots (by simp) (by decide)).2.2 hlost
  · exact ((hflat members hdots hnames).2 "user.address.zip" _).2 ⟨⟨_, rfl, hzip⟩, rfl⟩
  · refine (htable schema [members] (by simpa using hdots) ?_).1
    rintro _ hmem field hfield
    obtain rfl := List.mem_singleton.1 hmem
    simp only [schema, List.mem_cons, List.not_mem_nil, or_false] at hfield
    rcases hfield with rfl | rfl
    · exact ⟨.int 1, ⟨["id"], rfl, .member rfl (.here _)⟩, rfl⟩
    · exact ⟨_, ⟨_, rfl, hcity⟩, rfl⟩

end TableReport.Json
