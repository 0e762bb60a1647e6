import Mathlib.Data.List.Nodup
import TableReport.Json.Basic
/-!
# Members of an object

An object has no name twice, so putting members into it one by one keeps all of them exactly when their
names are distinct.
-/
namespace TableReport.Json.Members

variable {ms pairs : Members} {name : String} {v : Json}

theorem put_of_not_mem (h : name ∉ ms.map Prod.fst) : put ms name v = ms ++ [(name, v)] := by
  induction ms with
  | nil => rfl
  | cons m ms ih =>
    rw [List.map_cons, List.mem_cons, not_or] at h
    rw [put, if_neg (by simpa using Ne.symm h.1), ih h.2, List.cons_append]

theorem names_put_of_mem (h : name ∈ ms.map Prod.fst) :
    (put ms name v).map Prod.fst = ms.map Prod.fst := by
  induction ms with
  | nil => cases h
  | cons m ms ih =>
    rw [put]
    split
    case isTrue => rfl
    case isFalse hne =>
      rw [List.map_cons, List.mem_cons] at h
      rw [List.map_cons, ih (h.resolve_left fun heq => hne (beq_iff_eq.2 heq.symm)), List.map_cons]

theorem nodup_put (h : (ms.map Prod.fst).Nodup) : ((put ms name v).map Prod.fst).Nodup := by
  by_cases hmem : name ∈ ms.map Prod.fst
  · rwa [names_put_of_mem hmem]
  · rw [put_of_not_mem hmem, List.map_append]
    exact List.Nodup.append h (List.nodup_singleton name) (by simpa using hmem)

theorem nodup_foldl (h : (ms.map Prod.fst).Nodup) :
    ((pairs.foldl (fun ms p => put ms p.1 p.2) ms).map Prod.fst).Nodup := by
  induction pairs generalizing ms with
  | nil => exact h
  | cons p pairs ih => exact ih (nodup_put h)

theorem foldl_eq_append (h : ((ms ++ pairs).map Prod.fst).Nodup) :
    pairs.foldl (fun ms p => put ms p.1 p.2) ms = ms ++ pairs := by
  induction pairs generalizing ms with
  | nil => simp
  | cons p pairs ih =>
    have hfresh : p.1 ∉ ms.map Prod.fst := by
      rw [List.map_append, List.nodup_append] at h
      exact fun hmem => h.2.2 _ hmem _ List.mem_cons_self rfl
    rw [List.foldl_cons, put_of_not_mem hfresh, ih (by simpa using h), List.append_assoc]
    rfl

theorem nodup_ofList (pairs : Members) : ((ofList pairs).map Prod.fst).Nodup :=
  nodup_foldl List.nodup_nil

/-- No member is lost exactly when no two have the same name. -/
theorem ofList_eq_self_iff : ofList pairs = pairs ↔ (pairs.map Prod.fst).Nodup :=
  ⟨fun h => h ▸ nodup_ofList pairs, fun h => foldl_eq_append h⟩

theorem get?_eq_none_iff : get? ms name = none ↔ name ∉ ms.map Prod.fst := by
  rw [get?, Option.map_eq_none_iff, List.find?_eq_none]
  constructor
  · intro h hmem
    obtain ⟨m, hm, rfl⟩ := List.mem_map.1 hmem
    exact h m hm (beq_self_eq_true m.1)
  · intro h m hm heq
    exact h (beq_iff_eq.1 heq ▸ List.mem_map_of_mem hm)

theorem mem_of_get? (h : get? ms name = some v) : (name, v) ∈ ms := by
  obtain ⟨⟨n, u⟩, hfound, rfl⟩ := Option.map_eq_some_iff.1 h
  obtain rfl : n = name := by simpa using List.find?_some hfound
  exact List.mem_of_find?_eq_some hfound

theorem get?_of_mem (hnames : (ms.map Prod.fst).Nodup) (h : (name, v) ∈ ms) :
    get? ms name = some v := by
  induction ms with
  | nil => cases h
  | cons m ms ih =>
    rw [List.map_cons, List.nodup_cons] at hnames
    obtain rfl | h := List.mem_cons.1 h
    · simp [get?]
    · have hne : m.1 ≠ name := fun heq => hnames.1 (heq ▸ List.mem_map_of_mem h)
      rw [← ih hnames.2 h]
      simp [get?, hne]

theorem mem_of_mem_put {m : String × Json} (h : m ∈ put ms name v) : m ∈ ms ∨ m.2 = v := by
  induction ms with
  | nil => exact .inr (congrArg Prod.snd (List.mem_singleton.1 h))
  | cons n ms ih =>
    obtain ⟨n, w⟩ := n
    rw [put] at h
    split at h
    · exact (List.mem_cons.1 h).elim (fun heq => .inr (congrArg Prod.snd heq))
        fun hmem => .inl (List.mem_cons_of_mem _ hmem)
    · rcases List.mem_cons.1 h with rfl | hmem
      · exact .inl List.mem_cons_self
      · exact (ih hmem).imp_left (List.mem_cons_of_mem _)

theorem mem_of_mem_foldl {m : String × Json} (h : m ∈ pairs.foldl (fun ms p => put ms p.1 p.2) ms) :
    m ∈ ms ∨ ∃ p ∈ pairs, p.2 = m.2 := by
  induction pairs generalizing ms with
  | nil => exact .inl h
  | cons p pairs ih =>
    obtain hput | ⟨p', hp', heq⟩ := ih h
    · exact (mem_of_mem_put hput).imp_right fun heq => ⟨p, List.mem_cons_self, heq.symm⟩
    · exact .inr ⟨p', List.mem_cons_of_mem p hp', heq⟩

/-- The values in an object are among those that were put into it. -/
theorem exists_of_mem_ofList {m : String × Json} (h : m ∈ ofList pairs) : ∃ p ∈ pairs, p.2 = m.2 :=
  (mem_of_mem_foldl h).resolve_left List.not_mem_nil

end TableReport.Json.Members
