import Mathlib.Data.List.Nodup
import TableReport.Load.Json.Table
/-!
# Names of members

The names of the members of several objects, each once, are in the order in which they are found first,
object by object and from place to place in each of them.
-/
namespace TableReport

/-- Without repetitions, a list has its members in the order in which they come first. -/
theorem pairwise_eraseDups (xs : List String) : xs.eraseDups.Pairwise fun a b =>
    ∃ pre post, xs = pre ++ a :: post ∧ b ∉ pre ∧ b ≠ a := by
  induction hlength : xs.length using Nat.strongRecOn generalizing xs with
  | ind n ih =>
    cases xs with
    | nil => simp
    | cons x rest =>
      have hmem : ∀ {b}, b ∈ (rest.filter (!· == x)).eraseDups → b ≠ x := by
        intro b hb
        simpa using (List.mem_filter.1 (List.mem_eraseDups.1 hb)).2
      have hshorter : (rest.filter (!· == x)).length < n := by
        rw [← hlength, List.length_cons]
        exact Nat.lt_succ_of_le (List.length_filter_le _ rest)
      rw [List.eraseDups_cons, List.pairwise_cons]
      constructor
      · intro b hb
        exact ⟨[], rest, rfl, List.not_mem_nil, hmem hb⟩
      · apply (ih _ hshorter _ rfl).imp_of_mem
        rintro a b - hb ⟨pre, post, hsplit, hpre, hne⟩
        -- What is left out of the rest between the two is `x`, and so is not `b`.
        have hkept : (!b == x) = true := by simpa using hmem hb
        obtain ⟨l₁, l₂, rfl, rfl, htail⟩ := List.filter_eq_append_iff.1 hsplit
        obtain ⟨l₃, l₄, rfl, hskipped, -, -⟩ := List.filter_eq_cons_iff.1 htail
        refine ⟨x :: (l₁ ++ l₃), l₄, by simp, ?_, hne⟩
        rw [List.mem_cons, List.mem_append, not_or, not_or]
        refine ⟨hmem hb, fun hb₁ => hpre ?_, fun hb₃ => hskipped b hb₃ hkept⟩
        exact List.mem_filter.2 ⟨hb₁, hkept⟩

namespace Json

/-- The object at a position has a member of a name at a place. -/
def OccursAt (objects : List Members) (name : String) (i place : Nat) : Prop :=
  ∃ members, objects[i]? = some members ∧ (members.map Prod.fst)[place]? = some name

/-- A name occurs in an object, and at a place in it, before which another one does not. -/
def FoundBefore (objects : List Members) (name other : String) : Prop :=
  ∃ i place, OccursAt objects name i place ∧
    ∀ i' place', OccursAt objects other i' place' → i < i' ∨ i = i' ∧ place < place'

section Names

variable {objects : List Members} {name other : String}

theorem occursAt_zero_iff {members : Members} {place : Nat} :
    OccursAt (members :: objects) name 0 place ↔ (members.map Prod.fst)[place]? = some name := by
  simp [OccursAt]

/-- The place in the list of all names leads to a place in an object. -/
theorem foundBefore_of_flatMap {pre post : List String}
    (h : objects.flatMap (fun members => members.map Prod.fst) = pre ++ name :: post)
    (hpre : other ∉ pre) (hne : other ≠ name) : FoundBefore objects name other := by
  induction objects generalizing pre with
  | nil => simp at h
  | cons members rest ih =>
    rw [List.flatMap_cons] at h
    have hlater : ∀ left, pre = members.map Prod.fst ++ left →
        rest.flatMap (fun members => members.map Prod.fst) = left ++ name :: post →
          FoundBefore (members :: rest) name other := by
      rintro left rfl hleft
      rw [List.mem_append, not_or] at hpre
      obtain ⟨i, place, hplace, hother⟩ := ih hleft hpre.2
      refine ⟨i + 1, place, hplace, fun i' place' hplace' => ?_⟩
      cases i' with
      | zero => exact absurd (List.mem_of_getElem? (occursAt_zero_iff.1 hplace')) hpre.1
      | succ i' =>
        have := hother i' place' hplace'
        omega
    obtain ⟨left, hleft, hrest⟩ | ⟨right, hright, hrest⟩ := List.append_eq_append_iff.1 h
    · exact hlater left hleft hrest
    · cases right with
      | nil => exact hlater [] (by simpa using hright.symm) hrest.symm
      | cons n right =>
        obtain ⟨rfl, -⟩ := List.cons.inj hrest
        refine ⟨0, pre.length, ?_, fun i' place' hplace' => ?_⟩
        · rw [occursAt_zero_iff, hright]
          simp
        · cases i' with
          | succ i' => exact .inl i'.succ_pos
          | zero =>
            refine .inr ⟨rfl, ?_⟩
            rw [occursAt_zero_iff, hright, List.getElem?_append] at hplace'
            by_contra hle
            split at hplace'
            · exact hpre (List.mem_of_getElem? hplace')
            · rw [show place' - pre.length = 0 by omega] at hplace'
              exact hne (Option.some.inj hplace').symm

theorem mem_memberNames_iff :
    name ∈ memberNames objects ↔ ∃ members ∈ objects, name ∈ members.map Prod.fst := by
  rw [memberNames, List.mem_eraseDups, List.mem_flatMap]

theorem nodup_memberNames (objects : List Members) : (memberNames objects).Nodup :=
  (pairwise_eraseDups _).imp fun ⟨_, _, _, _, hne⟩ => hne.symm

theorem pairwise_memberNames (objects : List Members) :
    (memberNames objects).Pairwise (FoundBefore objects) :=
  (pairwise_eraseDups _).imp fun ⟨_, _, h, hpre, hne⟩ => foundBefore_of_flatMap h hpre hne

end Names

end Json

end TableReport
