import Mathlib.Data.List.Basic
import TableReport.Reduce.Sorting
/-!
# Sorting is stable

Under an order that is lawful on the elements of a list, sorting puts them in ascending order, and
elements that tie stay in the order in which they were. An order need not be lawful on anything else:
cells of different kinds, say, do not compare.
-/
namespace TableReport

variable {α β : Type}

/-- In ascending order; elements that tie may stand in any order. -/
def Ascending (order : α → α → Ordering) (xs : List α) : Prop :=
  xs.Pairwise fun a b => (order a b).isLE = true

/-! ### Lawful orders -/

section Lawful

variable {order : α → α → Ordering} [Std.TransCmp order]

theorem isLE_of_not_lt {a b : α} (h : order a b ≠ .lt) : (order b a).isLE = true := by
  rw [@Std.OrientedCmp.eq_swap _ order _ b a]
  cases hab : order a b with
  | lt => exact absurd hab h
  | eq => rfl
  | gt => rfl

/-- Insertion keeps a list descending. -/
theorem insertDescending_pairwise {x : α} {ys : List α}
    (h : ys.Pairwise fun a b => (order b a).isLE = true) :
    (insertDescending order x ys).Pairwise fun a b => (order b a).isLE = true := by
  induction ys with
  | nil => exact List.pairwise_singleton _ x
  | cons y ys ih =>
    obtain ⟨hy, hys⟩ := List.pairwise_cons.1 h
    unfold insertDescending
    split
    case isTrue hlt =>
      refine List.pairwise_cons.2 ⟨fun z hz => ?_, ih hys⟩
      rcases List.mem_cons.1 ((insertDescending_perm order x ys).mem_iff.1 hz) with rfl | hz
      · rw [hlt]
        rfl
      · exact hy z hz
    case isFalse hge =>
      have hyx := isLE_of_not_lt hge
      refine List.pairwise_cons.2 ⟨fun z hz => ?_, h⟩
      rcases List.mem_cons.1 hz with rfl | hz
      · exact hyx
      · exact Std.TransCmp.isLE_trans (hy z hz) hyx

/-- Insertion puts an element in front of those that it ties with. -/
theorem filter_insertDescending (k x : α) (ys : List α) :
    (insertDescending order x ys).filter (order · k == .eq) =
      (x :: ys).filter (order · k == .eq) := by
  induction ys with
  | nil => rfl
  | cons y ys ih =>
    unfold insertDescending
    split
    case isFalse => rfl
    case isTrue hlt =>
      by_cases hx : order x k = .eq
      · -- The element that is passed is greater than `x`, so it does not tie with `k`.
        have hy : order y k ≠ .eq := by
          intro hy
          have hxy := Std.TransCmp.eq_trans hx (Std.OrientedCmp.eq_symm hy)
          exact absurd (hlt.symm.trans hxy) (by decide)
        simp_all
      · have hskip : ∀ zs, (x :: zs).filter (order · k == .eq) = zs.filter (order · k == .eq) :=
          fun zs => List.filter_cons_of_neg (by simpa using hx)
        rw [hskip] at ih ⊢
        rw [List.filter_cons, List.filter_cons, ih]

theorem insertionSort_ascending (xs : List α) : Ascending order (insertionSort order xs) := by
  have hfold : ∀ (xs acc : List α), acc.Pairwise (fun a b => (order b a).isLE = true) →
      (xs.foldl (fun sorted x => insertDescending order x sorted) acc).Pairwise
        fun a b => (order b a).isLE = true := by
    intro xs
    induction xs with
    | nil => exact fun acc h => h
    | cons x xs ih => exact fun acc h => ih _ (insertDescending_pairwise h)
  exact List.pairwise_reverse.2 (hfold xs [] List.Pairwise.nil)

theorem filter_insertionSort (k : α) (xs : List α) :
    (insertionSort order xs).filter (order · k == .eq) = xs.filter (order · k == .eq) := by
  have hfold : ∀ xs acc : List α,
      (xs.foldl (fun sorted x => insertDescending order x sorted) acc).filter (order · k == .eq) =
        (xs.reverse ++ acc).filter (order · k == .eq) := by
    intro xs
    induction xs with
    | nil => exact fun acc => rfl
    | cons x xs ih =>
      intro acc
      rw [List.foldl_cons, ih, List.reverse_cons, List.append_assoc, List.filter_append,
        filter_insertDescending, ← List.filter_append]
      rfl
  rw [insertionSort, List.filter_reverse, hfold, List.append_nil, List.filter_reverse,
    List.reverse_reverse]

private theorem isLE_total (a b : α) : ((order a b).isLE || (order b a).isLE) = true := by
  rw [@Std.OrientedCmp.eq_swap _ order _ b a]
  cases order a b <;> rfl

theorem sortBy_ascending (xs : List α) : Ascending order (sortBy order xs) := by
  unfold sortBy
  split
  · exact insertionSort_ascending xs
  · exact List.pairwise_mergeSort (fun _ _ _ => Std.TransCmp.isLE_trans) isLE_total xs

theorem filter_sortBy (k : α) (xs : List α) :
    (sortBy order xs).filter (order · k == .eq) = xs.filter (order · k == .eq) := by
  unfold sortBy
  split
  · exact filter_insertionSort k xs
  · -- The elements that tie are an ascending sublist, and such a sublist outlasts merging.
    let tied (x : α) : Bool := order x k == .eq
    have htied : (xs.filter tied).Pairwise fun a b => (order a b).isLE = true := by
      refine List.pairwise_of_forall_mem_list fun a ha b hb => ?_
      have ha' : order a k = .eq := eq_of_beq (List.mem_filter.1 ha).2
      have hb' : order b k = .eq := eq_of_beq (List.mem_filter.1 hb).2
      rw [Std.TransCmp.eq_trans ha' (Std.OrientedCmp.eq_symm hb')]
      rfl
    have hsub : (xs.filter tied).Sublist (xs.mergeSort fun a b => (order a b).isLE) :=
      List.sublist_mergeSort (fun _ _ _ => Std.TransCmp.isLE_trans) isLE_total htied
        List.filter_sublist
    have hfilter := hsub.filter tied
    simp only [List.filter_filter, Bool.and_self] at hfilter
    refine (hfilter.eq_of_length ?_).symm
    exact ((List.mergeSort_perm xs _).filter tied).length_eq.symm

end Lawful

/-! ### Orders that are lawful on a list -/

theorem insertDescending_map {r : α → α → Ordering} {s : β → β → Ordering} {f : α → β} {x : α}
    {ys : List α} (h : ∀ y ∈ ys, r x y = s (f x) (f y)) :
    (insertDescending r x ys).map f = insertDescending s (f x) (ys.map f) := by
  induction ys with
  | nil => rfl
  | cons y ys ih =>
    have hrest := ih fun z hz => h z (List.mem_cons_of_mem y hz)
    rw [List.map_cons, insertDescending, insertDescending, h y List.mem_cons_self]
    split
    · rw [List.map_cons, hrest]
    · rw [List.map_cons, List.map_cons]

/-- Sorting by what elements stand for. -/
theorem sortBy_map {r : α → α → Ordering} {s : β → β → Ordering} {f : α → β} {xs : List α}
    (h : ∀ x ∈ xs, ∀ y ∈ xs, r x y = s (f x) (f y)) :
    (sortBy r xs).map f = sortBy s (xs.map f) := by
  have hfold : ∀ zs acc : List α, (∀ z ∈ zs ++ acc, z ∈ xs) →
      (zs.foldl (fun sorted x => insertDescending r x sorted) acc).map f =
        (zs.map f).foldl (fun sorted x => insertDescending s x sorted) (acc.map f) := by
    intro zs
    induction zs with
    | nil => exact fun acc _ => rfl
    | cons z zs ih =>
      intro acc hmem
      have hz : z ∈ xs := hmem z List.mem_cons_self
      rw [List.foldl_cons, ih, List.map_cons, List.foldl_cons, insertDescending_map]
      · exact fun y hy => h z hz y (hmem y (by simp [hy]))
      · intro y hy
        rw [List.mem_append, (insertDescending_perm r z acc).mem_iff, ← List.mem_append] at hy
        exact hmem y (List.perm_middle.mem_iff.1 hy)
  unfold sortBy
  rw [List.length_map]
  split
  · rw [insertionSort, insertionSort, List.map_reverse, hfold xs [] (by simp), List.map_nil]
  · exact List.map_mergeSort fun x hx y hy => by rw [h x hx y hy]

/-- The order is lawful on the elements of the list. -/
structure LawfulOn (order : α → α → Ordering) (xs : List α) : Prop where
  eq_swap : ∀ {a b}, a ∈ xs → b ∈ xs → order a b = (order b a).swap
  isLE_trans : ∀ {a b c}, a ∈ xs → b ∈ xs → c ∈ xs →
    (order a b).isLE = true → (order b c).isLE = true → (order a c).isLE = true

namespace LawfulOn

variable {order : α → α → Ordering} {xs : List α}

/-- An order on the elements of a list only. -/
def onMembers (order : α → α → Ordering) (xs : List α) (a b : { x // x ∈ xs }) : Ordering :=
  order a.1 b.1

theorem transCmp (h : LawfulOn order xs) : Std.TransCmp (onMembers order xs) where
  eq_swap {a b} := h.eq_swap a.2 b.2
  isLE_trans {a b c} := h.isLE_trans a.2 b.2 c.2

theorem sortBy_eq_map (order : α → α → Ordering) (xs : List α) :
    sortBy order xs = (sortBy (onMembers order xs) xs.attach).map Subtype.val := by
  have hval : ∀ x ∈ xs.attach, ∀ y ∈ xs.attach, onMembers order xs x y = order x.1 y.1 :=
    fun _ _ _ _ => rfl
  rw [sortBy_map hval, List.attach_map_subtype_val]

theorem sortBy_ascending (h : LawfulOn order xs) : Ascending order (sortBy order xs) := by
  have := h.transCmp
  have hsorted : Ascending (onMembers order xs) (sortBy (onMembers order xs) xs.attach) :=
    TableReport.sortBy_ascending xs.attach
  rw [sortBy_eq_map]
  exact List.pairwise_map.2 hsorted

/-- Elements that tie with a given one stay in the order in which they were. -/
theorem filter_sortBy (h : LawfulOn order xs) {k : α} (hk : k ∈ xs) :
    (sortBy order xs).filter (order · k == .eq) = xs.filter (order · k == .eq) := by
  have := h.transCmp
  have hfilter : (sortBy (onMembers order xs) xs.attach).filter
      (onMembers order xs · ⟨k, hk⟩ == .eq) = _ := TableReport.filter_sortBy ⟨k, hk⟩ xs.attach
  have hmap : ∀ ys : List { x // x ∈ xs }, (ys.map Subtype.val).filter (order · k == .eq) =
      (ys.filter (onMembers order xs · ⟨k, hk⟩ == .eq)).map Subtype.val :=
    fun ys => List.filter_map
  rw [sortBy_eq_map, hmap, hfilter, ← hmap, List.attach_map_subtype_val]

theorem order_self (h : LawfulOn order xs) {a : α} (ha : a ∈ xs) : order a a = .eq := by
  have hswap := h.eq_swap ha ha
  cases hself : order a a <;> simp [hself] at hswap ⊢

theorem swap (h : LawfulOn order xs) : LawfulOn (fun a b => (order a b).swap) xs where
  eq_swap ha hb := congrArg Ordering.swap (h.eq_swap ha hb)
  isLE_trans ha hb hc hab hbc := by
    rw [← h.eq_swap hb ha] at hab
    rw [← h.eq_swap hc hb] at hbc
    rw [← h.eq_swap hc ha]
    exact h.isLE_trans hc hb ha hbc hab

/-- Elements that tie keep a relation in which they stood before. -/
theorem sortBy_pairwise (h : LawfulOn order xs) {r : α → α → Prop} (hr : xs.Pairwise r) :
    (sortBy order xs).Pairwise fun a b => order a b = .lt ∨ order a b = .eq ∧ r a b := by
  rw [List.pairwise_iff_forall_sublist]
  intro a b hab
  have hmem : ∀ c ∈ [a, b], c ∈ xs := fun c hc => (sortBy_perm order xs).mem_iff.1 (hab.subset hc)
  have hle := List.pairwise_iff_forall_sublist.1 h.sortBy_ascending hab
  cases hord : order a b with
  | lt => exact .inl rfl
  | gt => simp [hord] at hle
  | eq =>
    -- Both tie with the second, and what ties with it has not moved.
    have htied : [a, b].Sublist xs := by
      have hfilter := hab.filter (order · b == .eq)
      rw [h.filter_sortBy (hmem b (by simp))] at hfilter
      simp only [List.filter_cons, hord, h.order_self (hmem b (by simp))] at hfilter
      exact hfilter.trans List.filter_sublist
    exact .inr ⟨rfl, List.pairwise_iff_forall_sublist.1 hr htied⟩

end LawfulOn

end TableReport
