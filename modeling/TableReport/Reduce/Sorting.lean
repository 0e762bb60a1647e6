/-!
# Sorting

A sort that keeps the order of elements that tie. Short lists are sorted by insertion and longer ones
by merging; the two agree when all elements are comparable. Insertion also gives the order of elements
that are not: each goes back past the elements that it is strictly less than, and no further.
-/
namespace TableReport

variable {α : Type}

/-- Puts an element into a descending list, in front of the first element that it is not less than. -/
def insertDescending (order : α → α → Ordering) (x : α) : List α → List α
  | [] => [x]
  | y :: ys => if order x y = .lt then y :: insertDescending order x ys else x :: y :: ys

/-- The elements in ascending order, by inserting one after the other. -/
def insertionSort (order : α → α → Ordering) (xs : List α) : List α :=
  (xs.foldl (fun sorted x => insertDescending order x sorted) []).reverse

/-- The length up to which a list is short. -/
def insertionLimit : Nat := 20

def sortBy (order : α → α → Ordering) (xs : List α) : List α :=
  if xs.length ≤ insertionLimit then insertionSort order xs
  else xs.mergeSort fun a b => (order a b).isLE

theorem insertDescending_perm (order : α → α → Ordering) (x : α) (ys : List α) :
    (insertDescending order x ys).Perm (x :: ys) := by
  induction ys with
  | nil => exact List.Perm.refl [x]
  | cons y ys ih =>
    unfold insertDescending
    split
    · exact (ih.cons y).trans (List.Perm.swap x y ys)
    · exact List.Perm.refl _

private theorem foldl_insertDescending_perm (order : α → α → Ordering) (xs sorted : List α) :
    (xs.foldl (fun sorted x => insertDescending order x sorted) sorted).Perm (xs ++ sorted) := by
  induction xs generalizing sorted with
  | nil => exact List.Perm.refl sorted
  | cons x xs ih =>
    exact (ih _).trans
      (((insertDescending_perm order x sorted).append_left xs).trans List.perm_middle)

theorem insertionSort_perm (order : α → α → Ordering) (xs : List α) :
    (insertionSort order xs).Perm xs :=
  (List.reverse_perm _).trans (by simpa using foldl_insertDescending_perm order xs [])

/-- Sorting neither loses nor repeats an element. -/
theorem sortBy_perm (order : α → α → Ordering) (xs : List α) : (sortBy order xs).Perm xs := by
  unfold sortBy
  split
  · exact insertionSort_perm order xs
  · exact List.mergeSort_perm xs _

end TableReport
