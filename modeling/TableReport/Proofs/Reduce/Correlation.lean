import TableReport.Proofs.Number.Product
import TableReport.Reduce.Correlation
/-!
# Exchanging the columns of a correlation

With the sides of each pair exchanged, the sums over the pairs are the same at every step, but for the two
variances, which change places. Nothing else is used of the arithmetic than that factors may be exchanged.
-/
namespace TableReport

namespace Moments

section Generic

variable {α : Type}

/-- The moments of the pairs with their sides exchanged. -/
def exchanged (m : Moments α) : Moments α := ⟨m.covariance, m.varianceY, m.varianceX⟩

theorem add_swap [Add α] [Sub α] [Mul α] (hmul : ∀ a b : α, a * b = b * a) (meanX meanY : α)
    (m : Moments α) (p : α × α) :
    m.exchanged.add meanY meanX p.swap = (m.add meanX meanY p).exchanged := by
  simp only [add, exchanged, Prod.fst_swap, Prod.snd_swap, hmul (p.2 - meanY) (p.1 - meanX)]

theorem foldl_add_swap [Add α] [Sub α] [Mul α] (hmul : ∀ a b : α, a * b = b * a) (meanX meanY : α)
    (pairs : List (α × α)) (m : Moments α) :
    (pairs.map Prod.swap).foldl (add meanY meanX) m.exchanged =
      (pairs.foldl (add meanX meanY) m).exchanged := by
  induction pairs generalizing m with
  | nil => rfl
  | cons p pairs ih => rw [List.map_cons, List.foldl_cons, List.foldl_cons, add_swap hmul, ih]

theorem ofPairs_swap [Zero α] [Neg α] [Add α] [Sub α] [Mul α] [Div α] [NatCast α]
    (hmul : ∀ a b : α, a * b = b * a) (pairs : List (α × α)) :
    ofPairs (pairs.map Prod.swap) = (ofPairs pairs).exchanged := by
  have hfst : (pairs.map Prod.swap).map Prod.fst = pairs.map Prod.snd := by simp
  have hsnd : (pairs.map Prod.swap).map Prod.snd = pairs.map Prod.fst := by simp
  simp only [ofPairs, hfst, hsnd]
  exact foldl_add_swap hmul _ _ pairs ⟨0, 0, 0⟩

end Generic

end Moments

namespace Correlation

theorem coefficient?_exchanged (m : Moments Binary64) : coefficient? m.exchanged = coefficient? m := by
  simp only [coefficient?, Moments.exchanged, Binary64.mul_comm m.varianceY m.varianceX]

theorem ofPairs_swap (pairs : List (Binary64 × Binary64)) :
    ofPairs (pairs.map Prod.swap) = ofPairs pairs := by
  simp only [ofPairs, coefficientOf?, List.length_map, Moments.ofPairs_swap Binary64.mul_comm,
    coefficient?_exchanged]

end Correlation

namespace Table

variable (t : Table) (x y : Nat)

theorem pairs_swap : t.pairs y x = (t.pairs x y).map Prod.swap := by
  rw [pairs, pairs, List.map_filterMap]
  congr 1
  funext row
  cases (row.cell x).comparable? <;> cases (row.cell y).comparable? <;> rfl

theorem correlate_swap : t.correlate y x = t.correlate x y := by
  rw [correlate, pairs_swap, Correlation.ofPairs_swap, correlate]

end Table

end TableReport
