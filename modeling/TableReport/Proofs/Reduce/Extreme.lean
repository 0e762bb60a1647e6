import TableReport.Proofs.Table.CellOrder
import TableReport.Reduce.Total
/-!
# The extreme of a column

Cells of one type have one least and one greatest cell, whatever the order in which they are looked at.
-/
namespace TableReport

/-- A cell of a list that no other one is further than. -/
structure IsExtreme (further : Ordering) (cells : List Cell) (c : Cell) : Prop where
  mem : c ∈ cells
  not_further : ∀ d ∈ cells, d.order c ≠ further

variable {type : ColumnType} {further : Ordering} {cells cells' : List Cell} {c d : Cell}

theorem IsExtreme.unique (hne : further ≠ .eq) (hof : ∀ c ∈ cells, c.IsOf type)
    (hc : IsExtreme further cells c) (hd : IsExtreme further cells d) : c = d := by
  have hcd := hd.not_further c hc.mem
  have hdc := hc.not_further d hd.mem
  rw [(hof d hd.mem).order_swap (hof c hc.mem)] at hdc
  rw [← (hof c hc.mem).order_eq_iff (hof d hd.mem)]
  cases further <;> cases h : c.order d <;> simp_all

theorem isExtreme_singleton (hne : further ≠ .eq) (hc : c.IsOf type) :
    IsExtreme further [c] c := by
  refine ⟨List.mem_singleton_self c, ?_⟩
  intro d hd
  rw [List.mem_singleton.1 hd, (hc.order_eq_iff hc).2 rfl]
  exact hne.symm

/-- Of two cells, the first is kept unless the second is further. -/
theorem isExtreme_pair (hne : further ≠ .eq) (hc : c.IsOf type) (hd : d.IsOf type) :
    IsExtreme further [c, d] (if d.order? c = some further then d else c) := by
  have hself : ∀ {c : Cell}, c.IsOf type → c.order c ≠ further := by
    intro c hc
    rw [(hc.order_eq_iff hc).2 rfl]
    exact hne.symm
  simp only [hd.order?_eq hc, Option.some_inj]
  by_cases hfurther : d.order c = further
  · have hback : c.order d ≠ further := by
      rw [hc.order_swap hd, hfurther]
      cases further <;> simp_all
    rw [if_pos hfurther]
    exact ⟨by simp, by simp [hback, hself hd]⟩
  · rw [if_neg hfurther]
    exact ⟨by simp, by simp [hfurther, hself hc]⟩

/-- The extreme of some cells stands for all of them. -/
theorem IsExtreme.append (hne : further ≠ .eq) (hof : ∀ c ∈ cells ++ cells', c.IsOf type)
    (hc : IsExtreme further cells c) (hd : IsExtreme further (c :: cells') d) :
    IsExtreme further (cells ++ cells') d := by
  have hcof : c.IsOf type := hof c (List.mem_append_left cells' hc.mem)
  have hmem : d ∈ cells ++ cells' := by
    rcases List.mem_cons.1 hd.mem with rfl | h
    · exact List.mem_append_left cells' hc.mem
    · exact List.mem_append_right cells h
  refine ⟨hmem, ?_⟩
  intro e he
  rcases List.mem_append.1 he with h | h
  · exact (hof e he).order_ne_trans hne hcof (hof d hmem) (hc.not_further e h)
      (hd.not_further c List.mem_cons_self)
  · exact hd.not_further e (List.mem_cons_of_mem c h)

theorem isExtreme_foldl (hne : further ≠ .eq) (hof : ∀ d ∈ c :: cells, d.IsOf type) :
    IsExtreme further (c :: cells)
      (cells.foldl (fun best d => if d.order? best = some further then d else best) c) := by
  induction cells generalizing c with
  | nil => exact isExtreme_singleton hne (hof c List.mem_cons_self)
  | cons d cells ih =>
    -- The fold goes on with one of the first two cells, which stands for both.
    have hpair := isExtreme_pair hne (hof c (by simp)) (hof d (by simp))
    have hof' : ∀ e ∈ [c, d] ++ cells, e.IsOf type := hof
    rw [List.foldl_cons]
    apply hpair.append hne hof'
    apply ih
    intro e he
    rcases List.mem_cons.1 he with rfl | he
    · exact hof' _ (List.mem_append_left cells hpair.mem)
    · exact hof' e (List.mem_append_right _ he)

theorem isExtreme_of_extreme (hne : further ≠ .eq) (hof : ∀ c ∈ cells, c.IsOf type)
    (h : Table.extreme further cells = some c) : IsExtreme further cells c := by
  cases cells with
  | nil => cases h
  | cons best cells =>
    obtain rfl := Option.some.inj h
    exact isExtreme_foldl hne hof

/-- The extreme does not depend on the order of the cells. -/
theorem extreme_of_perm (hne : further ≠ .eq) (hof : ∀ c ∈ cells, c.IsOf type)
    (hperm : cells.Perm cells') : Table.extreme further cells = Table.extreme further cells' := by
  have hof' : ∀ c ∈ cells', c.IsOf type := fun c hc => hof c (hperm.mem_iff.2 hc)
  cases h : Table.extreme further cells with
  | none =>
    cases cells with
    | nil => rw [← hperm.nil_eq]; rfl
    | cons c cells => cases h
  | some c =>
    cases h' : Table.extreme further cells' with
    | none =>
      cases cells' with
      | nil => rw [hperm.eq_nil] at h; cases h
      | cons c cells => cases h'
    | some d =>
      have hc := isExtreme_of_extreme hne hof h
      have hd := isExtreme_of_extreme hne hof' h'
      have hd' : IsExtreme further cells d :=
        ⟨hperm.mem_iff.2 hd.mem, fun c hc => hd.not_further c (hperm.mem_iff.1 hc)⟩
      rw [hc.unique hne hof hd']

end TableReport
