import TableReport.Condition.Parser
import TableReport.Proofs.Outcome
/-!
# The grammar of conditions

The phrases of conditions are given by rules that mention no reader. The parser is sound for them, step
by step and then for any number of steps, and it finds every phrase that the tokens after it cannot
continue. So it accepts exactly the lists that are a disjunction, each with its only tree.
-/
namespace TableReport

/-- The kinds of phrases, from the loosest to the tightest. -/
inductive Phrase where
  | disjunction
  | conjunction
  | negation
  | comparison
  | operand
deriving DecidableEq, Repr

/-- The phrases of each kind with their trees. A chain is one member, or a chain followed by its sign
and a further member; parentheses leave nothing in the tree. -/
inductive Derives : Phrase → List Token → Condition → Prop where
  | oneConjunction {ts : List Token} {e : Condition} (h : Derives .conjunction ts e) :
      Derives .disjunction ts e
  | disjunction {ts us : List Token} {l r : Condition} (hl : Derives .disjunction ts l)
      (hr : Derives .conjunction us r) :
      Derives .disjunction (ts ++ .disjunction :: us) (.either l r)
  | oneNegation {ts : List Token} {e : Condition} (h : Derives .negation ts e) :
      Derives .conjunction ts e
  | conjunction {ts us : List Token} {l r : Condition} (hl : Derives .conjunction ts l)
      (hr : Derives .negation us r) :
      Derives .conjunction (ts ++ .conjunction :: us) (.both l r)
  | oneComparison {ts : List Token} {e : Condition} (h : Derives .comparison ts e) :
      Derives .negation ts e
  | negation {ts : List Token} {e : Condition} (h : Derives .negation ts e) :
      Derives .negation (.negation :: ts) (.negation e)
  | oneOperand {ts : List Token} {e : Condition} (h : Derives .operand ts e) :
      Derives .comparison ts e
  | comparison {ts us : List Token} {l r : Condition} (op : Comparison)
      (hl : Derives .operand ts l) (hr : Derives .operand us r) :
      Derives .comparison (ts ++ .comparison op :: us) (.compare l op r)
  | name (v : String) : Derives .operand [.name v] (.column v)
  | literal (v : Literal) : Derives .operand [.literal v] (.literal v)
  | parentheses {ts : List Token} {e : Condition} (h : Derives .disjunction ts e) :
      Derives .operand (.openParen :: (ts ++ [.closeParen])) e

namespace Condition

/-- The columns that a condition names. -/
def columns : Condition → List String
  | .column v => [v]
  | .literal _ => []
  | .compare left _ right | .both left right | .either left right => left.columns ++ right.columns
  | .negation inner => inner.columns

/-- A phrase has the names that its tree has. -/
theorem name_mem_iff_of_derives {k : Phrase} {ts : List Token} {e : Condition}
    (h : Derives k ts e) (v : String) : .name v ∈ ts ↔ v ∈ e.columns := by
  induction h with
  | oneConjunction h ih | oneNegation h ih | oneComparison h ih | oneOperand h ih => exact ih
  | disjunction hl hr ihl ihr | conjunction hl hr ihl ihr | comparison op hl hr ihl ihr =>
    simp [columns, ihl, ihr]
  | negation h ih | parentheses h ih => simp [columns, ih]
  | name | literal => simp [columns]

/-! ### Soundness -/

/-- What a reader gives is a phrase of a kind, made of the tokens before and those it takes. -/
def ReadsAfter (k : Phrase) (before : List Token)
    (read : List Token → Except GrammarProblem (Condition × List Token)) : Prop :=
  ∀ ts e rest, read ts = .ok (e, rest) → ∃ us, ts = us ++ rest ∧ Derives k (before ++ us) e

/-- Every reader is sound with a given number of steps. -/
structure SoundWithin (total fuel : Nat) : Prop where
  either : ReadsAfter .disjunction [] (readEither total fuel)
  moreEither : ∀ before left, Derives .disjunction before left →
    ReadsAfter .disjunction before (moreEither total fuel left)
  both : ReadsAfter .conjunction [] (readBoth total fuel)
  moreBoth : ∀ before left, Derives .conjunction before left →
    ReadsAfter .conjunction before (moreBoth total fuel left)
  negation : ReadsAfter .negation [] (readNegation total fuel)
  comparison : ReadsAfter .comparison [] (readComparison total fuel)
  operand : ReadsAfter .operand [] (readOperand total fuel)

section Soundness

variable {total fuel : Nat}

private theorem readEither_step (h : SoundWithin total fuel) :
    ReadsAfter .disjunction [] (readEither total (fuel + 1)) := by
  intro ts e rest hread
  obtain ⟨⟨left, mid⟩, hleft, hmore⟩ := bind_eq_ok hread
  obtain ⟨us, rfl, hd⟩ := h.both _ _ _ hleft
  obtain ⟨vs, rfl, hd'⟩ := h.moreEither us left (.oneConjunction hd) _ _ _ hmore
  exact ⟨us ++ vs, (List.append_assoc us vs rest).symm, hd'⟩

private theorem readBoth_step (h : SoundWithin total fuel) :
    ReadsAfter .conjunction [] (readBoth total (fuel + 1)) := by
  intro ts e rest hread
  obtain ⟨⟨left, mid⟩, hleft, hmore⟩ := bind_eq_ok hread
  obtain ⟨us, rfl, hd⟩ := h.negation _ _ _ hleft
  obtain ⟨vs, rfl, hd'⟩ := h.moreBoth us left (.oneNegation hd) _ _ _ hmore
  exact ⟨us ++ vs, (List.append_assoc us vs rest).symm, hd'⟩

/-- A chain that does not go on is the phrase that was there before. -/
private theorem readsAfter_done {k : Phrase} {before ts rest : List Token} {left e : Condition}
    (hd : Derives k before left)
    (hread : (Except.ok (left, ts) : Except GrammarProblem (Condition × List Token)) =
      .ok (e, rest)) :
    ∃ us, ts = us ++ rest ∧ Derives k (before ++ us) e := by
  cases hread
  exact ⟨[], rfl, by simpa using hd⟩

private theorem moreEither_step (h : SoundWithin total fuel) (before : List Token)
    (left : Condition) (hd : Derives .disjunction before left) :
    ReadsAfter .disjunction before (moreEither total (fuel + 1) left) := by
  intro ts e rest hread
  match ts with
  | .disjunction :: ts =>
    obtain ⟨⟨right, mid⟩, hright, hmore⟩ := bind_eq_ok hread
    obtain ⟨us, rfl, hr⟩ := h.both _ _ _ hright
    obtain ⟨vs, rfl, hd'⟩ := h.moreEither _ _ (.disjunction hd hr) _ _ _ hmore
    exact ⟨.disjunction :: (us ++ vs), by simp, by simpa using hd'⟩
  | [] | .name _ :: _ | .literal _ :: _ | .comparison _ :: _ | .openParen :: _
  | .closeParen :: _ | .conjunction :: _ | .negation :: _ => exact readsAfter_done hd hread

private theorem moreBoth_step (h : SoundWithin total fuel) (before : List Token)
    (left : Condition) (hd : Derives .conjunction before left) :
    ReadsAfter .conjunction before (moreBoth total (fuel + 1) left) := by
  intro ts e rest hread
  match ts with
  | .conjunction :: ts =>
    obtain ⟨⟨right, mid⟩, hright, hmore⟩ := bind_eq_ok hread
    obtain ⟨us, rfl, hr⟩ := h.negation _ _ _ hright
    obtain ⟨vs, rfl, hd'⟩ := h.moreBoth _ _ (.conjunction hd hr) _ _ _ hmore
    exact ⟨.conjunction :: (us ++ vs), by simp, by simpa using hd'⟩
  | [] | .name _ :: _ | .literal _ :: _ | .comparison _ :: _ | .openParen :: _
  | .closeParen :: _ | .disjunction :: _ | .negation :: _ => exact readsAfter_done hd hread

private theorem readNegation_step (h : SoundWithin total fuel) :
    ReadsAfter .negation [] (readNegation total (fuel + 1)) := by
  intro ts e rest hread
  match ts with
  | .negation :: ts =>
    obtain ⟨⟨inner, mid⟩, hinner, hdone⟩ := bind_eq_ok hread
    obtain ⟨us, rfl, hd⟩ := h.negation _ _ _ hinner
    cases hdone
    exact ⟨.negation :: us, rfl, .negation hd⟩
  | [] | .name _ :: _ | .literal _ :: _ | .comparison _ :: _ | .openParen :: _
  | .closeParen :: _ | .disjunction :: _ | .conjunction :: _ =>
    obtain ⟨us, hts, hd⟩ := h.comparison _ _ _ hread
    exact ⟨us, hts, .oneComparison hd⟩

private theorem readComparison_step (h : SoundWithin total fuel) :
    ReadsAfter .comparison [] (readComparison total (fuel + 1)) := by
  intro ts e rest hread
  obtain ⟨⟨left, mid⟩, hleft, hmore⟩ := bind_eq_ok hread
  obtain ⟨us, rfl, hl⟩ := h.operand _ _ _ hleft
  match mid with
  | .comparison op :: mid =>
    obtain ⟨⟨right, last⟩, hright, hdone⟩ := bind_eq_ok hmore
    obtain ⟨vs, rfl, hr⟩ := h.operand _ _ _ hright
    dsimp only at hdone
    split at hdone
    · cases hdone
    · cases hdone
      exact ⟨us ++ .comparison op :: vs, by simp, .comparison op hl hr⟩
  | [] | .name _ :: _ | .literal _ :: _ | .negation :: _ | .openParen :: _
  | .closeParen :: _ | .disjunction :: _ | .conjunction :: _ =>
    cases hmore
    exact ⟨us, rfl, .oneOperand hl⟩

private theorem readOperand_step (h : SoundWithin total fuel) :
    ReadsAfter .operand [] (readOperand total (fuel + 1)) := by
  intro ts e rest hread
  match ts with
  | .name v :: ts =>
    cases hread
    exact ⟨[.name v], rfl, .name v⟩
  | .literal v :: ts =>
    cases hread
    exact ⟨[.literal v], rfl, .literal v⟩
  | .openParen :: ts =>
    obtain ⟨⟨inner, mid⟩, hinner, hclose⟩ := bind_eq_ok hread
    obtain ⟨us, rfl, hd⟩ := h.either _ _ _ hinner
    match mid with
    | .closeParen :: mid =>
      cases hclose
      refine ⟨.openParen :: (us ++ [.closeParen]), by simp, ?_⟩
      exact .parentheses hd
    | [] | .name _ :: _ | .literal _ :: _ | .negation :: _ | .openParen :: _
    | .comparison _ :: _ | .disjunction :: _ | .conjunction :: _ => cases hclose
  | [] | .comparison _ :: _ | .closeParen :: _ | .disjunction :: _ | .conjunction :: _
  | .negation :: _ => cases hread

/-- The readers give only phrases of the grammar, however many steps they are given. -/
theorem soundWithin (total fuel : Nat) : SoundWithin total fuel := by
  induction fuel with
  | zero =>
    refine ⟨?_, ?_, ?_, ?_, ?_, ?_, ?_⟩
    · intro ts e rest hread; cases hread
    · intro before left hd ts e rest hread; exact readsAfter_done hd hread
    · intro ts e rest hread; cases hread
    · intro before left hd ts e rest hread; exact readsAfter_done hd hread
    · intro ts e rest hread; cases hread
    · intro ts e rest hread; cases hread
    · intro ts e rest hread; cases hread
  | succ fuel ih =>
    exact ⟨readEither_step ih, moreEither_step ih, readBoth_step ih, moreBoth_step ih,
      readNegation_step ih, readComparison_step ih, readOperand_step ih⟩

end Soundness

/-! ### Completeness -/

/-- How tightly a phrase binds. The readers of a phrase and of all looser ones use up as many of the
six steps that there are for each token. -/
def depth : Phrase → Nat
  | .disjunction => 1
  | .conjunction => 2
  | .negation => 3
  | .comparison => 4
  | .operand => 5

/-- Whether a token takes a phrase further when it stands behind it. -/
def continues (k : Phrase) : Token → Bool
  | .comparison _ => depth k ≤ 4
  | .conjunction => depth k ≤ 2
  | .disjunction => depth k ≤ 1
  | _ => false

/-- The tokens after a phrase do not take it further. -/
def Ends (k : Phrase) (rest : List Token) : Prop := ∀ t ∈ rest.head?, continues k t = false

/-- A phrase is found at the front of any tokens that do not take it further. The reader of a chain
comes to where it asks for a further member, with steps left for the tokens that are left. -/
def ReadOff (total : Nat) (k : Phrase) (ts : List Token) (e : Condition) : Prop :=
  ∀ rest fuel, 6 * ts.length ≤ fuel + depth k →
    match k with
    | .disjunction => Ends .conjunction rest → ∃ left, fuel ≤ left + 6 * ts.length ∧
        readEither total fuel (ts ++ rest) = moreEither total left e rest
    | .conjunction => Ends .negation rest → ∃ left, fuel ≤ left + 6 * ts.length ∧
        readBoth total fuel (ts ++ rest) = moreBoth total left e rest
    | .negation => Ends .negation rest → readNegation total fuel (ts ++ rest) = .ok (e, rest)
    | .comparison => Ends .comparison rest →
        readComparison total fuel (ts ++ rest) = .ok (e, rest)
    | .operand => readOperand total fuel (ts ++ rest) = .ok (e, rest)

/-- A phrase stands wherever a looser one does. -/
theorem derives_loosen {k k' : Phrase} {ts : List Token} {e : Condition} (h : Derives k ts e)
    (hk : depth k' ≤ depth k) : Derives k' ts e := by
  have hcomparison (hk : depth .comparison ≤ depth k) : Derives .comparison ts e := by
    cases k with
    | operand => exact .oneOperand h
    | comparison => exact h
    | negation | conjunction | disjunction => exact absurd hk (by decide)
  have hnegation (hk : depth .negation ≤ depth k) : Derives .negation ts e := by
    cases k with
    | operand | comparison => exact .oneComparison (hcomparison (by decide))
    | negation => exact h
    | conjunction | disjunction => exact absurd hk (by decide)
  have hconjunction (hk : depth .conjunction ≤ depth k) : Derives .conjunction ts e := by
    cases k with
    | operand | comparison | negation => exact .oneNegation (hnegation (by decide))
    | conjunction => exact h
    | disjunction => exact absurd hk (by decide)
  have hdisjunction : Derives .disjunction ts e := by
    cases k with
    | operand | comparison | negation | conjunction =>
      exact .oneConjunction (hconjunction (by decide))
    | disjunction => exact h
  cases k' with
  | disjunction => exact hdisjunction
  | conjunction => exact hconjunction hk
  | negation => exact hnegation hk
  | comparison => exact hcomparison hk
  | operand =>
    cases k with
    | operand => exact h
    | disjunction | conjunction | negation | comparison => exact absurd hk (by decide)

/-- A condition in parentheses stands for any phrase. -/
theorem derives_parenthesised {ts : List Token} {e : Condition} (k : Phrase)
    (h : Derives .disjunction ts e) : Derives k (.openParen :: (ts ++ [.closeParen])) e :=
  derives_loosen (.parentheses h) (by cases k <;> decide)

theorem derives_length_pos {k : Phrase} {ts : List Token} {e : Condition} (h : Derives k ts e) :
    0 < ts.length := by
  induction h with
  | oneConjunction h ih | oneNegation h ih | oneComparison h ih | oneOperand h ih => exact ih
  | disjunction | conjunction | comparison | negation | name | literal | parentheses =>
    simp only [List.length_append, List.length_cons]
    omega

theorem Ends.tighter {k k' : Phrase} {rest : List Token} (h : Ends k rest)
    (hk : depth k ≤ depth k') : Ends k' rest := by
  intro t ht
  have hcont := h t ht
  cases t <;> simp_all only [continues, decide_eq_false_iff_not] <;> omega

private theorem operand_head {ts : List Token} {e : Condition} (h : Derives .operand ts e) :
    ∃ t us, ts = t :: us ∧ t ≠ .negation := by
  cases h with
  | name v => exact ⟨_, _, rfl, by simp⟩
  | literal v => exact ⟨_, _, rfl, by simp⟩
  | parentheses h => exact ⟨_, _, rfl, by simp⟩

private theorem comparison_head {ts : List Token} {e : Condition}
    (h : Derives .comparison ts e) : ∃ t us, ts = t :: us ∧ t ≠ .negation := by
  cases h with
  | oneOperand h => exact operand_head h
  | comparison op hl hr =>
    obtain ⟨t, us, rfl, hne⟩ := operand_head hl
    exact ⟨t, _, rfl, hne⟩

section Completeness

variable {total : Nat} {ts us : List Token} {e l r : Condition}

private theorem moreEither_ends {left : Nat} {rest : List Token} (hend : Ends .disjunction rest) :
    moreEither total left e rest = .ok (e, rest) := by
  match left, rest with
  | 0, _ => rfl
  | _ + 1, .disjunction :: _ => simp [Ends, continues, depth] at hend
  | _ + 1, [] | _ + 1, .name _ :: _ | _ + 1, .literal _ :: _ | _ + 1, .comparison _ :: _
  | _ + 1, .openParen :: _ | _ + 1, .closeParen :: _ | _ + 1, .conjunction :: _
  | _ + 1, .negation :: _ => rfl

private theorem moreBoth_ends {left : Nat} {rest : List Token} (hend : Ends .conjunction rest) :
    moreBoth total left e rest = .ok (e, rest) := by
  match left, rest with
  | 0, _ => rfl
  | _ + 1, .conjunction :: _ => simp [Ends, continues, depth] at hend
  | _ + 1, [] | _ + 1, .name _ :: _ | _ + 1, .literal _ :: _ | _ + 1, .comparison _ :: _
  | _ + 1, .openParen :: _ | _ + 1, .closeParen :: _ | _ + 1, .disjunction :: _
  | _ + 1, .negation :: _ => rfl

private theorem readOff_oneConjunction (hpos : 0 < ts.length)
    (h : ReadOff total .conjunction ts e) : ReadOff total .disjunction ts e := by
  intro rest fuel hfuel hend
  simp only [depth] at hfuel
  obtain ⟨fuel, rfl⟩ := Nat.exists_eq_add_one.2 (show 0 < fuel by omega)
  obtain ⟨left, -, hread⟩ := h rest fuel (by simp only [depth]; omega) (hend.tighter (by decide))
  refine ⟨fuel, by omega, ?_⟩
  rw [readEither, hread, moreBoth_ends hend]
  rfl

private theorem readOff_disjunction (h : ReadOff total .disjunction ts l)
    (h' : ReadOff total .conjunction us r) :
    ReadOff total .disjunction (ts ++ .disjunction :: us) (.either l r) := by
  intro rest fuel hfuel hend
  simp only [depth, List.length_append, List.length_cons] at hfuel ⊢
  -- The chain so far ends in front of its sign, and from there the reader goes on.
  obtain ⟨left, hleft, hread⟩ := h (.disjunction :: (us ++ rest)) fuel
    (by simp only [depth]; omega) (by simp [Ends, continues, depth])
  obtain ⟨left, rfl⟩ := Nat.exists_eq_add_one.2 (show 0 < left by omega)
  obtain ⟨_, -, hread'⟩ := h' rest left (by simp only [depth]; omega) (hend.tighter (by decide))
  refine ⟨left, by omega, ?_⟩
  rw [List.append_assoc, List.cons_append, hread, moreEither, hread', moreBoth_ends hend]
  rfl

private theorem readOff_oneNegation (hpos : 0 < ts.length)
    (h : ReadOff total .negation ts e) : ReadOff total .conjunction ts e := by
  intro rest fuel hfuel hend
  simp only [depth] at hfuel
  obtain ⟨fuel, rfl⟩ := Nat.exists_eq_add_one.2 (show 0 < fuel by omega)
  have hread := h rest fuel (by simp only [depth]; omega) hend
  refine ⟨fuel, by omega, ?_⟩
  rw [readBoth, hread]
  rfl

private theorem readOff_conjunction (h : ReadOff total .conjunction ts l)
    (h' : ReadOff total .negation us r) :
    ReadOff total .conjunction (ts ++ .conjunction :: us) (.both l r) := by
  intro rest fuel hfuel hend
  simp only [depth, List.length_append, List.length_cons] at hfuel ⊢
  obtain ⟨left, hleft, hread⟩ := h (.conjunction :: (us ++ rest)) fuel
    (by simp only [depth]; omega) (by simp [Ends, continues, depth])
  obtain ⟨left, rfl⟩ := Nat.exists_eq_add_one.2 (show 0 < left by omega)
  have hread' := h' rest left (by simp only [depth]; omega) hend
  refine ⟨left, by omega, ?_⟩
  rw [List.append_assoc, List.cons_append, hread, moreBoth, hread']
  rfl

private theorem readOff_negation (h : ReadOff total .negation ts e) :
    ReadOff total .negation (.negation :: ts) (.negation e) := by
  intro rest fuel hfuel hend
  simp only [depth, List.length_cons] at hfuel
  obtain ⟨fuel, rfl⟩ := Nat.exists_eq_add_one.2 (show 0 < fuel by omega)
  have hread := h rest fuel (by simp only [depth]; omega) hend
  rw [List.cons_append, readNegation, hread]
  rfl

private theorem readOff_oneComparison (hd : Derives .comparison ts e)
    (h : ReadOff total .comparison ts e) : ReadOff total .negation ts e := by
  intro rest fuel hfuel hend
  obtain ⟨t, us, rfl, hne⟩ := comparison_head hd
  simp only [depth, List.length_cons] at hfuel
  obtain ⟨fuel, rfl⟩ := Nat.exists_eq_add_one.2 (show 0 < fuel by omega)
  have hread := h rest fuel (by simp only [depth, List.length_cons]; omega)
    (hend.tighter (by decide))
  rw [List.cons_append, readNegation]
  · exact hread
  · intro ts hts
    exact hne (List.cons.inj hts).1

private theorem readOff_oneOperand (hpos : 0 < ts.length) (h : ReadOff total .operand ts e) :
    ReadOff total .comparison ts e := by
  intro rest fuel hfuel hend
  simp only [depth] at hfuel
  obtain ⟨fuel, rfl⟩ := Nat.exists_eq_add_one.2 (show 0 < fuel by omega)
  have hread := h rest fuel (by simp only [depth]; omega)
  rw [readComparison, hread]
  match rest with
  | .comparison _ :: _ => simp [Ends, continues, depth] at hend
  | [] | .name _ :: _ | .literal _ :: _ | .openParen :: _ | .closeParen :: _
  | .conjunction :: _ | .disjunction :: _ | .negation :: _ => rfl

private theorem readOff_comparison (op : Comparison) (h : ReadOff total .operand ts l)
    (h' : ReadOff total .operand us r) :
    ReadOff total .comparison (ts ++ .comparison op :: us) (.compare l op r) := by
  intro rest fuel hfuel hend
  simp only [depth, List.length_append, List.length_cons] at hfuel
  obtain ⟨fuel, rfl⟩ := Nat.exists_eq_add_one.2 (show 0 < fuel by omega)
  have hread := h (.comparison op :: (us ++ rest)) fuel (by simp only [depth]; omega)
  have hread' := h' rest fuel (by simp only [depth]; omega)
  rw [List.append_assoc, List.cons_append, readComparison, hread]
  change (readOperand total fuel (us ++ rest) >>= _) = _
  rw [hread']
  match rest with
  | .comparison _ :: _ => simp [Ends, continues, depth] at hend
  | [] | .name _ :: _ | .literal _ :: _ | .openParen :: _ | .closeParen :: _
  | .conjunction :: _ | .disjunction :: _ | .negation :: _ => rfl

private theorem readOff_parentheses (h : ReadOff total .disjunction ts e) :
    ReadOff total .operand (.openParen :: (ts ++ [.closeParen])) e := by
  intro rest fuel hfuel
  simp only [depth, List.length_append, List.length_cons, List.length_nil] at hfuel
  obtain ⟨fuel, rfl⟩ := Nat.exists_eq_add_one.2 (show 0 < fuel by omega)
  obtain ⟨_, -, hread⟩ := h (.closeParen :: rest) fuel (by simp only [depth]; omega)
    (by simp [Ends, continues, depth])
  change readOperand total (fuel + 1) (.openParen :: (ts ++ [.closeParen]) ++ rest) = _
  rw [List.cons_append, List.append_assoc, List.singleton_append, readOperand, hread,
    moreEither_ends (by simp [Ends, continues, depth])]
  rfl

/-- Every phrase is found, with enough steps for its tokens. -/
theorem readOff (total : Nat) {k : Phrase} {ts : List Token} {e : Condition}
    (h : Derives k ts e) : ReadOff total k ts e := by
  induction h with
  | oneConjunction h ih => exact readOff_oneConjunction (derives_length_pos h) ih
  | disjunction hl hr ihl ihr => exact readOff_disjunction ihl ihr
  | oneNegation h ih => exact readOff_oneNegation (derives_length_pos h) ih
  | conjunction hl hr ihl ihr => exact readOff_conjunction ihl ihr
  | oneComparison h ih => exact readOff_oneComparison h ih
  | negation h ih => exact readOff_negation ih
  | oneOperand h ih => exact readOff_oneOperand (derives_length_pos h) ih
  | comparison op hl hr ihl ihr => exact readOff_comparison op ihl ihr
  | name v =>
    intro rest fuel hfuel
    obtain ⟨fuel, rfl⟩ := Nat.exists_eq_add_one.2 (show 0 < fuel by simp [depth] at hfuel; omega)
    rfl
  | literal v =>
    intro rest fuel hfuel
    obtain ⟨fuel, rfl⟩ := Nat.exists_eq_add_one.2 (show 0 < fuel by simp [depth] at hfuel; omega)
    rfl
  | parentheses h ih => exact readOff_parentheses ih

theorem readOperand_of_derives (total : Nat) (h : Derives .operand ts e) (rest : List Token)
    (fuel : Nat) (hfuel : 6 * ts.length ≤ fuel + 5) :
    readOperand total fuel (ts ++ rest) = .ok (e, rest) :=
  readOff total h rest fuel hfuel

end Completeness

/-- The parser gives a tree exactly for the disjunctions of the grammar. -/
theorem ofTokens_eq_ok_iff {ts : List Token} {e : Condition} :
    ofTokens ts = .ok e ↔ Derives .disjunction ts e := by
  constructor
  · intro h
    unfold ofTokens at h
    split at h
    · cases h
    · obtain ⟨⟨tree, rest⟩, hread, hrest⟩ := bind_eq_ok h
      obtain ⟨us, hts, hd⟩ := (soundWithin _ _).either _ _ _ hread
      match rest with
      | [] =>
        cases hrest
        simpa [hts] using hd
      | t :: rest => cases hrest
  · intro h
    have hpos := derives_length_pos h
    obtain ⟨left, -, hread⟩ := readOff ts.length h [] (stepsFor ts.length)
      (by simp only [stepsFor, depth]; omega) (by simp [Ends])
    rw [List.append_nil, moreEither_ends (by simp [Ends])] at hread
    rw [ofTokens, if_neg (by simp [List.ne_nil_of_length_pos hpos]), hread]
    rfl

/-- A text has a tree when its tokens are a disjunction. -/
theorem parse_eq_ok_iff {s : String} {e : Condition} :
    parse s = .ok e ↔ ∃ ts, tokenize s = .ok ts ∧ Derives .disjunction ts e := by
  constructor
  · intro h
    obtain ⟨ts, hts, htree⟩ := bind_eq_ok h
    exact ⟨ts, hts, ofTokens_eq_ok_iff.1 htree⟩
  · rintro ⟨ts, hts, hd⟩
    rw [parse, hts]
    exact ofTokens_eq_ok_iff.2 hd

/-! ### Chains of comparisons -/

/-- Where a token can stand in two lists with another token between them. -/
private theorem append_cons_eq {ts us before after : List Token} {s t : Token}
    (h : ts ++ s :: us = before ++ t :: after) :
    (∃ mid, ts = before ++ t :: mid ∧ after = mid ++ s :: us) ∨ (s = t ∧ us = after) ∨
      ∃ mid, us = mid ++ t :: after := by
  rcases List.append_eq_append_iff.1 h with ⟨mid, -, hmid⟩ | ⟨mid, hts, hmid⟩
  · cases mid with
    | nil => exact .inr (.inl (List.cons.inj hmid))
    | cons u mid => exact .inr (.inr ⟨mid, (List.cons.inj hmid).2⟩)
  · cases mid with
    | nil => exact .inr (.inl ⟨(List.cons.inj hmid).1.symm, (List.cons.inj hmid).2.symm⟩)
    | cons u mid =>
      obtain ⟨rfl, rfl⟩ := List.cons.inj hmid
      exact .inl ⟨mid, hts, rfl⟩

/-- What follows a sign of comparison: an operand, and no further sign of comparison after it. -/
def Compared (after : List Token) : Prop :=
  ∃ us x rest, after = us ++ rest ∧ Derives .operand us x ∧ Ends .comparison rest

/-- No phrase compares an operand with two others, and only an operand may be compared with what
follows it. -/
theorem compared_of_derives {k : Phrase} {ts : List Token} {e : Condition} (h : Derives k ts e)
    {before : List Token} {op : Comparison} {after : List Token} (more : List Token)
    (hts : ts = before ++ .comparison op :: after)
    (hmore : k ≠ .operand → Ends .comparison more) : Compared (after ++ more) := by
  induction h generalizing before after more with
  | oneConjunction h ih | oneNegation h ih | oneComparison h ih =>
    exact ih _ hts fun _ => hmore (by simp)
  | oneOperand h ih => exact ih _ hts (by simp)
  | disjunction hl hr ihl ihr | conjunction hl hr ihl ihr =>
    rcases append_cons_eq hts with ⟨mid, hmid, rfl⟩ | ⟨hst, -⟩ | ⟨mid, hmid⟩
    · rw [List.append_assoc]
      exact ihl _ hmid fun _ => by simp [Ends, continues, depth]
    · simp at hst
    · exact ihr _ hmid fun _ => hmore (by simp)
  | negation h ih =>
    cases before with
    | nil => simp at hts
    | cons t before => exact ih _ (List.cons.inj hts).2 fun _ => hmore (by simp)
  | comparison op' hl hr ihl ihr =>
    rcases append_cons_eq hts with ⟨mid, hmid, rfl⟩ | ⟨-, rfl⟩ | ⟨mid, hmid⟩
    · rw [List.append_assoc]
      exact ihl _ hmid (by simp)
    · exact ⟨_, _, more, rfl, hr, hmore (by simp)⟩
    · exact ihr _ hmid (by simp)
  | name v => simp [List.cons_eq_append_iff] at hts
  | literal v => simp [List.cons_eq_append_iff] at hts
  | parentheses h ih =>
    cases before with
    | nil => simp at hts
    | cons t before =>
      rcases append_cons_eq (List.cons.inj hts).2 with ⟨mid, hmid, rfl⟩ | ⟨hst, -⟩ | ⟨mid, hmid⟩
      · rw [List.append_assoc]
        exact ih _ hmid fun _ => by simp [Ends, continues, depth]
      · simp at hst
      · simp at hmid

/-- At most one operand stands at the front of a list. -/
theorem operand_unique {ts us rest rest' : List Token} {x y : Condition}
    (hx : Derives .operand ts x) (hy : Derives .operand us y) (h : ts ++ rest = us ++ rest') :
    rest = rest' := by
  have hread := readOperand_of_derives 0 hx rest (6 * ts.length + 6 * us.length) (by omega)
  have hread' := readOperand_of_derives 0 hy rest' (6 * ts.length + 6 * us.length) (by omega)
  rw [h] at hread
  exact (Prod.mk.inj (Except.ok.inj (hread.symm.trans hread'))).2

/-- The parser accepts exactly the phrases of the grammar, each with its only tree; wherever an operand
stands between two signs of comparison, there is no tree. -/
theorem ofTokens_accepts_grammar (ts : List Token) :
    (∀ e, ofTokens ts = .ok e ↔ Derives .disjunction ts e) ∧
      (∀ e e', Derives .disjunction ts e → Derives .disjunction ts e' → e = e') ∧
      ∀ before op us x op' after, Derives .operand us x →
        ts = before ++ .comparison op :: (us ++ .comparison op' :: after) →
        ∀ e, ofTokens ts ≠ .ok e := by
  refine ⟨fun e => ofTokens_eq_ok_iff, ?_, ?_⟩
  · intro e e' h h'
    exact Except.ok.inj ((ofTokens_eq_ok_iff.2 h).symm.trans (ofTokens_eq_ok_iff.2 h'))
  · intro before op us x op' after hd hts e h
    obtain ⟨vs, y, rest, hsplit, hy, hend⟩ :=
      compared_of_derives (ofTokens_eq_ok_iff.1 h) [] hts fun _ => by simp [Ends]
    rw [List.append_nil] at hsplit
    obtain rfl := operand_unique hd hy hsplit
    simp [Ends, continues, depth] at hend

end Condition

end TableReport
