import TableReport.Proofs.Condition.Grammar
import TableReport.Proofs.Condition.Scanning
import TableReport.Reduce.Selection
/-!
# Conditions made of conditions

Condition texts in parentheses can be joined by `and` and by `or` and negated by `not`. The text of
each is read as it is alone, so the masks are joined row by row.
-/
namespace TableReport

namespace Lexer

/-- Two texts in parentheses with a word between them. -/
theorem tokensAfter_joined {c : Char} {cs : List Char} {t : Token}
    (hc : Text.isBlank c = false) (h : scanToken false c cs = .ok (t, []))
    {left right : List Char} {ts us : List Token} (hl : tokensAfter true left = .ok ts)
    (hr : tokensAfter true right = .ok us) :
    tokensAfter true ('(' :: (left ++ ')' :: ' ' :: c :: (cs ++ ' ' :: '(' :: (right ++ [')'])))) =
      .ok ((.openParen :: (ts ++ [.closeParen])) ++ t :: .openParen :: (us ++ [.closeParen])) := by
  rw [tokensAfter_parenthesised hl, tokensAfter_blank (by decide),
    tokensAfter_whole hc h (breaks_cons _ (by decide)), tokensAfter_blank (by decide),
    tokensAfter_parenthesised hr]
  rw [tokensAfter_nil]
  simp [Except.map]

/-- A word and a text in parentheses. -/
theorem tokensAfter_prefixed {c : Char} {cs : List Char} {t : Token}
    (hc : Text.isBlank c = false) (h : scanToken true c cs = .ok (t, []))
    {right : List Char} {us : List Token} (hr : tokensAfter true right = .ok us) :
    tokensAfter true (c :: (cs ++ ' ' :: '(' :: (right ++ [')']))) =
      .ok (t :: .openParen :: (us ++ [.closeParen])) := by
  rw [tokensAfter_whole hc h (breaks_cons _ (by decide)), tokensAfter_blank (by decide),
    tokensAfter_parenthesised hr]
  rw [tokensAfter_nil]
  simp [Except.map]

end Lexer

namespace Condition

variable {c₁ c₂ : String} {e₁ e₂ : Condition}

theorem parse_and (h₁ : parse c₁ = .ok e₁) (h₂ : parse c₂ = .ok e₂) :
    parse ("(" ++ c₁ ++ ") and (" ++ c₂ ++ ")") = .ok (.both e₁ e₂) := by
  obtain ⟨ts, hts, hd⟩ := parse_eq_ok_iff.1 h₁
  obtain ⟨us, hus, hd'⟩ := parse_eq_ok_iff.1 h₂
  have hword : Lexer.scanToken false 'a' ['n', 'd'] = .ok (.conjunction, []) := rfl
  have htokens := Lexer.tokensAfter_joined (by decide) hword hts hus
  have hboth := Derives.conjunction (derives_parenthesised .conjunction hd)
    (derives_parenthesised .negation hd')
  exact parse_eq_ok_iff.2 ⟨_, by simpa [tokenize] using htokens, .oneConjunction hboth⟩

theorem parse_or (h₁ : parse c₁ = .ok e₁) (h₂ : parse c₂ = .ok e₂) :
    parse ("(" ++ c₁ ++ ") or (" ++ c₂ ++ ")") = .ok (.either e₁ e₂) := by
  obtain ⟨ts, hts, hd⟩ := parse_eq_ok_iff.1 h₁
  obtain ⟨us, hus, hd'⟩ := parse_eq_ok_iff.1 h₂
  have hword : Lexer.scanToken false 'o' ['r'] = .ok (.disjunction, []) := rfl
  have htokens := Lexer.tokensAfter_joined (by decide) hword hts hus
  have heither := Derives.disjunction (derives_parenthesised .disjunction hd)
    (derives_parenthesised .conjunction hd')
  exact parse_eq_ok_iff.2 ⟨_, by simpa [tokenize] using htokens, heither⟩

theorem parse_not (h₁ : parse c₁ = .ok e₁) :
    parse ("not (" ++ c₁ ++ ")") = .ok (.negation e₁) := by
  obtain ⟨ts, hts, hd⟩ := parse_eq_ok_iff.1 h₁
  have hword : Lexer.scanToken true 'n' ['o', 't'] = .ok (.negation, []) := rfl
  have htokens := Lexer.tokensAfter_prefixed (by decide) hword hts
  have hnegation := Derives.negation (derives_parenthesised .negation hd)
  exact parse_eq_ok_iff.2 ⟨_, by simpa [tokenize] using htokens,
    derives_loosen hnegation (by decide)⟩

end Condition

namespace Predicate

theorem compile_eq_ok_iff {schema : Schema} {s : String} {p : Predicate} :
    compile schema s = .ok p ↔ ∃ e, Condition.parse s = .ok e ∧ e.bind schema = .ok p := by
  unfold compile
  cases Condition.parse s with
  | error problem => simp
  | ok e => simp

variable {schema : Schema} {c₁ c₂ : String} {p₁ p₂ : Predicate}

theorem compile_and (h₁ : compile schema c₁ = .ok p₁) (h₂ : compile schema c₂ = .ok p₂) :
    compile schema ("(" ++ c₁ ++ ") and (" ++ c₂ ++ ")") = .ok (.both p₁ p₂) := by
  obtain ⟨e₁, he₁, hp₁⟩ := compile_eq_ok_iff.1 h₁
  obtain ⟨e₂, he₂, hp₂⟩ := compile_eq_ok_iff.1 h₂
  refine compile_eq_ok_iff.2 ⟨.both e₁ e₂, Condition.parse_and he₁ he₂, ?_⟩
  rw [Condition.bind, hp₁, hp₂]
  rfl

theorem compile_or (h₁ : compile schema c₁ = .ok p₁) (h₂ : compile schema c₂ = .ok p₂) :
    compile schema ("(" ++ c₁ ++ ") or (" ++ c₂ ++ ")") = .ok (.either p₁ p₂) := by
  obtain ⟨e₁, he₁, hp₁⟩ := compile_eq_ok_iff.1 h₁
  obtain ⟨e₂, he₂, hp₂⟩ := compile_eq_ok_iff.1 h₂
  refine compile_eq_ok_iff.2 ⟨.either e₁ e₂, Condition.parse_or he₁ he₂, ?_⟩
  rw [Condition.bind, hp₁, hp₂]
  rfl

theorem compile_not (h₁ : compile schema c₁ = .ok p₁) :
    compile schema ("not (" ++ c₁ ++ ")") = .ok (.negation p₁) := by
  obtain ⟨e₁, he₁, hp₁⟩ := compile_eq_ok_iff.1 h₁
  refine compile_eq_ok_iff.2 ⟨.negation e₁, Condition.parse_not he₁, ?_⟩
  rw [Condition.bind, hp₁]
  rfl

theorem mask_both (p q : Predicate) (t : Table) :
    (Predicate.both p q).mask t = List.zipWith (· && ·) (p.mask t) (q.mask t) := by
  simp only [mask, List.zipWith_map_left, List.zipWith_map_right, List.zipWith_self]
  rfl

theorem mask_either (p q : Predicate) (t : Table) :
    (Predicate.either p q).mask t = List.zipWith (· || ·) (p.mask t) (q.mask t) := by
  simp only [mask, List.zipWith_map_left, List.zipWith_map_right, List.zipWith_self]
  rfl

theorem mask_negation (p : Predicate) (t : Table) :
    (Predicate.negation p).mask t = (p.mask t).map (!·) := by
  simp only [mask, List.map_map]
  rfl

theorem filter_filter (p q : Predicate) (t : Table) :
    (t.filter (p.test ·)).filter (q.test ·) = t.filter ((Predicate.both p q).test ·) := by
  simp only [Table.filter, List.filter_filter, test, Bool.and_comm]

private theorem length_filter_or_add {α : Type} (f g : α → Bool) (xs : List α) :
    (xs.filter fun x => f x || g x).length + (xs.filter fun x => f x && g x).length =
      (xs.filter f).length + (xs.filter g).length := by
  induction xs with
  | nil => rfl
  | cons x xs ih =>
    cases hf : f x <;> cases hg : g x <;> simp [hf, hg] <;> omega

theorem matching_either_add_both (p q : Predicate) (t : Table) (sample : Nat) :
    (t.select (.either p q) sample).matching + (t.select (.both p q) sample).matching =
      (t.select p sample).matching + (t.select q sample).matching :=
  length_filter_or_add (p.test ·) (q.test ·) t.rows

/-- Condition texts in parentheses, joined by words, are conditions again. Their masks are joined row
by row, so filtering twice is filtering by `and`, and rows are counted as often by `or` and `and`
together as by the two conditions. -/
theorem compile_composes (t : Table) (c₁ c₂ : String) (p₁ p₂ : Predicate)
    (h₁ : compile t.schema c₁ = .ok p₁) (h₂ : compile t.schema c₂ = .ok p₂) :
    ∃ both either negation,
      compile t.schema ("(" ++ c₁ ++ ") and (" ++ c₂ ++ ")") = .ok both ∧
      compile t.schema ("(" ++ c₁ ++ ") or (" ++ c₂ ++ ")") = .ok either ∧
      compile t.schema ("not (" ++ c₁ ++ ")") = .ok negation ∧
      both.mask t = List.zipWith (· && ·) (p₁.mask t) (p₂.mask t) ∧
      either.mask t = List.zipWith (· || ·) (p₁.mask t) (p₂.mask t) ∧
      negation.mask t = (p₁.mask t).map (!·) ∧
      (t.filter (p₁.test ·)).filter (p₂.test ·) = t.filter (both.test ·) ∧
      ∀ sample, (t.select either sample).matching + (t.select both sample).matching =
        (t.select p₁ sample).matching + (t.select p₂ sample).matching := by
  refine ⟨.both p₁ p₂, .either p₁ p₂, .negation p₁, compile_and h₁ h₂, compile_or h₁ h₂,
    compile_not h₁, mask_both p₁ p₂ t, mask_either p₁ p₂ t, mask_negation p₁ t,
    filter_filter p₁ p₂ t, ?_⟩
  intro sample
  exact matching_either_add_both p₁ p₂ t sample

theorem compile_composes_signs_and_quotes :
    ∃ both, compile ⟨[⟨"a) or (b", .utf8⟩, ⟨"n", .int64⟩]⟩
        ("(" ++ "\x60a) or (b\x60 == 'x\\') and ('" ++ ") and (" ++ "n != -6" ++ ")") = .ok both ∧
      both.mask ⟨⟨[⟨"a) or (b", .utf8⟩, ⟨"n", .int64⟩]⟩, [[.text "x') and (", .int 4],
        [.text "y", .int (-6)], [.text "x') and ("], []]⟩ = [true, false, true, false] := by
  obtain ⟨both, -, -, hboth, -, -, hmask, -⟩ := compile_composes
    ⟨⟨[⟨"a) or (b", .utf8⟩, ⟨"n", .int64⟩]⟩, [[.text "x') and (", .int 4],
      [.text "y", .int (-6)], [.text "x') and ("], []]⟩
    "\x60a) or (b\x60 == 'x\\') and ('" "n != -6"
    (.compare (.column 0) .eq (.value (.text "x') and (")))
    (.compare (.column 1) .ne (.value (.int (-6)))) (by decide +kernel)
    (by decide +kernel)
  exact ⟨both, hboth, hmask.trans (by decide +kernel)⟩

end Predicate

end TableReport
