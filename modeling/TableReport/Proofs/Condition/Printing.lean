import TableReport.Proofs.Condition.Grammar
import TableReport.Proofs.Condition.Spelling
/-!
# Conditions written as texts

Parentheses stand only around what binds looser than its place asks for. However the tokens of a
condition are spelled, and whichever blanks stand between them, its text is read as that condition.
-/
namespace TableReport

namespace Condition

/-- The phrase that a condition is without parentheses around it. -/
def phrase : Condition → Phrase
  | .column _ | .literal _ => .operand
  | .compare _ _ _ => .comparison
  | .negation _ => .negation
  | .both _ _ => .conjunction
  | .either _ _ => .disjunction

/-- The tokens of a part of a condition, in parentheses where it binds looser than asked for. -/
def part (k : Phrase) (e : Condition) (ts : List Token) : List Token :=
  if depth k ≤ depth e.phrase then ts else .openParen :: (ts ++ [.closeParen])

/-- The tokens of a condition. Chains of one sign need no parentheses on the left. -/
def tokens : Condition → List Token
  | .column v => [.name v]
  | .literal v => [.literal v]
  | .compare left op right =>
    left.part .operand left.tokens ++ .comparison op :: right.part .operand right.tokens
  | .both left right =>
    left.part .conjunction left.tokens ++ .conjunction :: right.part .negation right.tokens
  | .either left right =>
    left.part .disjunction left.tokens ++ .disjunction :: right.part .conjunction right.tokens
  | .negation inner => .negation :: inner.part .negation inner.tokens

theorem derives_part (k : Phrase) {e : Condition} {ts : List Token} (h : Derives e.phrase ts e) :
    Derives k (e.part k ts) e := by
  unfold part
  split
  · rename_i hk
    exact derives_loosen h hk
  · exact derives_parenthesised k (derives_loosen h (by cases e.phrase <;> decide))

theorem derives_tokens (e : Condition) : Derives e.phrase e.tokens e := by
  induction e with
  | column v => exact .name v
  | literal v => exact .literal v
  | compare left op right ihl ihr =>
    exact .comparison op (derives_part .operand ihl) (derives_part .operand ihr)
  | both left right ihl ihr =>
    exact .conjunction (derives_part .conjunction ihl) (derives_part .negation ihr)
  | either left right ihl ihr =>
    exact .disjunction (derives_part .disjunction ihl) (derives_part .conjunction ihr)
  | negation inner ih => exact .negation (derives_part .negation ih)

/-- Operands are expected where literals stand in a phrase, and none is expected after it. -/
theorem placed_of_derives {k : Phrase} {ts : List Token} {e : Condition} (h : Derives k ts e) :
    Lexer.Placed true ts ∧ ∀ b, Lexer.expectedAfter b ts = false := by
  induction h with
  | oneConjunction h ih | oneNegation h ih | oneComparison h ih | oneOperand h ih => exact ih
  | disjunction hl hr ihl ihr | conjunction hl hr ihl ihr | comparison op hl hr ihl ihr =>
    refine ⟨Lexer.placed_append.2 ⟨ihl.1, by simp, ihr.1⟩, fun b => ?_⟩
    rw [Lexer.expectedAfter_append]
    exact ihr.2 true
  | negation h ih => exact ⟨⟨by simp, ih.1⟩, fun b => ih.2 true⟩
  | name v => exact ⟨⟨by simp, trivial⟩, fun b => rfl⟩
  | literal v => exact ⟨⟨by simp, trivial⟩, fun b => rfl⟩
  | parentheses h ih =>
    refine ⟨⟨by simp, Lexer.placed_append.2 ⟨ih.1, by simp, trivial⟩⟩, fun b => ?_⟩
    rw [← List.cons_append, Lexer.expectedAfter_append]
    rfl

/-- A condition is read back from each of its texts. -/
theorem parse_of_spaced_tokens (e : Condition) (s : String)
    (hnames : ∀ v ∈ e.columns, v ≠ "" ∧ Lexer.nameMark ∉ v.toList)
    (hs : Spaced e.tokens s.toList) : parse s = .ok e := by
  have hderives := derives_tokens e
  have hplaced := (placed_of_derives hderives).1
  have htokens : tokenize s = .ok e.tokens :=
    Lexer.tokensAfter_spaced hs
      (fun v hv => hnames v ((name_mem_iff_of_derives hderives v).1 hv)) hplaced
  exact parse_eq_ok_iff.2 ⟨e.tokens, htokens,
    derives_loosen hderives (by cases e.phrase <;> decide)⟩

theorem parse_lowest_and_quotes :
    parse "-9223372036854775808 !=\t( \x60and\x60 or -1.5e3 ) and not \u3000'it\\'s'" =
      .ok (.both (.compare (.literal (.int Int64.minValue)) .ne
        (.either (.column "and") (.literal (.float ⟨13877683922067783680⟩))))
        (.negation (.literal (.text "it's")))) := by
  have hdigit : IsDigits ['1'] ∧ IsDigits ['5'] ∧ IsDigits ['3'] := by simp [IsDigits]
  have hfloat : FloatSpelling ['-', '1', '.', '5', 'e', '3'] :=
    @FloatSpelling.mk ['-'] ['1'] ['5'] ['e', '3'] (.inr rfl) hdigit.1 hdigit.2.1
      (@ExponentSpelling.exponent [] ['3'] (.inl rfl) hdigit.2.2)
  have htext : Escaped '\'' "it's".toList ['i', 't', '\\', '\'', 's'] :=
    .plain (by decide) (by decide) <| .plain (by decide) (by decide) <| .backslash <|
      .plain (by decide) (by decide) .nil
  have hspace : ∀ c ∈ [' '], Text.isBlank c = true := by simp [Text.isBlank]
  have htab : ∀ c ∈ ['\t'], Text.isBlank c = true := by simp [Text.isBlank]
  have hwide : ∀ c ∈ [' ', '\u3000'], Text.isBlank c = true := by simp [Text.isBlank]
  apply parse_of_spaced_tokens
  · decide
  · apply Spaced.more (.int _) (List.cons_ne_nil _ _) hspace
    apply Spaced.more (.comparison _) (List.cons_ne_nil _ _) htab
    apply Spaced.more .openParen (List.cons_ne_nil _ _) hspace
    apply Spaced.more (.name _) (List.cons_ne_nil _ _) hspace
    apply Spaced.more .disjunction (List.cons_ne_nil _ _) hspace
    apply Spaced.more (.float hfloat (by decide +kernel)) (List.cons_ne_nil _ _) hspace
    apply Spaced.more .closeParen (List.cons_ne_nil _ _) hspace
    apply Spaced.more .conjunction (List.cons_ne_nil _ _) hspace
    apply Spaced.more .negation (List.cons_ne_nil _ _) hwide
    exact .last (.text htext)

end Condition

end TableReport
