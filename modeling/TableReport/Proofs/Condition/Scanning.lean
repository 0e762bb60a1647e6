import TableReport.Condition.Lexer
import TableReport.Proofs.Outcome
/-!
# Tokens in a surrounding text

A token that was read off the end of a text is read the same way when more text follows, as long as
that text begins with a character that no token goes on with. So the tokens of a text followed by a
parenthesis are those of the text, then the parenthesis, then those of the rest.
-/
namespace TableReport

namespace Lexer

/-! ### Characters that end every token -/

/-- A character that no token goes on with. -/
def isBreak (c : Char) : Bool :=
  !isWordChar c && !isNumberChar c && c != '=' && c != '+' && c != '-'

/-- Nothing follows, or a character that no token goes on with. -/
def Breaks (more : List Char) : Prop := ∀ d ∈ more.head?, isBreak d = true

theorem breaks_cons {d : Char} (more : List Char) (hd : isBreak d = true) :
    Breaks (d :: more) := by
  intro d' hd'
  obtain rfl : d = d' := by simpa using hd'
  exact hd

/-- Text that follows a token rejects each class of characters that tokens are made of. -/
theorem Breaks.head_eq_false {more : List Char} (h : Breaks more) {p : Char → Bool}
    (hp : ∀ d, isBreak d = true → p d = false) : ∀ d ∈ more.head?, p d = false :=
  fun d hd => hp d (h d hd)

theorem isWordChar_of_isBreak (d : Char) (h : isBreak d = true) : isWordChar d = false := by
  simp only [isBreak, Bool.and_eq_true, Bool.not_eq_true'] at h
  exact h.1.1.1.1

theorem isNumberChar_of_isBreak (d : Char) (h : isBreak d = true) : isNumberChar d = false := by
  simp only [isBreak, Bool.and_eq_true, Bool.not_eq_true'] at h
  exact h.1.1.1.2

theorem isDigit_of_isBreak (d : Char) (h : isBreak d = true) : d.isDigit = false := by
  have hn := isNumberChar_of_isBreak d h
  simp only [isNumberChar, Bool.or_eq_false_iff] at hn
  exact hn.1

theorem isWordChar_of_isWordStart {c : Char} (h : isWordStart c = true) : isWordChar c = true := by
  simp only [isWordStart, isWordChar, Text.isAlphabetic, Text.isAlphanumeric, Bool.or_eq_true] at *
  by_cases hc : c.toNat < 0x80
  · simp only [hc, if_true, Char.isAlphanum, Bool.or_eq_true] at *
    exact h.imp_left .inl
  · simp only [hc, if_false, Bool.or_eq_true] at *
    exact h.imp_left .inl

theorem isWordStart_of_isBreak (d : Char) (h : isBreak d = true) : isWordStart d = false := by
  cases hd : isWordStart d with
  | false => rfl
  | true => exact absurd (isWordChar_of_isWordStart hd) (by simp [isWordChar_of_isBreak d h])

/-! ### Scanners -/

section Scanners

variable {more : List Char}

theorem takeWhile_append_of_head {p : Char → Bool} (hm : ∀ d ∈ more.head?, p d = false)
    (cs : List Char) : (cs ++ more).takeWhile p = cs.takeWhile p := by
  induction cs with
  | nil =>
    cases more with
    | nil => rfl
    | cons d more => simp [hm d rfl]
  | cons c cs ih => simp only [List.cons_append, List.takeWhile_cons, ih]

theorem dropWhile_append_of_head {p : Char → Bool} (hm : ∀ d ∈ more.head?, p d = false)
    (cs : List Char) : (cs ++ more).dropWhile p = cs.dropWhile p ++ more := by
  induction cs with
  | nil =>
    cases more with
    | nil => rfl
    | cons d more => simp [hm d rfl]
  | cons c cs ih =>
    simp only [List.cons_append, List.dropWhile_cons, ih]
    split <;> rfl

theorem quotedText?_append {quote : Char} (hquote : quote ≠ '\\') {cs : List Char}
    {r : List Char × List Char} (h : quotedText? quote cs = some r) (more : List Char) :
    quotedText? quote (cs ++ more) = some (r.1, r.2 ++ more) := by
  fun_induction quotedText? quote cs generalizing r with
  | case1 => cases h
  | case2 c rest ih =>
    obtain ⟨u, hu, rfl⟩ := Option.map_eq_some_iff.1 h
    simp [quotedText?, ih hu]
  | case3 c rest hescape hc =>
    obtain rfl : c = quote := by simpa using hc
    cases h
    simp [quotedText?, hquote]
  | case4 c rest hescape hc ih =>
    obtain ⟨u, hu, rfl⟩ := Option.map_eq_some_iff.1 h
    have hne : rest ≠ [] := by
      rintro rfl
      simp [quotedText?] at hu
    rw [List.cons_append, quotedText?, if_neg hc, ih hu]
    · rfl
    · intro d rest' hd hrest
      cases rest with
      | nil => exact hne rfl
      | cons x xs => exact hescape x xs hd rfl

theorem markedName?_append {cs : List Char} {r : List Char × List Char}
    (h : markedName? cs = some r) (more : List Char) :
    markedName? (cs ++ more) = some (r.1, r.2 ++ more) := by
  fun_induction markedName? cs generalizing r with
  | case1 => cases h
  | case2 c rest hc =>
    cases h
    simp [markedName?, hc]
  | case3 c rest hc ih =>
    obtain ⟨u, hu, rfl⟩ := Option.map_eq_some_iff.1 h
    simp [markedName?, hc, ih hu]

theorem signSpan_append (hm : Breaks more) (cs : List Char) :
    signSpan (cs ++ more) = ((signSpan cs).1, (signSpan cs).2 ++ more) := by
  cases cs with
  | nil =>
    fun_cases signSpan more with
    | case1 ds => exact absurd (hm '+' rfl) (by decide)
    | case2 ds => exact absurd (hm '-' rfl) (by decide)
    | case3 => rfl
  | cons c cs =>
    by_cases hplus : c = '+'
    · subst hplus
      rfl
    by_cases hminus : c = '-'
    · subst hminus
      rfl
    simp [signSpan, hplus, hminus]

theorem exponentSpan_append (hm : Breaks more) (cs : List Char) :
    exponentSpan (cs ++ more) = ((exponentSpan cs).1, (exponentSpan cs).2 ++ more) := by
  have hd := hm.head_eq_false isDigit_of_isBreak
  cases cs with
  | nil =>
    cases more with
    | nil => rfl
    | cons c more =>
      have hc := hm c rfl
      have he : (c == 'e' || c == 'E') = false := by
        rw [Bool.or_eq_false_iff, beq_eq_false_iff_ne, beq_eq_false_iff_ne]
        constructor <;> rintro rfl <;> exact absurd hc (by decide)
      simp [exponentSpan, he]
  | cons c cs =>
    simp only [List.cons_append, exponentSpan, signSpan_append hm, takeWhile_append_of_head hd,
      dropWhile_append_of_head hd]
    split
    · split <;> rfl
    · rfl

theorem numberSpan_append (hm : Breaks more) (c : Char) (cs : List Char) :
    numberSpan c (cs ++ more) = ((numberSpan c cs).1, (numberSpan c cs).2 ++ more) := by
  have hn := hm.head_eq_false isNumberChar_of_isBreak
  simp only [numberSpan, unsignedSpan, takeWhile_append_of_head hn, dropWhile_append_of_head hn,
    exponentSpan_append hm]

/-- A number is read when no letter follows its digits. -/
theorem scanNumber_eq_ok {c : Char} {rest : List Char} {t : Token} {tail : List Char} :
    scanNumber c rest = .ok (t, tail) ↔ numberToken (numberSpan c rest).1 = .ok t ∧
      tail = (numberSpan c rest).2 ∧ ∀ d ∈ tail.head?, isWordStart d = false := by
  unfold scanNumber
  generalize numberSpan c rest = span
  obtain ⟨ds, after⟩ := span
  cases after with
  | nil =>
    simp only [List.head?_nil, map_pair_eq_ok]
    constructor
    · rintro ⟨ht, rfl⟩
      exact ⟨ht, rfl, by simp⟩
    · rintro ⟨ht, rfl, -⟩
      exact ⟨ht, rfl⟩
  | cons d after =>
    simp only [List.head?_cons]
    split
    · rename_i hd
      constructor
      · intro h
        cases h
      · rintro ⟨-, rfl, hstart⟩
        exact absurd (hstart d rfl) (by simp [hd])
    · rename_i hd
      rw [map_pair_eq_ok]
      constructor
      · rintro ⟨ht, rfl⟩
        exact ⟨ht, rfl, by simpa using hd⟩
      · rintro ⟨ht, rfl, -⟩
        exact ⟨ht, rfl⟩

theorem scanNumber_append {c : Char} {rest : List Char} {t : Token} {tail : List Char}
    (hm : Breaks more) (h : scanNumber c rest = .ok (t, tail)) :
    scanNumber c (rest ++ more) = .ok (t, tail ++ more) := by
  obtain ⟨ht, rfl, hstart⟩ := scanNumber_eq_ok.1 h
  rw [scanNumber_eq_ok, numberSpan_append hm]
  refine ⟨ht, rfl, ?_⟩
  intro d hd
  cases hspan : (numberSpan c rest).2 with
  | nil =>
    rw [hspan] at hd
    exact isWordStart_of_isBreak d (hm d hd)
  | cons x xs =>
    rw [hspan] at hd hstart
    exact hstart d hd

theorem scanComparison_append {alone withEquals : Except GrammarProblem Token}
    {rest : List Char} {t : Token} {tail : List Char} (hm : Breaks more)
    (h : scanComparison alone withEquals rest = .ok (t, tail)) :
    scanComparison alone withEquals (rest ++ more) = .ok (t, tail ++ more) := by
  have hequals : ∀ tail, more ≠ '=' :: tail := by
    rintro tail rfl
    exact absurd (hm '=' rfl) (by decide)
  unfold scanComparison at h ⊢
  split at h
  · obtain ⟨ht, rfl⟩ := map_pair_eq_ok.1 h
    exact map_pair_eq_ok.2 ⟨ht, rfl⟩
  · rename_i hrest
    obtain ⟨ht, rfl⟩ := map_pair_eq_ok.1 h
    split
    · rename_i tail hsplit
      cases rest with
      | nil => exact absurd hsplit (hequals tail)
      | cons c rest => exact absurd (by rw [(List.cons.inj hsplit).1]) (hrest rest)
    · exact map_pair_eq_ok.2 ⟨ht, rfl⟩

theorem startsNumber_append {operandExpected : Bool} (hm : Breaks more) (c : Char)
    (rest : List Char) :
    startsNumber operandExpected c (rest ++ more) = startsNumber operandExpected c rest := by
  cases rest with
  | cons d rest => rfl
  | nil =>
    cases more with
    | nil => rfl
    | cons d more =>
      have hd := hm d rfl
      simp [startsNumber, isNumberChar_of_isBreak d hd, isDigit_of_isBreak d hd]

/-- Two chains of cases with the same conditions. -/
private theorem ite_eq_of_ite_eq {α : Type} {p : Prop} [Decidable p] {a b x a' b' x' : α}
    (h : (if p then a else b) = x) (ha : p → a = x → a' = x') (hb : b = x → b' = x') :
    (if p then a' else b') = x' := by
  by_cases hp : p
  · rw [if_pos hp] at h ⊢
    exact ha hp h
  · rw [if_neg hp] at h ⊢
    exact hb h

/-- What follows a token does not change how it is read. -/
theorem scanToken_append {operandExpected : Bool} {c : Char} {rest : List Char} {t : Token}
    {tail : List Char} (hm : Breaks more)
    (h : scanToken operandExpected c rest = .ok (t, tail)) :
    scanToken operandExpected c (rest ++ more) = .ok (t, tail ++ more) := by
  have hword := hm.head_eq_false isWordChar_of_isBreak
  unfold scanToken
  rw [startsNumber_append hm]
  -- The conditions are on the first character alone, so both sides take the same case.
  refine ite_eq_of_ite_eq h ?_ fun h => ite_eq_of_ite_eq h ?_ fun h => ite_eq_of_ite_eq h ?_
    fun h => ite_eq_of_ite_eq h ?_ fun h => ite_eq_of_ite_eq h ?_ fun h => ite_eq_of_ite_eq h ?_
    fun h => ite_eq_of_ite_eq h ?_ fun h => ite_eq_of_ite_eq h ?_ fun h => ite_eq_of_ite_eq h ?_
    fun h => ite_eq_of_ite_eq h ?_ ?_
  case refine_1 | refine_2 =>
    intro _ h
    cases h
    rfl
  case refine_3 | refine_4 | refine_5 | refine_6 =>
    intro _ h
    exact scanComparison_append hm h
  case refine_7 =>
    intro hc h
    have hquote : c ≠ '\\' := by
      rintro rfl
      exact absurd hc (by decide)
    cases hread : quotedText? c rest with
    | none => simp [hread] at h
    | some r =>
      rw [hread] at h
      cases h
      rw [quotedText?_append hquote hread]
  case refine_8 =>
    intro _ h
    cases hread : markedName? rest with
    | none => simp [hread] at h
    | some r =>
      obtain ⟨name, after⟩ := r
      rw [hread] at h
      rw [markedName?_append hread]
      cases name with
      | nil => cases h
      | cons d ds =>
        cases h
        rfl
  case refine_9 =>
    intro _ h
    exact scanNumber_append hm h
  case refine_10 =>
    intro _ h
    cases h
    rw [scanWord, takeWhile_append_of_head hword, dropWhile_append_of_head hword]
  case refine_11 =>
    intro h
    cases h

/-! ### Lists of tokens -/

theorem tokensAfter_blank {c : Char} (hc : Text.isBlank c = true) (operandExpected : Bool)
    (cs : List Char) : tokensAfter operandExpected (c :: cs) = tokensAfter operandExpected cs := by
  rw [tokensAfter_cons, if_pos hc]

theorem tokensAfter_token {c : Char} (hc : Text.isBlank c = false) {operandExpected : Bool}
    {cs : List Char} {t : Token} {tail : List Char}
    (h : scanToken operandExpected c cs = .ok (t, tail)) :
    tokensAfter operandExpected (c :: cs) =
      (tokensAfter t.expectsOperand tail).map (t :: ·) := by
  rw [tokensAfter_cons, if_neg (by simp [hc]), h]

/-- A token that takes a text to its end comes first when more text follows. -/
theorem tokensAfter_whole {operandExpected : Bool} {c : Char} {cs : List Char} {t : Token}
    (hc : Text.isBlank c = false) (h : scanToken operandExpected c cs = .ok (t, []))
    (hm : Breaks more) :
    tokensAfter operandExpected (c :: (cs ++ more)) =
      (tokensAfter t.expectsOperand more).map (t :: ·) :=
  tokensAfter_token hc (scanToken_append hm h)

end Scanners

/-- Whether an operand is expected after a list of tokens. -/
def expectedAfter (operandExpected : Bool) (ts : List Token) : Bool :=
  ts.foldl (fun _ t => t.expectsOperand) operandExpected

theorem expectedAfter_append (operandExpected : Bool) (ts us : List Token) :
    expectedAfter operandExpected (ts ++ us) =
      expectedAfter (expectedAfter operandExpected ts) us :=
  List.foldl_append

/-- The tokens of a text come first when more text follows it. -/
theorem tokensAfter_append {operandExpected : Bool} {cs more : List Char} {ts : List Token}
    (hm : Breaks more) (h : tokensAfter operandExpected cs = .ok ts) :
    tokensAfter operandExpected (cs ++ more) =
      (tokensAfter (expectedAfter operandExpected ts) more).map (ts ++ ·) := by
  fun_induction tokensAfter operandExpected cs generalizing ts with
  | case1 operandExpected =>
    cases h
    change tokensAfter operandExpected more =
      (tokensAfter operandExpected more).map ([] ++ ·)
    cases tokensAfter operandExpected more <;> rfl
  | case2 operandExpected c rest hc ih =>
    rw [List.cons_append, tokensAfter_blank hc]
    exact ih h
  | case3 operandExpected c rest hc e he => cases h
  | case4 operandExpected c rest hc t tail ht hle ih =>
    obtain ⟨us, hus, rfl⟩ := map_eq_ok h
    rw [List.cons_append, tokensAfter_token (by simpa using hc) (scanToken_append hm ht), ih hus]
    change _ = (tokensAfter (expectedAfter t.expectsOperand us) more).map (t :: us ++ ·)
    cases tokensAfter (expectedAfter t.expectsOperand us) more <;> rfl

theorem tokensAfter_openParen (operandExpected : Bool) (cs : List Char) :
    tokensAfter operandExpected ('(' :: cs) = (tokensAfter true cs).map (.openParen :: ·) :=
  tokensAfter_token (by decide) rfl

theorem tokensAfter_closeParen (operandExpected : Bool) (cs : List Char) :
    tokensAfter operandExpected (')' :: cs) = (tokensAfter false cs).map (.closeParen :: ·) :=
  tokensAfter_token (by decide) rfl

/-- A text in parentheses is read as its tokens in parentheses. -/
theorem tokensAfter_parenthesised {operandExpected : Bool} {cs : List Char} {ts : List Token}
    (h : tokensAfter true cs = .ok ts) (more : List Char) :
    tokensAfter operandExpected ('(' :: (cs ++ ')' :: more)) =
      (tokensAfter false more).map (.openParen :: (ts ++ [.closeParen]) ++ ·) := by
  rw [tokensAfter_openParen, tokensAfter_append (breaks_cons more (by decide)) h,
    tokensAfter_closeParen]
  cases tokensAfter false more with
  | error e => rfl
  | ok us => simp [Except.map]

end Lexer

end TableReport
