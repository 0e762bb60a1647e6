import TableReport.Proofs.Condition.Spelling
/-!
# The lexemes of a condition text

What the tokens of a text tell about the text. Each token has a lexeme, the characters it is written
as, and the text is these lexemes with blanks around them and nothing else. Where a lexeme may stand
depends on what is next to it: a sign is not one of two signs, a number does not run on into a word, a
word and a number go on as long as they can, and a number has a minus sign only where an operand is
expected. A text has certain tokens exactly when it is written as their lexemes.
-/
namespace TableReport

/-! ### Lexemes -/

/-- The words that are no names. -/
def keywords : List (String × Token) :=
  [("and", .conjunction), ("or", .disjunction), ("not", .negation),
    ("true", .literal (.bool true)), ("True", .literal (.bool true)),
    ("false", .literal (.bool false)), ("False", .literal (.bool false))]

/-- The token of a word: that of a keyword, and a name for every other word. -/
inductive WordToken : String → Token → Prop
  | keyword {w : String} {t : Token} (h : (w, t) ∈ keywords) : WordToken w t
  | name {w : String} (h : w ∉ keywords.map Prod.fst) : WordToken w (.name w)

/-- The marks that a binary64 number has and an integer has not. -/
def IsFloatMark (c : Char) : Prop := c = '.' ∨ c = 'e' ∨ c = 'E'

/-- The token of a number: the integer or the binary64 number that is read from its characters. -/
inductive NumberToken (cs : List Char) : Token → Prop
  | int {v : Int64} (hmarks : ∀ c ∈ cs, ¬ IsFloatMark c)
      (hread : readInt64 (String.ofList cs) = .ok v) : NumberToken cs (.literal (.int v))
  | float {x : Binary64} (hmark : ∃ c ∈ cs, IsFloatMark c)
      (hread : readBinary64? (String.ofList cs) = some x) : NumberToken cs (.literal (.float x))

/-- What a token is written as, given the characters that follow. -/
inductive Lexeme : Token → List Char → List Char → Prop
  | openParen (rest : List Char) : Lexeme .openParen ['('] rest
  | closeParen (rest : List Char) : Lexeme .closeParen [')'] rest
  | comparison (op : Comparison) {rest : List Char}
      (halone : op = .gt ∨ op = .lt → rest.head? ≠ some '=') :
      Lexeme (.comparison op) op.symbol.toList rest
  | text {quote : Char} {s cs : List Char} (hquote : quote = '\'' ∨ quote = '"')
      (h : Escaped quote s cs) (rest : List Char) :
      Lexeme (.literal (.text (String.ofList s))) (quote :: (cs ++ [quote])) rest
  | name {cs : List Char} (hne : cs ≠ []) (hmark : Lexer.nameMark ∉ cs) (rest : List Char) :
      Lexeme (.name (String.ofList cs)) (Lexer.nameMark :: (cs ++ [Lexer.nameMark])) rest
  | number {t : Token} {cs rest : List Char} (h : NumberText cs rest) (ht : NumberToken cs t)
      (hrest : ∀ d ∈ rest.head?, Lexer.isWordStart d = false) : Lexeme t cs rest
  | word {t : Token} {c : Char} {cs rest : List Char} (hc : Lexer.isWordStart c = true)
      (hcs : ∀ d ∈ cs, Lexer.isWordChar d = true)
      (hrest : ∀ d ∈ rest.head?, Lexer.isWordChar d = false)
      (ht : WordToken (String.ofList (c :: cs)) t) : Lexeme t (c :: cs) rest

/-- An operand comes first, and after an opening parenthesis, a comparison or a connective. -/
inductive OperandNext : Option Token → Prop
  | first : OperandNext none
  | openParen : OperandNext (some .openParen)
  | comparison (op : Comparison) : OperandNext (some (.comparison op))
  | conjunction : OperandNext (some .conjunction)
  | disjunction : OperandNext (some .disjunction)
  | negation : OperandNext (some .negation)

/-- Lexemes with blanks or nothing before each of them and after the last, given the token that they
follow. Only where an operand comes does one of them begin with a minus sign. -/
inductive Lexemes : Option Token → List Token → List Char → Prop
  | done {previous : Option Token} {blanks : List Char} (hblanks : Text.AllBlank blanks) :
      Lexemes previous [] blanks
  | next {previous : Option Token} {blanks cs rest : List Char} {t : Token} {ts : List Token}
      (hblanks : Text.AllBlank blanks) (h : Lexeme t cs rest)
      (hsign : cs.head? = some '-' → OperandNext previous) (hrest : Lexemes (some t) ts rest) :
      Lexemes previous (t :: ts) (blanks ++ (cs ++ rest))

theorem wordToken_iff {w : List Char} {t : Token} :
    WordToken (String.ofList w) t ↔ Token.ofWord w = t := by
  unfold Token.ofWord
  generalize String.ofList w = w
  split
  case h_8 hand hor hnot htrue hTrue hfalse hFalse =>
    have hname : w ∉ keywords.map Prod.fst := by
      simp only [keywords, List.map, List.mem_cons, List.not_mem_nil, or_false, not_or]
      exact ⟨hand, hor, hnot, htrue, hTrue, hfalse, hFalse⟩
    constructor
    · rintro (h | h)
      · exact absurd (List.mem_map_of_mem h) hname
      · rfl
    · rintro rfl
      exact .name hname
  all_goals
    constructor
    · rintro (h | h)
      · simpa [keywords, eq_comm] using h
      · exact absurd (by decide) h
    · rintro rfl
      exact .keyword (by decide)

theorem operandNext_iff {previous : Option Token} :
    OperandNext previous ↔ previous.all Token.expectsOperand = true := by
  constructor
  · rintro (_ | _) <;> rfl
  · intro h
    cases previous with
    | none => exact .first
    | some t =>
      cases t with
      | name | literal | closeParen => cases h
      | openParen => exact .openParen
      | comparison op => exact .comparison op
      | conjunction => exact .conjunction
      | disjunction => exact .disjunction
      | negation => exact .negation

/-- Blanks in front are no part of a lexeme. -/
theorem Lexemes.cons_blank {previous : Option Token} {ts : List Token} {c : Char} {cs : List Char}
    (hc : Text.isBlank c = true) (h : Lexemes previous ts cs) : Lexemes previous ts (c :: cs) := by
  cases h with
  | done hblanks => exact .done (List.forall_mem_cons.2 ⟨hc, hblanks⟩)
  | next hblanks h hsign hrest => exact .next (List.forall_mem_cons.2 ⟨hc, hblanks⟩) h hsign hrest

namespace Lexer

/-! ### Quoted texts and marked names -/

theorem escaped_of_quotedText? {quote : Char} {cs s tail : List Char}
    (h : quotedText? quote cs = some (s, tail)) :
    ∃ body, Escaped quote s body ∧ cs = body ++ quote :: tail := by
  fun_induction quotedText? quote cs generalizing s tail with
  | case1 => cases h
  | case2 c rest ih =>
    obtain ⟨⟨s, tail⟩, hu, heq⟩ := Option.map_eq_some_iff.1 h
    cases heq
    obtain ⟨body, hbody, rfl⟩ := ih hu
    exact ⟨'\\' :: c :: body, .backslash hbody, rfl⟩
  | case3 c rest hescape hc =>
    cases h
    exact ⟨[], .nil, by rw [eq_of_beq hc]; rfl⟩
  | case4 c rest hescape hc ih =>
    obtain ⟨⟨s, tail⟩, hu, heq⟩ := Option.map_eq_some_iff.1 h
    cases heq
    obtain ⟨body, hbody, rfl⟩ := ih hu
    refine ⟨c :: body, .plain ?_ ?_ hbody, rfl⟩
    · simpa using hc
    · rintro rfl
      -- Something follows the backslash, if only the closing quote.
      obtain ⟨d, ds, hds⟩ := List.exists_cons_of_ne_nil (l := body ++ quote :: tail) (by simp)
      exact hescape d ds rfl hds

theorem eq_of_markedName? {cs s tail : List Char} (h : markedName? cs = some (s, tail)) :
    nameMark ∉ s ∧ cs = s ++ nameMark :: tail := by
  fun_induction markedName? cs generalizing s tail with
  | case1 => cases h
  | case2 c rest hc =>
    cases h
    exact ⟨List.not_mem_nil, by rw [eq_of_beq hc]; rfl⟩
  | case3 c rest hc ih =>
    obtain ⟨⟨s, tail⟩, hu, heq⟩ := Option.map_eq_some_iff.1 h
    cases heq
    obtain ⟨hmark, rfl⟩ := ih hu
    refine ⟨?_, rfl⟩
    rw [List.mem_cons, not_or]
    exact ⟨fun heq => hc (beq_iff_eq.2 heq.symm), hmark⟩

/-! ### Signs -/

theorem scanComparison_eq_ok_iff {alone withEquals : Except GrammarProblem Token}
    {rest : List Char} {t : Token} {tail : List Char} :
    scanComparison alone withEquals rest = .ok (t, tail) ↔
      rest = '=' :: tail ∧ withEquals = .ok t ∨
        rest.head? ≠ some '=' ∧ rest = tail ∧ alone = .ok t := by
  unfold scanComparison
  split
  case h_1 more =>
    rw [map_pair_eq_ok]
    simp [and_comm]
  case h_2 hrest =>
    have hhead : rest.head? ≠ some '=' := by
      intro hhead
      obtain ⟨more, rfl⟩ := List.head?_eq_some_iff.1 hhead
      exact hrest more rfl
    have hcons : rest ≠ '=' :: tail := hrest tail
    rw [map_pair_eq_ok]
    simp [hhead, hcons, and_comm]

/-! ### Numbers -/

theorem exists_signSpan (cs : List Char) : ∃ sign, (sign = [] ∨ sign = ['+'] ∨ sign = ['-']) ∧
    cs = sign ++ (signSpan cs).2 ∧ (signSpan cs).1 = sign := by
  fun_cases signSpan cs with
  | case1 ds => exact ⟨['+'], by simp⟩
  | case2 ds => exact ⟨['-'], by simp⟩
  | case3 => exact ⟨[], by simp⟩

theorem head_dropWhile (p : Char → Bool) (cs : List Char) :
    ∀ d ∈ (cs.dropWhile p).head?, p d = false := by
  intro d hd
  have hp := List.head?_dropWhile_not p cs
  rw [Option.mem_def.1 hd] at hp
  simpa using hp

/-- An exponent is taken in full, or nothing is. -/
theorem exponentPart_exponentSpan {cs : List Char} (h : ∀ d ∈ cs.head?, isNumberChar d = false) :
    ExponentPart (exponentSpan cs).1 (exponentSpan cs).2 ∧
      cs = (exponentSpan cs).1 ++ (exponentSpan cs).2 := by
  cases cs with
  | nil => exact ⟨.none h, rfl⟩
  | cons mark rest =>
    obtain ⟨sign, hsign, hrest, hspan⟩ := exists_signSpan rest
    simp only [exponentSpan]
    split
    case isFalse => exact ⟨.none h, rfl⟩
    case isTrue hmark =>
      rw [hspan]
      generalize (signSpan rest).2 = ds at *
      split
      case isTrue => exact ⟨.none h, rfl⟩
      case isFalse hne =>
        refine ⟨.exponent ?_ hsign ⟨?_, fun d => List.mem_takeWhile_imp⟩
          (head_dropWhile Char.isDigit ds), ?_⟩
        · simpa using hmark
        · simpa using hne
        · rw [hrest, List.cons_append, List.cons_append, List.append_assoc,
            List.takeWhile_append_dropWhile]

theorem startsNumber_iff {operandExpected : Bool} {c : Char} {rest : List Char} :
    startsNumber operandExpected c rest = true ↔
      (c = '-' ∧ operandExpected = true ∧ rest.head?.any isNumberChar = true) ∨
        c.isDigit = true ∨ (c = '.' ∧ rest.head?.any Char.isDigit = true) := by
  simp only [startsNumber, Bool.or_eq_true, Bool.and_eq_true, beq_iff_eq, and_assoc, or_assoc]

/-- What is taken is a number in full. -/
theorem numberText_numberSpan {operandExpected : Bool} {c : Char} {rest : List Char}
    (h : startsNumber operandExpected c rest = true) :
    NumberText (numberSpan c rest).1 (numberSpan c rest).2 ∧
      c :: rest = (numberSpan c rest).1 ++ (numberSpan c rest).2 := by
  have hbody : ∀ d ∈ rest.takeWhile isNumberChar, isNumberChar d = true :=
    fun d => List.mem_takeWhile_imp
  obtain ⟨hexponent, hspan⟩ := exponentPart_exponentSpan (head_dropWhile isNumberChar rest)
  have hrest : rest = (unsignedSpan rest).1 ++ (unsignedSpan rest).2 := by
    rw [unsignedSpan, List.append_assoc, ← hspan, List.takeWhile_append_dropWhile]
  have hunsigned (hc : isNumberChar c = true) : NumberText (numberSpan c rest).1 (numberSpan c rest).2 :=
    .mk (.inl rfl) (List.cons_ne_nil c _) (List.forall_mem_cons.2 ⟨hc, hbody⟩) hexponent
  refine ⟨?_, congrArg (c :: ·) hrest⟩
  obtain ⟨rfl, -, hhead⟩ | hdigit | ⟨rfl, -⟩ := startsNumber_iff.1 h
  · have hne : rest.takeWhile isNumberChar ≠ [] := by
      cases rest with
      | nil => cases hhead
      | cons d rest =>
        have hd : isNumberChar d = true := hhead
        simp [hd]
    exact .mk (.inr rfl) hne hbody hexponent
  · exact hunsigned (isNumberChar_of_isDigit hdigit)
  · exact hunsigned rfl

theorem numberToken_eq_ok_iff {cs : List Char} {t : Token} :
    numberToken cs = .ok t ↔ NumberToken cs t := by
  have hmarks : (cs.any fun c => c == '.' || c == 'e' || c == 'E') = true ↔
      ∃ c ∈ cs, IsFloatMark c := by
    simp [IsFloatMark, or_assoc]
  unfold numberToken
  dsimp only
  split
  case isTrue hmark =>
    rw [hmarks] at hmark
    constructor
    · intro h
      cases hread : readBinary64? (String.ofList cs) with
      | none => simp [hread] at h
      | some x =>
        rw [hread] at h
        obtain rfl := Except.ok.inj h
        exact .float hmark hread
    · rintro (⟨hnone, -⟩ | ⟨-, hread⟩)
      · obtain ⟨c, hc, hmark⟩ := hmark
        exact absurd hmark (hnone c hc)
      · rw [hread]
  case isFalse hnone =>
    rw [hmarks] at hnone
    constructor
    · intro h
      cases hread : readInt64 (String.ofList cs) with
      | error e => simp [hread] at h
      | ok i =>
        rw [hread] at h
        obtain rfl := Except.ok.inj h
        exact .int (fun c hc hmark => hnone ⟨c, hc, hmark⟩) hread
    · rintro (⟨-, hread⟩ | ⟨hmark, -⟩)
      · rw [hread]
      · exact absurd hmark hnone

/-- Behind a point that a number begins with there is a digit. -/
theorem any_isDigit_of_readBinary64? {cs : List Char} {x : Binary64}
    (h : readBinary64? (String.ofList ('.' :: cs)) = some x) : cs.head?.any Char.isDigit = true := by
  by_contra hdigit
  have htake : cs.takeWhile Char.isDigit = [] := by
    cases cs with
    | nil => rfl
    | cons d cs => simpa using hdigit
  simp [readBinary64?, readMagnitude?, readDecimal?, htake] at h

theorem any_head?_append {p : Char → Bool} {cs : List Char} (h : cs.head?.any p = true)
    (more : List Char) : (cs ++ more).head?.any p = true := by
  cases cs with
  | nil => cases h
  | cons c cs => exact h

theorem startsNumber_numberText {operandExpected : Bool} {c : Char} {cs rest : List Char} {t : Token}
    (h : NumberText (c :: cs) rest) (ht : NumberToken (c :: cs) t)
    (hsign : c = '-' → operandExpected = true) (more : List Char) :
    startsNumber operandExpected c (cs ++ more) = true := by
  rw [startsNumber_iff]
  generalize hs : c :: cs = s at h ht
  obtain @⟨sign, body, exponent, _, hsigns, hne, hbody, -⟩ := h
  obtain ⟨d, body, rfl⟩ := List.exists_cons_of_ne_nil hne
  have hd : isNumberChar d = true := hbody d List.mem_cons_self
  rcases hsigns with rfl | rfl
  case inr =>
    obtain ⟨rfl, rfl⟩ := List.cons.inj hs
    exact .inl ⟨rfl, hsign rfl, hd⟩
  case inl =>
    obtain ⟨rfl, rfl⟩ := List.cons.inj hs
    rw [isNumberChar, Bool.or_eq_true_iff, beq_iff_eq] at hd
    obtain hdigit | rfl := hd
    · exact .inr (.inl hdigit)
    · cases ht with
      | int hmarks => exact absurd (.inl rfl) (hmarks '.' (by simp))
      | float hmark hread =>
        exact .inr (.inr ⟨rfl, any_head?_append (any_isDigit_of_readBinary64? hread) more⟩)

/-! ### Words -/

theorem isWordStart_of_isDigit {c : Char} (h : c.isDigit = true) : isWordStart c = false := by
  have hascii : c.toNat < 0x80 := by
    have hhigh := (Char.isDigit_iff_toNat.1 h).2
    simp only [Char.reduceToNat] at hhigh
    omega
  have hletter : c.isAlpha = false := by
    unfold Char.isDigit at h
    unfold Char.isAlpha Char.isUpper Char.isLower
    grind
  have hunder : c ≠ '_' := by
    rintro rfl
    cases h
  simp [isWordStart, Text.isAlphabetic, hascii, hletter, hunder]

/-- What begins a word begins nothing else. -/
theorem scanToken_eq_scanWord {operandExpected : Bool} {c : Char} (hc : isWordStart c = true)
    (rest : List Char) : scanToken operandExpected c rest = .ok (scanWord c rest) := by
  have hne : ∀ d, isWordStart d = false → (c == d) = false := by
    intro d hd
    rw [beq_eq_false_iff_ne]
    rintro rfl
    rw [hc] at hd
    cases hd
  have hdigit : c.isDigit = false := by
    rw [← Bool.not_eq_true]
    intro hdigit
    rw [isWordStart_of_isDigit hdigit] at hc
    cases hc
  simp [scanToken, startsNumber, hdigit, hc, hne '(' rfl, hne ')' rfl, hne '=' rfl, hne '!' rfl,
    hne '>' rfl, hne '<' rfl, hne '\'' rfl, hne '"' rfl, hne nameMark rfl, hne '-' rfl, hne '.' rfl]

/-! ### Tokens -/

theorem scanToken_nameMark (operandExpected : Bool) (rest : List Char) :
    scanToken operandExpected nameMark rest = match markedName? rest with
      | some ([], _) => .error .emptyName
      | some (cs, tail) => .ok (.name (String.ofList cs), tail)
      | none => .error .unterminatedName := rfl

theorem isBlank_eq_false_of_isWordStart {c : Char} (h : isWordStart c = true) :
    Text.isBlank c = false := by
  rw [← Bool.not_eq_true]
  intro hblank
  rw [isWordStart_of_isBreak c (isBreak_of_isBlank hblank)] at h
  cases h

theorem isBlank_eq_false_of_startsNumber {operandExpected : Bool} {c : Char} {rest : List Char}
    (h : startsNumber operandExpected c rest = true) : Text.isBlank c = false := by
  obtain ⟨rfl, -⟩ | hdigit | ⟨rfl, -⟩ := startsNumber_iff.1 h
  · decide
  · exact Text.isBlank_eq_false_of_isDigit hdigit
  · decide

/-- A text is a lexeme of a token and what follows it. Only where an operand is expected does the lexeme
begin with a minus sign. -/
def Begins (operandExpected : Bool) (t : Token) (text tail : List Char) : Prop :=
  ∃ cs, text = cs ++ tail ∧ Lexeme t cs tail ∧ (cs.head? = some '-' → operandExpected = true)

section Begins

variable {operandExpected : Bool} {c : Char} {rest tail : List Char} {t : Token}

theorem begins_of_comparison (op : Comparison) (htext : rest = op.symbol.toList ++ tail)
    (halone : op = .gt ∨ op = .lt → tail.head? ≠ some '=') :
    Begins operandExpected (.comparison op) rest tail := by
  refine ⟨_, htext, .comparison op halone, fun hhead => ?_⟩
  cases op <;> cases hhead

theorem begins_of_quotedText? {s : List Char} (hc : c = '\'' ∨ c = '"')
    (h : quotedText? c rest = some (s, tail)) :
    Begins operandExpected (.literal (.text (String.ofList s))) (c :: rest) tail := by
  obtain ⟨body, hbody, rfl⟩ := escaped_of_quotedText? h
  refine ⟨_, by simp, .text hc hbody tail, ?_⟩
  rcases hc with rfl | rfl <;> nofun

theorem begins_of_markedName? {s : List Char} (hne : s ≠ []) (h : markedName? rest = some (s, tail)) :
    Begins operandExpected (.name (String.ofList s)) (nameMark :: rest) tail := by
  obtain ⟨hmark, rfl⟩ := eq_of_markedName? h
  exact ⟨_, by simp, .name hne hmark tail, nofun⟩

theorem begins_of_scanNumber (hstart : startsNumber operandExpected c rest = true)
    (h : scanNumber c rest = .ok (t, tail)) : Begins operandExpected t (c :: rest) tail := by
  obtain ⟨ht, rfl, hrest⟩ := scanNumber_eq_ok.1 h
  obtain ⟨hnumber, htext⟩ := numberText_numberSpan hstart
  refine ⟨_, htext, .number hnumber (numberToken_eq_ok_iff.1 ht) hrest, fun hhead => ?_⟩
  obtain rfl : c = '-' := Option.some.inj hhead
  obtain ⟨-, hexpected, -⟩ | hdigit | ⟨hpoint, -⟩ := startsNumber_iff.1 hstart
  · exact hexpected
  · cases hdigit
  · cases hpoint

theorem begins_of_isWordStart (hc : isWordStart c = true) :
    Begins operandExpected (scanWord c rest).1 (c :: rest) (scanWord c rest).2 := by
  refine ⟨c :: rest.takeWhile isWordChar, ?_, .word hc (fun _ => List.mem_takeWhile_imp)
    (head_dropWhile isWordChar rest) (wordToken_iff.2 rfl), fun hhead => ?_⟩
  · rw [scanWord, List.cons_append, List.takeWhile_append_dropWhile]
  · obtain rfl : c = '-' := Option.some.inj hhead
    cases hc

/-- What follows in both cases. -/
private theorem elim_ite_eq {α : Type} {p q : Prop} [Decidable p] {a b x : α}
    (h : (if p then a else b) = x) (ha : p → a = x → q) (hb : b = x → q) : q := by
  by_cases hp : p
  · exact ha hp ((if_pos hp).symm.trans h)
  · exact hb ((if_neg hp).symm.trans h)

/-- A token is taken from a text as one of its lexemes. -/
theorem begins_of_scanToken (h : scanToken operandExpected c rest = .ok (t, tail)) :
    Begins operandExpected t (c :: rest) tail := by
  unfold scanToken at h
  refine elim_ite_eq h ?_ fun h => elim_ite_eq h ?_ fun h => elim_ite_eq h ?_
    fun h => elim_ite_eq h ?_ fun h => elim_ite_eq h ?_ fun h => elim_ite_eq h ?_
    fun h => elim_ite_eq h ?_ fun h => elim_ite_eq h ?_ fun h => elim_ite_eq h ?_
    fun h => elim_ite_eq h ?_ ?_
  case refine_1 =>
    intro hc h
    obtain rfl := eq_of_beq hc
    cases h
    exact ⟨_, rfl, .openParen _, nofun⟩
  case refine_2 =>
    intro hc h
    obtain rfl := eq_of_beq hc
    cases h
    exact ⟨_, rfl, .closeParen _, nofun⟩
  case refine_3 =>
    intro hc h
    obtain rfl := eq_of_beq hc
    obtain ⟨rfl, ht⟩ | ⟨-, -, ht⟩ := scanComparison_eq_ok_iff.1 h <;> cases ht
    exact begins_of_comparison .eq rfl nofun
  case refine_4 =>
    intro hc h
    obtain rfl := eq_of_beq hc
    obtain ⟨rfl, ht⟩ | ⟨-, -, ht⟩ := scanComparison_eq_ok_iff.1 h <;> cases ht
    exact begins_of_comparison .ne rfl nofun
  case refine_5 =>
    intro hc h
    obtain rfl := eq_of_beq hc
    obtain ⟨rfl, ht⟩ | ⟨halone, rfl, ht⟩ := scanComparison_eq_ok_iff.1 h <;> cases ht
    · exact begins_of_comparison .ge rfl nofun
    · exact begins_of_comparison .gt rfl fun _ => halone
  case refine_6 =>
    intro hc h
    obtain rfl := eq_of_beq hc
    obtain ⟨rfl, ht⟩ | ⟨halone, rfl, ht⟩ := scanComparison_eq_ok_iff.1 h <;> cases ht
    · exact begins_of_comparison .le rfl nofun
    · exact begins_of_comparison .lt rfl fun _ => halone
  case refine_7 =>
    intro hc h
    cases hread : quotedText? c rest with
    | none => simp [hread] at h
    | some r =>
      rw [hread] at h
      cases h
      exact begins_of_quotedText? (by simpa using hc) hread
  case refine_8 =>
    intro hc h
    obtain rfl := eq_of_beq hc
    cases hread : markedName? rest with
    | none => simp [hread] at h
    | some r =>
      obtain ⟨s, after⟩ := r
      rw [hread] at h
      cases s with
      | nil => cases h
      | cons d ds =>
        cases h
        exact begins_of_markedName? (List.cons_ne_nil d ds) hread
  case refine_9 =>
    intro hstart h
    exact begins_of_scanNumber hstart h
  case refine_10 =>
    intro hc h
    cases h
    exact begins_of_isWordStart hc
  case refine_11 =>
    intro h
    cases h

end Begins

/-- A lexeme is read as its token, whatever follows it. -/
theorem scanToken_lexeme {operandExpected : Bool} {t : Token} {s rest : List Char}
    (h : Lexeme t s rest) (hsign : s.head? = some '-' → operandExpected = true) :
    ∃ c cs, s = c :: cs ∧ Text.isBlank c = false ∧
      scanToken operandExpected c (cs ++ rest) = .ok (t, rest) := by
  cases h with
  | openParen => exact ⟨_, _, rfl, by decide, rfl⟩
  | closeParen => exact ⟨_, _, rfl, by decide, rfl⟩
  | comparison op halone =>
    cases op with
    | eq | ne | ge | le => exact ⟨_, _, rfl, by decide, rfl⟩
    | gt =>
      refine ⟨'>', [], rfl, by decide, ?_⟩
      exact scanComparison_eq_ok_iff.2 (.inr ⟨halone (.inl rfl), rfl, rfl⟩)
    | lt =>
      refine ⟨'<', [], rfl, by decide, ?_⟩
      exact scanComparison_eq_ok_iff.2 (.inr ⟨halone (.inr rfl), rfl, rfl⟩)
  | @text quote s cs hquote h =>
    refine ⟨quote, cs ++ [quote], rfl, ?_, ?_⟩
    · rcases hquote with rfl | rfl <;> decide
    · have hread := quotedText?_escaped (by rcases hquote with rfl | rfl <;> decide) h rest
      rcases hquote with rfl | rfl <;> simp [scanToken, hread]
  | @name cs hne hmark =>
    refine ⟨nameMark, cs ++ [nameMark], rfl, by decide, ?_⟩
    obtain ⟨d, ds, rfl⟩ := List.exists_cons_of_ne_nil hne
    rw [List.append_assoc, List.singleton_append, scanToken_nameMark, markedName?_name hmark rest]
  | number h ht hrest =>
    obtain ⟨c, cs, rfl⟩ := List.exists_cons_of_ne_nil h.ne_nil
    have hstart : startsNumber operandExpected c (cs ++ rest) = true :=
      startsNumber_numberText h ht (fun hc => hsign (congrArg some hc)) rest
    refine ⟨c, cs, rfl, isBlank_eq_false_of_startsNumber hstart, ?_⟩
    rw [scanToken_eq_scanNumber hstart, scanNumber_eq_ok, numberSpan_numberText h hrest]
    exact ⟨numberToken_eq_ok_iff.2 ht, rfl, hrest⟩
  | @word _ c cs rest hc hcs hrest ht =>
    refine ⟨c, cs, rfl, isBlank_eq_false_of_isWordStart hc, ?_⟩
    rw [scanToken_eq_scanWord hc, scanWord, takeWhile_append_of_head hrest,
      dropWhile_append_of_head hrest, List.takeWhile_eq_self_iff.2 hcs,
      List.dropWhile_eq_nil_iff.2 hcs, wordToken_iff.1 ht, List.nil_append]

/-! ### Texts -/

/-- The tokens of a text are read off its lexemes. -/
theorem lexemes_of_tokensAfter (previous : Option Token) {cs : List Char} {ts : List Token}
    (h : tokensAfter (previous.all Token.expectsOperand) cs = .ok ts) : Lexemes previous ts cs := by
  generalize hexpected : previous.all Token.expectsOperand = operandExpected at h
  -- On the number of characters left; the token read last says whether an operand is expected.
  fun_induction tokensAfter operandExpected cs generalizing previous ts with
  | case1 operandExpected =>
    cases h
    exact .done (List.forall_mem_nil _)
  | case2 operandExpected c rest hc ih => exact (ih previous hexpected h).cons_blank hc
  | case3 operandExpected c rest hc e he => cases h
  | case4 operandExpected c rest hc t tail ht hle ih =>
    obtain ⟨us, hus, rfl⟩ := map_eq_ok h
    obtain ⟨cs, htext, hlexeme, hsign⟩ := begins_of_scanToken ht
    rw [htext]
    refine .next (List.forall_mem_nil _) hlexeme (fun hhead => ?_) (ih (some t) rfl hus)
    rw [operandNext_iff, hexpected]
    exact hsign hhead

/-- Lexemes are read as their tokens. -/
theorem tokensAfter_lexemes {previous : Option Token} {cs : List Char} {ts : List Token}
    (h : Lexemes previous ts cs) : tokensAfter (previous.all Token.expectsOperand) cs = .ok ts := by
  induction h with
  | @done previous blanks hblanks =>
    have hread := tokensAfter_blanks hblanks (previous.all Token.expectsOperand) []
    rwa [List.append_nil, tokensAfter_nil] at hread
  | @next previous blanks cs rest t ts hblanks h hsign hrest ih =>
    obtain ⟨c, cs, rfl, hc, hread⟩ := scanToken_lexeme h fun hhead => operandNext_iff.1 (hsign hhead)
    rw [tokensAfter_blanks hblanks, List.cons_append, tokensAfter_token hc hread]
    exact congrArg (Except.map (t :: ·)) ih

end Lexer

/-- No text is the lexemes of two lists of tokens. -/
theorem Lexemes.unique {previous : Option Token} {ts us : List Token} {cs : List Char}
    (h : Lexemes previous ts cs) (h' : Lexemes previous us cs) : ts = us :=
  Except.ok.inj ((Lexer.tokensAfter_lexemes h).symm.trans (Lexer.tokensAfter_lexemes h'))

/-- A text has certain tokens exactly when it is their lexemes with blanks around them. -/
theorem tokenize_eq_ok_iff_lexemes {s : String} {ts : List Token} :
    tokenize s = .ok ts ↔ Lexemes none ts s.toList :=
  ⟨Lexer.lexemes_of_tokensAfter none, Lexer.tokensAfter_lexemes⟩

end TableReport
