import Mathlib.Data.List.TakeWhile
import TableReport.Proofs.Condition.Scanning
import TableReport.Proofs.Number.Integer
import TableReport.Proofs.Text.Blank
/-!
# Spellings of tokens

How each token can be written, and that what is written is read as that token: texts with a backslash
before each quote, names between marks, integers in decimal, numbers with a point and an optional
exponent. Tokens with blanks between them are read one by one.
-/
namespace TableReport

/-- A text as it stands between quotes. A backslash may stand before any character, and does before
each quote and each backslash. -/
inductive Escaped (quote : Char) : List Char → List Char → Prop where
  | nil : Escaped quote [] []
  | plain {c : Char} {s cs : List Char} (hquote : c ≠ quote) (hslash : c ≠ '\\')
      (h : Escaped quote s cs) : Escaped quote (c :: s) (c :: cs)
  | backslash {c : Char} {s cs : List Char} (h : Escaped quote s cs) :
      Escaped quote (c :: s) ('\\' :: c :: cs)

/-- One digit or more. -/
def IsDigits (ds : List Char) : Prop := ds ≠ [] ∧ ∀ d ∈ ds, d.isDigit = true

/-- No exponent, or its mark, a sign or none, and digits. -/
inductive ExponentSpelling : List Char → Prop where
  | none : ExponentSpelling []
  | exponent {sign ds : List Char} (hsign : sign = [] ∨ sign = ['+'] ∨ sign = ['-'])
      (hds : IsDigits ds) : ExponentSpelling ('e' :: (sign ++ ds))

/-- Digits, a point and digits, with a minus sign or none and with an exponent or none. -/
inductive FloatSpelling : List Char → Prop where
  | mk {sign whole fraction exponent : List Char} (hsign : sign = [] ∨ sign = ['-'])
      (hwhole : IsDigits whole) (hfraction : IsDigits fraction)
      (hexponent : ExponentSpelling exponent) :
      FloatSpelling (sign ++ (whole ++ '.' :: (fraction ++ exponent)))

/-- The exponent of a number or nothing, given the characters that follow: its mark, a sign or none, and
all digits that come then. -/
inductive ExponentPart : List Char → List Char → Prop
  | none {rest : List Char} (hrest : ∀ c ∈ rest.head?, Lexer.isNumberChar c = false) :
      ExponentPart [] rest
  | exponent {mark : Char} {sign ds rest : List Char} (hmark : mark = 'e' ∨ mark = 'E')
      (hsign : sign = [] ∨ sign = ['+'] ∨ sign = ['-']) (hds : IsDigits ds)
      (hrest : ∀ c ∈ rest.head?, c.isDigit = false) : ExponentPart (mark :: (sign ++ ds)) rest

/-- The characters of a number, given those that follow: a minus sign or none, then all digits and points
that come, at least one of them, then an exponent or none. -/
inductive NumberText : List Char → List Char → Prop
  | mk {sign body exponent rest : List Char} (hsign : sign = [] ∨ sign = ['-']) (hne : body ≠ [])
      (hbody : ∀ c ∈ body, Lexer.isNumberChar c = true) (hexponent : ExponentPart exponent rest) :
      NumberText (sign ++ (body ++ exponent)) rest

theorem NumberText.ne_nil {cs rest : List Char} (h : NumberText cs rest) : cs ≠ [] := by
  obtain ⟨-, hne, -, -⟩ := h
  simp [hne]

/-- What a token is written as. -/
inductive Spelling : Token → List Char → Prop where
  | name (v : String) :
      Spelling (.name v) (Lexer.nameMark :: (v.toList ++ [Lexer.nameMark]))
  | int (v : Int64) : Spelling (.literal (.int v)) (toString v.toInt).toList
  | float {x : Binary64} {cs : List Char} (h : FloatSpelling cs)
      (hx : readBinary64? (String.ofList cs) = some x) : Spelling (.literal (.float x)) cs
  | text {v : String} {cs : List Char} (h : Escaped '\'' v.toList cs) :
      Spelling (.literal (.text v)) ('\'' :: (cs ++ ['\'']))
  | bool (v : Bool) : Spelling (.literal (.bool v)) (toString v).toList
  | comparison (op : Comparison) : Spelling (.comparison op) op.symbol.toList
  | openParen : Spelling .openParen ['(']
  | closeParen : Spelling .closeParen [')']
  | conjunction : Spelling .conjunction ['a', 'n', 'd']
  | disjunction : Spelling .disjunction ['o', 'r']
  | negation : Spelling .negation ['n', 'o', 't']

/-- Tokens with one blank or more between each two of them. -/
inductive Spaced : List Token → List Char → Prop where
  | last {t : Token} {cs : List Char} (h : Spelling t cs) : Spaced [t] cs
  | more {t : Token} {cs blanks : List Char} {ts : List Token} {rest : List Char}
      (h : Spelling t cs) (hne : blanks ≠ []) (hblanks : ∀ c ∈ blanks, Text.isBlank c = true)
      (hrest : Spaced ts rest) : Spaced (t :: ts) (cs ++ (blanks ++ rest))

namespace Lexer

theorem quotedText?_escaped {quote : Char} (hquote : quote ≠ '\\') {s cs : List Char}
    (h : Escaped quote s cs) (rest : List Char) :
    quotedText? quote (cs ++ quote :: rest) = some (s, rest) := by
  induction h with
  | nil => simp [quotedText?, hquote]
  | plain hc hslash h ih => simp [quotedText?, hslash, hc, ih]
  | backslash h ih => simp [quotedText?, ih]

theorem markedName?_name {cs : List Char} (h : nameMark ∉ cs) (rest : List Char) :
    markedName? (cs ++ nameMark :: rest) = some (cs, rest) := by
  induction cs with
  | nil => simp [markedName?]
  | cons c cs ih =>
    simp only [List.mem_cons, not_or] at h
    simp [markedName?, Ne.symm h.1, ih h.2]

/-! ### Numbers -/

theorem isNumberChar_of_isDigit {c : Char} (h : c.isDigit = true) : isNumberChar c = true := by
  simp [isNumberChar, h]

theorem signSpan_append_digits {sign ds : List Char}
    (hsign : sign = [] ∨ sign = ['+'] ∨ sign = ['-']) (hds : IsDigits ds) (more : List Char) :
    signSpan (sign ++ (ds ++ more)) = (sign, ds ++ more) := by
  rcases hsign with rfl | rfl | rfl
  · obtain ⟨hne, hall⟩ := hds
    cases ds with
    | nil => exact absurd rfl hne
    | cons d ds =>
      have hd : d.isDigit = true := hall d (by simp)
      have hplus : d ≠ '+' := by
        rintro rfl
        cases hd
      have hminus : d ≠ '-' := by
        rintro rfl
        cases hd
      simp [signSpan, hplus, hminus]
  · rfl
  · rfl

theorem isNumberChar_of_exponentPart {exponent rest : List Char} (h : ExponentPart exponent rest) :
    ∀ d ∈ (exponent ++ rest).head?, isNumberChar d = false := by
  cases h with
  | none hrest => exact hrest
  | exponent hmark hsign hds hrest =>
    intro d hd
    obtain rfl := Option.some.inj hd
    rcases hmark with rfl | rfl <;> decide

theorem exponentSpan_of_head {cs : List Char} (h : ∀ d ∈ cs.head?, isWordStart d = false) :
    exponentSpan cs = ([], cs) := by
  cases cs with
  | nil => rfl
  | cons c cs =>
    have hmark : (c == 'e' || c == 'E') = false := by
      rw [Bool.or_eq_false_iff, beq_eq_false_iff_ne, beq_eq_false_iff_ne]
      constructor <;> rintro rfl <;> exact absurd (h _ rfl) (by decide)
    simp [exponentSpan, hmark]

theorem exponentSpan_exponentPart {exponent rest : List Char} (h : ExponentPart exponent rest)
    (hrest : ∀ d ∈ rest.head?, isWordStart d = false) :
    exponentSpan (exponent ++ rest) = (exponent, rest) := by
  cases h with
  | none => exact exponentSpan_of_head hrest
  | @exponent mark sign ds _ hmark hsign hds hdigit =>
    have htake : (ds ++ rest).takeWhile Char.isDigit = ds := by
      rw [takeWhile_append_of_head hdigit, List.takeWhile_eq_self_iff.2 hds.2]
    have hdrop : (ds ++ rest).dropWhile Char.isDigit = rest := by
      rw [dropWhile_append_of_head hdigit, List.dropWhile_eq_nil_iff.2 hds.2, List.nil_append]
    simp [exponentSpan, signSpan_append_digits hsign hds, hmark, htake, hdrop, hds.1]

theorem unsignedSpan_append {body exponent rest : List Char}
    (hbody : ∀ c ∈ body, isNumberChar c = true) (h : ExponentPart exponent rest)
    (hrest : ∀ d ∈ rest.head?, isWordStart d = false) :
    unsignedSpan (body ++ (exponent ++ rest)) = (body ++ exponent, rest) := by
  have hhead := isNumberChar_of_exponentPart h
  simp only [unsignedSpan, takeWhile_append_of_head hhead, dropWhile_append_of_head hhead,
    List.takeWhile_eq_self_iff.2 hbody, List.dropWhile_eq_nil_iff.2 hbody, List.nil_append,
    exponentSpan_exponentPart h hrest]

/-- A number is taken in full. -/
theorem numberSpan_numberText {c : Char} {cs rest : List Char} (h : NumberText (c :: cs) rest)
    (hrest : ∀ d ∈ rest.head?, isWordStart d = false) :
    numberSpan c (cs ++ rest) = (c :: cs, rest) := by
  generalize hs : c :: cs = s at h
  obtain @⟨sign, body, exponent, _, hsign, hne, hbody, hexponent⟩ := h
  rcases hsign with rfl | rfl
  case inl =>
    obtain ⟨d, body, rfl⟩ := List.exists_cons_of_ne_nil hne
    obtain ⟨rfl, rfl⟩ := List.cons.inj hs
    have hspan := unsignedSpan_append (List.forall_mem_cons.1 hbody).2 hexponent hrest
    simp [numberSpan, hspan]
  case inr =>
    obtain ⟨rfl, rfl⟩ := List.cons.inj hs
    have hspan := unsignedSpan_append hbody hexponent hrest
    simp [numberSpan, hspan]

/-- The characters of a number: a digit, or a minus sign and a digit, then digits and points, and an
exponent or none. -/
inductive Numeral : List Char → Prop where
  | unsigned {d : Char} {ds exponent : List Char} (hd : d.isDigit = true)
      (hds : ∀ c ∈ ds, isNumberChar c = true) (h : ExponentSpelling exponent) :
      Numeral (d :: (ds ++ exponent))
  | negative {d : Char} {ds exponent : List Char} (hd : d.isDigit = true)
      (hds : ∀ c ∈ ds, isNumberChar c = true) (h : ExponentSpelling exponent) :
      Numeral ('-' :: (d :: ds ++ exponent))

theorem Numeral.numberText {cs : List Char} (h : Numeral cs) : NumberText cs [] := by
  have part {exponent : List Char} (h : ExponentSpelling exponent) : ExponentPart exponent [] := by
    cases h with
    | none => exact .none nofun
    | exponent hsign hds => exact .exponent (.inl rfl) hsign hds nofun
  cases h with
  | @unsigned d ds exponent hd hds h =>
    exact .mk (.inl rfl) (List.cons_ne_nil d ds)
      (List.forall_mem_cons.2 ⟨isNumberChar_of_isDigit hd, hds⟩) (part h)
  | @negative d ds exponent hd hds h =>
    exact .mk (.inr rfl) (List.cons_ne_nil d ds)
      (List.forall_mem_cons.2 ⟨isNumberChar_of_isDigit hd, hds⟩) (part h)

theorem scanNumber_numeral {c : Char} {rest : List Char} {t : Token} (h : Numeral (c :: rest))
    (ht : numberToken (c :: rest) = .ok t) : scanNumber c rest = .ok (t, []) := by
  have hspan := numberSpan_numberText h.numberText nofun
  rw [List.append_nil] at hspan
  rw [scanNumber_eq_ok, hspan]
  exact ⟨ht, rfl, by simp⟩

/-- What begins a number begins nothing else. -/
theorem scanToken_eq_scanNumber {operandExpected : Bool} {c : Char} {rest : List Char}
    (h : startsNumber operandExpected c rest = true) :
    scanToken operandExpected c rest = scanNumber c rest := by
  have hne : ∀ d, d ≠ '-' → isNumberChar d = false → (c == d) = false := by
    rintro d hminus hnumber
    rw [beq_eq_false_iff_ne]
    rintro rfl
    simp only [isNumberChar, Bool.or_eq_false_iff, beq_eq_false_iff_ne] at hnumber
    simp [startsNumber, hminus, hnumber] at h
  simp [scanToken, hne, h, nameMark, isNumberChar]

theorem scanToken_numeral {c : Char} {rest : List Char} {t : Token} (h : Numeral (c :: rest))
    (ht : numberToken (c :: rest) = .ok t) : scanToken true c rest = .ok (t, []) := by
  rw [scanToken_eq_scanNumber, scanNumber_numeral h ht]
  cases h with
  | unsigned hd hds h => simp [startsNumber, hd]
  | negative hd hds h => simp [startsNumber, isNumberChar_of_isDigit hd]

theorem numeral_of_floatSpelling {cs : List Char} (h : FloatSpelling cs) : Numeral cs := by
  obtain ⟨hsign, hwhole, hfraction, hexponent⟩ := h
  rename_i sign whole fraction exponent
  obtain ⟨hne, hwhole⟩ := hwhole
  cases whole with
  | nil => exact absurd rfl hne
  | cons d whole =>
    have hd : d.isDigit = true := hwhole d (by simp)
    have hchars : ∀ c ∈ whole ++ '.' :: fraction, isNumberChar c = true := by
      intro c hc
      simp only [List.mem_append, List.mem_cons] at hc
      rcases hc with hc | rfl | hc
      · exact isNumberChar_of_isDigit (hwhole c (by simp [hc]))
      · decide
      · exact isNumberChar_of_isDigit (hfraction.2 c hc)
    rcases hsign with rfl | rfl
    · simpa using Numeral.unsigned hd hchars hexponent
    · simpa using Numeral.negative hd hchars hexponent

theorem numberToken_of_floatSpelling {cs : List Char} {x : Binary64} (h : FloatSpelling cs)
    (hx : readBinary64? (String.ofList cs) = some x) :
    numberToken cs = .ok (.literal (.float x)) := by
  have hpoint : (cs.any fun c => c == '.' || c == 'e' || c == 'E') = true := by
    obtain ⟨hsign, hwhole, hfraction, hexponent⟩ := h
    exact List.any_eq_true.2 ⟨'.', by simp, rfl⟩
  simp only [numberToken, hpoint, if_true, hx]

theorem numeral_toDigits (n : Nat) : ∃ d ds, Nat.toDigits 10 n = d :: ds ∧ d.isDigit = true ∧
    ∀ c ∈ ds, c.isDigit = true := by
  have hdigits : ∀ c ∈ Nat.toDigits 10 n, c.isDigit = true :=
    fun c hc => Nat.isDigit_of_mem_toDigits (by decide) (by decide) hc
  cases hds : Nat.toDigits 10 n with
  | nil => exact absurd hds Nat.toDigits_ne_nil
  | cons d ds =>
    rw [hds] at hdigits
    exact ⟨d, ds, rfl, hdigits d (by simp), fun c hc => hdigits c (by simp [hc])⟩

theorem numeral_toString (i : Int) : Numeral (toString i).toList := by
  rw [toList_toString_int]
  split
  · obtain ⟨d, ds, heq, hd, hds⟩ := numeral_toDigits i.toNat
    rw [heq]
    simpa using Numeral.unsigned hd (fun c hc => isNumberChar_of_isDigit (hds c hc)) .none
  · obtain ⟨d, ds, heq, hd, hds⟩ := numeral_toDigits (-i).toNat
    rw [heq]
    simpa using Numeral.negative hd (fun c hc => isNumberChar_of_isDigit (hds c hc)) .none

theorem numberToken_toString (v : Int64) :
    numberToken (toString v.toInt).toList = .ok (.literal (.int v)) := by
  have hchars : ∀ c ∈ (toString v.toInt).toList, c = '-' ∨ c.isDigit = true := by
    intro c hc
    rw [toList_toString_int] at hc
    split at hc
    · exact .inr (Nat.isDigit_of_mem_toDigits (by decide) (by decide) hc)
    · rcases List.mem_cons.1 hc with rfl | hc
      · exact .inl rfl
      · exact .inr (Nat.isDigit_of_mem_toDigits (by decide) (by decide) hc)
  have hpoint : ((toString v.toInt).toList.any fun c => c == '.' || c == 'e' || c == 'E') =
      false := by
    rw [List.any_eq_false]
    intro c hc hmark
    simp only [Bool.or_eq_true, beq_iff_eq] at hmark
    rcases hmark with (rfl | rfl) | rfl <;> exact absurd (hchars _ hc) (by decide)
  simp only [numberToken, hpoint, String.ofList_toList, readInt64_toString]
  rfl

/-! ### Tokens one by one -/

/-- The code points of blanks. -/
private def blankCodes : List Nat :=
  [0x9, 0xa, 0xb, 0xc, 0xd, 0x20, 0x85, 0xa0, 0x1680, 0x2000, 0x2001, 0x2002, 0x2003, 0x2004,
    0x2005, 0x2006, 0x2007, 0x2008, 0x2009, 0x200a, 0x2028, 0x2029, 0x202f, 0x205f, 0x3000]

private theorem toNat_mem_blankCodes {c : Char} (h : Text.isBlank c = true) :
    c.toNat ∈ blankCodes := by
  simp only [Text.isBlank, Bool.or_eq_true, Bool.and_eq_true, decide_eq_true_eq, beq_iff_eq] at h
  simp only [blankCodes, List.mem_cons, List.not_mem_nil, or_false]
  omega

theorem isBreak_of_isBlank {c : Char} (h : Text.isBlank c = true) : isBreak c = true := by
  have hall : ∀ n ∈ blankCodes, isBreak (Char.ofNat n) = true := by decide +kernel
  have hc := hall c.toNat (toNat_mem_blankCodes h)
  rwa [Char.ofNat_toNat] at hc

/-- A token that is read in full, without a blank in front. -/
def ReadAlone (operandExpected : Bool) (t : Token) (cs : List Char) : Prop :=
  ∃ c rest, cs = c :: rest ∧ Text.isBlank c = false ∧
    scanToken operandExpected c rest = .ok (t, [])

theorem readAlone_name (operandExpected : Bool) {v : String} (hne : v ≠ "")
    (hmark : nameMark ∉ v.toList) :
    ReadAlone operandExpected (.name v) (nameMark :: (v.toList ++ [nameMark])) := by
  refine ⟨_, _, rfl, by decide, ?_⟩
  have hread : markedName? (v.toList ++ ['\x60']) = some (v.toList, []) :=
    markedName?_name hmark []
  cases hv : v.toList with
  | nil => exact absurd (String.toList_eq_nil_iff.1 hv) hne
  | cons d ds =>
    have htext : String.ofList (d :: ds) = v := by rw [← hv, String.ofList_toList]
    rw [hv, List.cons_append] at hread
    simp [scanToken, nameMark, hread, htext]

theorem readAlone_text (operandExpected : Bool) {v : String} {cs : List Char}
    (h : Escaped '\'' v.toList cs) :
    ReadAlone operandExpected (.literal (.text v)) ('\'' :: (cs ++ ['\''])) := by
  refine ⟨_, _, rfl, by decide, ?_⟩
  have hread := quotedText?_escaped (by decide) h []
  simp [scanToken, hread]

theorem readAlone_numeral {cs : List Char} {t : Token} (h : Numeral cs)
    (ht : numberToken cs = .ok t) : ReadAlone true t cs := by
  cases cs with
  | nil => cases h
  | cons c rest =>
    refine ⟨c, rest, rfl, ?_, scanToken_numeral h ht⟩
    cases h with
    | unsigned hd hds h => exact Text.isBlank_eq_false_of_isDigit hd
    | negative hd hds h => decide

theorem readAlone_spelling {operandExpected : Bool} {t : Token} {cs : List Char}
    (h : Spelling t cs) (hname : ∀ v, t = .name v → v ≠ "" ∧ nameMark ∉ v.toList)
    (hliteral : ∀ v, t = .literal v → operandExpected = true) :
    ReadAlone operandExpected t cs := by
  cases h with
  | name v => exact readAlone_name _ (hname v rfl).1 (hname v rfl).2
  | int v =>
    rw [hliteral _ rfl]
    exact readAlone_numeral (numeral_toString _) (numberToken_toString v)
  | float h hx =>
    rw [hliteral _ rfl]
    exact readAlone_numeral (numeral_of_floatSpelling h) (numberToken_of_floatSpelling h hx)
  | text h => exact readAlone_text _ h
  | bool v => cases v <;> exact ⟨_, _, rfl, by decide, rfl⟩
  | comparison op => cases op <;> exact ⟨_, _, rfl, by decide, rfl⟩
  | openParen | closeParen | conjunction | disjunction | negation =>
    exact ⟨_, _, rfl, by decide, rfl⟩

/-! ### Lists of tokens with blanks between them -/

/-- Each literal stands where an operand is expected. -/
def Placed (operandExpected : Bool) : List Token → Prop
  | [] => True
  | t :: ts => (∀ v, t = .literal v → operandExpected = true) ∧ Placed t.expectsOperand ts

theorem placed_append {operandExpected : Bool} {ts us : List Token} :
    Placed operandExpected (ts ++ us) ↔
      Placed operandExpected ts ∧ Placed (expectedAfter operandExpected ts) us := by
  induction ts generalizing operandExpected with
  | nil => simp [Placed, expectedAfter]
  | cons t ts ih =>
    rw [List.cons_append, Placed, Placed, ih, and_assoc]
    rfl

theorem tokensAfter_blanks {blanks : List Char} (h : ∀ c ∈ blanks, Text.isBlank c = true)
    (operandExpected : Bool) (cs : List Char) :
    tokensAfter operandExpected (blanks ++ cs) = tokensAfter operandExpected cs := by
  induction blanks with
  | nil => rfl
  | cons c blanks ih =>
    rw [List.cons_append, tokensAfter_blank (h c (by simp)), ih fun d hd => h d (by simp [hd])]

theorem breaks_blanks {blanks : List Char} (hne : blanks ≠ [])
    (h : ∀ c ∈ blanks, Text.isBlank c = true) (cs : List Char) : Breaks (blanks ++ cs) := by
  cases blanks with
  | nil => exact absurd rfl hne
  | cons c blanks => exact breaks_cons _ (isBreak_of_isBlank (h c (by simp)))

/-- Tokens with blanks between them are read one by one. -/
theorem tokensAfter_spaced {ts : List Token} {cs : List Char} (h : Spaced ts cs)
    (hnames : ∀ v, .name v ∈ ts → v ≠ "" ∧ nameMark ∉ v.toList) {operandExpected : Bool}
    (hplaced : Placed operandExpected ts) : tokensAfter operandExpected cs = .ok ts := by
  induction h generalizing operandExpected with
  | @last t cs h =>
    obtain ⟨c, rest, rfl, hc, hread⟩ :=
      readAlone_spelling h (fun v hv => hnames v (by simp [hv])) hplaced.1
    rw [tokensAfter_token hc hread, tokensAfter_nil]
    rfl
  | @more t cs blanks ts rest h hne hblanks hrest ih =>
    obtain ⟨c, cs, rfl, hc, hread⟩ :=
      readAlone_spelling h (fun v hv => hnames v (by simp [hv])) hplaced.1
    rw [List.cons_append, tokensAfter_whole hc hread (breaks_blanks hne hblanks rest),
      tokensAfter_blanks hblanks, ih (fun v hv => hnames v (by simp [hv])) hplaced.2]
    rfl

end Lexer

end TableReport
