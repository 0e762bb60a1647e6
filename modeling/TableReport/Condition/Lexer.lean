import TableReport.Condition.Error
import TableReport.Number.Reading
import TableReport.Text.Blank
/-!
# Tokens of a condition text

Each scanner takes the characters from where its token starts and gives the token with the characters
after it. Blanks between tokens are skipped. A minus sign begins a number only where an operand is
expected.
-/
namespace TableReport

namespace Lexer

/-- The characters up to the closing quote, and what follows it. A backslash stands for the character
after it. -/
def quotedText? (quote : Char) : List Char → Option (List Char × List Char)
  | [] => none
  | '\\' :: c :: rest => (quotedText? quote rest).map fun (cs, tail) => (c :: cs, tail)
  | c :: rest =>
    if c == quote then some ([], rest)
    else (quotedText? quote rest).map fun (cs, tail) => (c :: cs, tail)

/-- The mark around names of any characters. -/
def nameMark : Char := '\x60'

/-- The characters up to the closing mark of a name, and what follows it. -/
def markedName? : List Char → Option (List Char × List Char)
  | [] => none
  | c :: rest =>
    if c == nameMark then some ([], rest)
    else (markedName? rest).map fun (cs, tail) => (c :: cs, tail)

def isWordChar (c : Char) : Bool := Text.isAlphanumeric c || c == '_'

def isWordStart (c : Char) : Bool := Text.isAlphabetic c || c == '_'

def isNumberChar (c : Char) : Bool := c.isDigit || c == '.'

def signSpan : List Char → List Char × List Char
  | '+' :: ds => (['+'], ds)
  | '-' :: ds => (['-'], ds)
  | ds => ([], ds)

/-- An exponent with at least one digit, and what follows it. -/
def exponentSpan (cs : List Char) : List Char × List Char :=
  match cs with
  | [] => ([], [])
  | e :: rest =>
    if e == 'e' || e == 'E' then
      let (sign, ds) := signSpan rest
      if (ds.takeWhile Char.isDigit).isEmpty then ([], cs)
      else (e :: sign ++ ds.takeWhile Char.isDigit, ds.dropWhile Char.isDigit)
    else ([], cs)

def unsignedSpan (cs : List Char) : List Char × List Char :=
  let (e, tail) := exponentSpan (cs.dropWhile isNumberChar)
  (cs.takeWhile isNumberChar ++ e, tail)

/-- A number that begins with a given sign, digit or point, and what follows it. -/
def numberSpan (c : Char) (rest : List Char) : List Char × List Char :=
  let (ds, tail) := unsignedSpan rest
  (c :: ds, tail)

/-- The token of a number: an integer without point and exponent, a binary64 number with one. -/
def numberToken (cs : List Char) : Except GrammarProblem Token :=
  let s := String.ofList cs
  if cs.any fun c => c == '.' || c == 'e' || c == 'E' then
    match readBinary64? s with
    | some x => .ok (.literal (.float x))
    | none => .error (.invalidFloat s)
  else
    match readInt64 s with
    | .ok i => .ok (.literal (.int i))
    | .error _ => .error (.invalidInteger s)

/-- A number, which no letter may follow directly. -/
def scanNumber (c : Char) (rest : List Char) : Except GrammarProblem (Token × List Char) :=
  let (ds, tail) := numberSpan c rest
  match tail.head? with
  | some d =>
    if isWordStart d then .error (.numberRunsOn (String.ofList (ds ++ [d])))
    else (numberToken ds).map (·, tail)
  | none => (numberToken ds).map (·, tail)

/-- A sign that an equals sign may follow. -/
def scanComparison (alone withEquals : Except GrammarProblem Token) (rest : List Char) :
    Except GrammarProblem (Token × List Char) :=
  match rest with
  | '=' :: tail => withEquals.map (·, tail)
  | _ => alone.map (·, rest)

def scanWord (c : Char) (rest : List Char) : Token × List Char :=
  (Token.ofWord (c :: rest.takeWhile isWordChar), rest.dropWhile isWordChar)

/-- Whether a number starts here: a digit, a point before a digit, or, where an operand is expected, a
minus sign before a digit or a point. -/
def startsNumber (operandExpected : Bool) (c : Char) (rest : List Char) : Bool :=
  (c == '-' && operandExpected && rest.head?.any isNumberChar) || c.isDigit ||
    (c == '.' && rest.head?.any Char.isDigit)

/-- The token that begins with a character other than a blank. -/
def scanToken (operandExpected : Bool) (c : Char) (rest : List Char) :
    Except GrammarProblem (Token × List Char) :=
  if c == '(' then .ok (.openParen, rest)
  else if c == ')' then .ok (.closeParen, rest)
  else if c == '=' then scanComparison (.error .singleEquals) (.ok (.comparison .eq)) rest
  else if c == '!' then scanComparison (.error .singleBang) (.ok (.comparison .ne)) rest
  else if c == '>' then scanComparison (.ok (.comparison .gt)) (.ok (.comparison .ge)) rest
  else if c == '<' then scanComparison (.ok (.comparison .lt)) (.ok (.comparison .le)) rest
  else if c == '\'' || c == '"' then
    match quotedText? c rest with
    | some (cs, tail) => .ok (.literal (.text (String.ofList cs)), tail)
    | none => .error .unterminatedText
  else if c == nameMark then
    match markedName? rest with
    | some ([], _) => .error .emptyName
    | some (cs, tail) => .ok (.name (String.ofList cs), tail)
    | none => .error .unterminatedName
  else if startsNumber operandExpected c rest then scanNumber c rest
  else if isWordStart c then .ok (scanWord c rest)
  else .error (.unexpectedCharacter c)

private theorem length_dropWhile_le (p : Char → Bool) (cs : List Char) :
    (cs.dropWhile p).length ≤ cs.length :=
  (List.dropWhile_sublist p).length_le

theorem quotedText?_length {quote : Char} {cs : List Char} {r : List Char × List Char}
    (h : quotedText? quote cs = some r) : r.2.length ≤ cs.length := by
  fun_induction quotedText? quote cs generalizing r with
  | case1 => simp at h
  | case2 c rest ih =>
    obtain ⟨u, hu, rfl⟩ := Option.map_eq_some_iff.1 h
    have := ih hu
    simp only [List.length_cons]
    omega
  | case3 c rest hc hne =>
    cases h
    simp
  | case4 c rest hc hne ih =>
    obtain ⟨u, hu, rfl⟩ := Option.map_eq_some_iff.1 h
    have := ih hu
    simp only [List.length_cons]
    omega

theorem markedName?_length {cs : List Char} {r : List Char × List Char}
    (h : markedName? cs = some r) : r.2.length ≤ cs.length := by
  fun_induction markedName? cs generalizing r with
  | case1 => simp at h
  | case2 c rest hc =>
    cases h
    simp
  | case3 c rest hc ih =>
    obtain ⟨u, hu, rfl⟩ := Option.map_eq_some_iff.1 h
    have := ih hu
    simp only [List.length_cons]
    omega

theorem signSpan_length (cs : List Char) : (signSpan cs).2.length ≤ cs.length := by
  fun_cases signSpan cs <;> simp

theorem exponentSpan_length (cs : List Char) : (exponentSpan cs).2.length ≤ cs.length := by
  unfold exponentSpan
  split
  · simp
  · rename_i e rest
    have hsign := signSpan_length rest
    have hdigits := length_dropWhile_le Char.isDigit (signSpan rest).2
    dsimp only
    split
    · split
      · simp
      · simp only [List.length_cons]
        omega
    · simp

theorem unsignedSpan_length (cs : List Char) : (unsignedSpan cs).2.length ≤ cs.length :=
  Nat.le_trans (exponentSpan_length _) (length_dropWhile_le _ _)

private theorem map_pair_ok {x : Except GrammarProblem Token} {rest : List Char} {t : Token}
    {tail : List Char} (h : x.map (·, rest) = .ok (t, tail)) : tail = rest := by
  cases x with
  | error e => simp [Except.map] at h
  | ok v => simp_all [Except.map]

theorem scanNumber_length {c : Char} {rest : List Char} {t : Token} {tail : List Char}
    (h : scanNumber c rest = .ok (t, tail)) : tail.length ≤ rest.length := by
  have hle := unsignedSpan_length rest
  unfold scanNumber numberSpan at h
  dsimp only at h
  split at h
  · split at h
    · simp at h
    · rw [map_pair_ok h]
      exact hle
  · rw [map_pair_ok h]
    exact hle

theorem scanComparison_length {alone withEquals : Except GrammarProblem Token} {rest : List Char}
    {t : Token} {tail : List Char} (h : scanComparison alone withEquals rest = .ok (t, tail)) :
    tail.length ≤ rest.length := by
  unfold scanComparison at h
  split at h
  · rw [map_pair_ok h]
    simp
  · exact Nat.le_of_eq (congrArg List.length (map_pair_ok h))

private theorem of_ite_eq {α : Type} {p : Prop} [Decidable p] {a b x : α}
    (h : (if p then a else b) = x) : a = x ∨ b = x := by
  by_cases hp : p
  · exact Or.inl ((if_pos hp).symm.trans h)
  · exact Or.inr ((if_neg hp).symm.trans h)

/-- A token takes at least its first character. -/
theorem scanToken_length {operandExpected : Bool} {c : Char} {rest : List Char} {t : Token}
    {tail : List Char} (h : scanToken operandExpected c rest = .ok (t, tail)) :
    tail.length ≤ rest.length := by
  rcases of_ite_eq h with h | h
  · cases h
    exact Nat.le_refl _
  rcases of_ite_eq h with h | h
  · cases h
    exact Nat.le_refl _
  rcases of_ite_eq h with h | h
  · exact scanComparison_length h
  rcases of_ite_eq h with h | h
  · exact scanComparison_length h
  rcases of_ite_eq h with h | h
  · exact scanComparison_length h
  rcases of_ite_eq h with h | h
  · exact scanComparison_length h
  rcases of_ite_eq h with h | h
  · cases read : quotedText? c rest with
    | none => simp [read] at h
    | some r =>
      rw [read] at h
      cases h
      exact quotedText?_length read
  rcases of_ite_eq h with h | h
  · cases read : markedName? rest with
    | none => simp [read] at h
    | some r =>
      obtain ⟨name, after⟩ := r
      rw [read] at h
      cases name with
      | nil => cases h
      | cons d ds =>
        cases h
        exact markedName?_length read
  rcases of_ite_eq h with h | h
  · exact scanNumber_length h
  rcases of_ite_eq h with h | h
  · cases h
    exact length_dropWhile_le _ _
  · cases h

/-- The tokens of a text that follows a given token. -/
def tokensAfter (operandExpected : Bool) (cs : List Char) : Except GrammarProblem (List Token) :=
  match cs with
  | [] => .ok []
  | c :: rest =>
    if Text.isBlank c then tokensAfter operandExpected rest
    else
      match h : scanToken operandExpected c rest with
      | .error e => .error e
      | .ok (t, tail) =>
        have : tail.length ≤ rest.length := scanToken_length h
        (tokensAfter t.expectsOperand tail).map (t :: ·)
termination_by cs.length

theorem tokensAfter_nil (operandExpected : Bool) : tokensAfter operandExpected [] = .ok [] := by
  rw [tokensAfter.eq_def]

theorem tokensAfter_cons (operandExpected : Bool) (c : Char) (rest : List Char) :
    tokensAfter operandExpected (c :: rest) =
      if Text.isBlank c then tokensAfter operandExpected rest
      else
        match scanToken operandExpected c rest with
        | .error e => .error e
        | .ok (t, tail) => (tokensAfter t.expectsOperand tail).map (t :: ·) := by
  rw [tokensAfter.eq_def]
  dsimp only
  split
  · rfl
  · split <;> rename_i h <;> simp only [h]

end Lexer

def tokenize (s : String) : Except GrammarProblem (List Token) :=
  Lexer.tokensAfter true s.toList

end TableReport
