import TableReport.Proofs.Number.Layout
import TableReport.Proofs.Outcome
/-!
# Texts of numbers

A text that is read as an integer consists of digits behind its sign, so it is read as a number too.
Digits with a dash behind them are no number.
-/
namespace TableReport

variable {negative : Bool} {cs : List Char}

section Integers

variable {low high read v : Int}

theorem isDigit_of_continueInteger (h : continueInteger negative low high read cs = .ok v) :
    ∀ c ∈ cs, c.isDigit = true := by
  induction cs generalizing read with
  | nil => simp
  | cons c cs ih =>
    by_cases hc : c.isDigit = true
    · rw [continueInteger, if_neg (by simp [hc])] at h
      dsimp only at h
      generalize (if negative then read * 10 - (digitValue c : Int)
        else read * 10 + digitValue c) = next at h
      by_cases hhigh : high < next
      · simp [hhigh] at h
      · by_cases hlow : next < low
        · simp [hhigh, hlow] at h
        · rw [if_neg hhigh, if_neg hlow] at h
          exact List.forall_mem_cons.2 ⟨hc, ih h⟩
    · simp [continueInteger, hc] at h

theorem isDigit_of_integerDigits (h : integerDigits negative low high cs = .ok v) :
    cs ≠ [] ∧ ∀ c ∈ cs, c.isDigit = true := by
  cases cs with
  | nil => cases h
  | cons c cs => exact ⟨List.cons_ne_nil c cs, isDigit_of_continueInteger h⟩

end Integers

theorem exists_readMagnitude?_of_isDigit (hne : cs ≠ []) (hcs : ∀ c ∈ cs, c.isDigit = true) :
    ∃ x, readMagnitude? negative cs = some x := by
  have hread : readDecimal? negative (cs ++ []) = _ := readDecimal?_whole hcs hne nofun
  rw [List.append_nil] at hread
  exact ⟨_, readMagnitude?_of_readDecimal? hread⟩

/-- Every text of an integer is the text of a number. -/
theorem exists_readBinary64?_of_readInt64 {s : String} {v : Int64} (h : readInt64 s = .ok v) :
    ∃ x, readBinary64? s = some x := by
  obtain ⟨i, hi, -⟩ := map_eq_ok h
  unfold readBinary64?
  split at hi
  case h_1 => cases hi
  case h_2 heq | h_3 heq =>
    obtain ⟨hne, hcs⟩ := isDigit_of_integerDigits hi
    rw [heq]
    exact exists_readMagnitude?_of_isDigit hne hcs
  case h_4 hminus hplus =>
    obtain ⟨hne, hcs⟩ := isDigit_of_integerDigits hi
    split
    case h_1 heq => exact absurd heq (hminus _)
    case h_2 heq => exact absurd heq (hplus _)
    case h_3 => exact exists_readMagnitude?_of_isDigit hne hcs

theorem readMagnitude?_digits_dash {ds rest : List Char} (hne : ds ≠ [])
    (hds : ∀ d ∈ ds, d.isDigit = true) : readMagnitude? negative (ds ++ '-' :: rest) = none := by
  have hdecimal : readDecimal? negative (ds ++ '-' :: rest) = none := by
    rw [readDecimal?_whole hds hne (by simp)]
    simp [readExponent?]
  cases ds with
  | nil => exact absurd rfl hne
  | cons d ds =>
    have hd : d.isDigit = true := hds d List.mem_cons_self
    have hn : d ≠ 'n' := by
      rintro rfl
      cases hd
    have hi : d ≠ 'i' := by
      rintro rfl
      cases hd
    rw [List.cons_append] at hdecimal ⊢
    simp [readMagnitude?, toLower_of_isDigit hd, hn, hi, hdecimal]

/-- Digits and a dash begin no number. -/
theorem readBinary64?_digits_dash {s : String} {ds rest : List Char} (hne : ds ≠ [])
    (hds : ∀ d ∈ ds, d.isDigit = true) (hs : s.toList = ds ++ '-' :: rest) :
    readBinary64? s = none := by
  have hread : readMagnitude? false (ds ++ '-' :: rest) = none := readMagnitude?_digits_dash hne hds
  rw [← hs] at hread
  unfold readBinary64?
  cases ds with
  | nil => exact absurd rfl hne
  | cons d ds =>
    have hd : d.isDigit = true := hds d List.mem_cons_self
    split
    case h_1 heq =>
      rw [heq, List.cons_append, List.cons.injEq] at hs
      rw [← hs.1] at hd
      cases hd
    case h_2 heq =>
      rw [heq, List.cons_append, List.cons.injEq] at hs
      rw [← hs.1] at hd
      cases hd
    case h_3 => exact hread

end TableReport
