import Mathlib.Data.List.TakeWhile
import Mathlib.Tactic.SplitIfs
import TableReport.Json.Parser
import TableReport.Proofs.Number.Integer
/-!
# Integers in JSON

A number that is read as an integer has neither a fraction nor an exponent, and is the integer that its
digits and its sign denote.
-/
namespace TableReport.Json

variable {cs rest ds : List Char} {negative : Bool} {n m : Nat} {i : Int}

theorem eq_of_digits (h : (if (spanDigits cs).1.isEmpty then none
    else some ((spanDigits cs).1, (spanDigits cs).2)) = some (ds, rest)) :
    cs = ds ++ rest ∧ ds ≠ [] ∧ ∀ d ∈ ds, d.isDigit = true := by
  split_ifs at h with hempty
  obtain ⟨rfl, rfl⟩ := Prod.mk.inj (Option.some.inj h)
  exact ⟨List.takeWhile_append_dropWhile.symm, mt List.isEmpty_iff.2 hempty,
    fun d hd => List.mem_takeWhile_imp hd⟩

theorem eq_of_wholeDigits? (h : wholeDigits? cs = some (ds, rest)) :
    cs = ds ++ rest ∧ ds ≠ [] ∧ ∀ d ∈ ds, d.isDigit = true := by
  unfold wholeDigits? at h
  split at h
  case h_1 c tail =>
    split_ifs at h
    obtain ⟨rfl, rfl⟩ := Prod.mk.inj (Option.some.inj h)
    exact ⟨rfl, List.cons_ne_nil _ _, by simp⟩
  case h_2 => exact eq_of_digits h

theorem eq_of_fractionDigits?_nil (h : fractionDigits? cs = some ([], rest)) : rest = cs := by
  unfold fractionDigits? at h
  split at h
  case h_1 tail => exact absurd rfl (eq_of_digits h).2.1
  case h_2 => exact (Prod.mk.inj (Option.some.inj h)).2.symm

theorem eq_of_exponentPart?_none (h : exponentPart? cs = some (none, rest)) : rest = cs := by
  unfold exponentPart? at h
  split at h
  case h_1 e tail =>
    split_ifs at h with he
    -- After the letter there are digits, and the exponent is their number.
    · dsimp only at h
      generalize spanDigits _ = found at h
      split_ifs at h <;> cases h
    · exact (Prod.mk.inj (Option.some.inj h)).2.symm
  case h_2 => exact (Prod.mk.inj (Option.some.inj h)).2.symm

theorem eq_of_continueWord_nil (h : continueWord n ds = (m, [])) : m = Nat.ofDigitChars 10 ds n := by
  induction ds generalizing n with
  | nil => exact (Prod.mk.inj h).1.symm
  | cons d ds ih =>
    simp only [continueWord] at h
    split_ifs at h
    · rw [Nat.ofDigitChars_cons, Nat.mul_comm]
      exact ih h
    · cases h

theorem eq_of_ofInteger (h : ofInteger negative n = .int i) : i = signed negative n := by
  unfold ofInteger at h
  cases negative with
  | false => exact (Json.int.inj h).symm
  | true =>
    rw [if_pos rfl] at h
    split_ifs at h
    exact (Json.int.inj h).symm

theorem digits_of_unsignedNumber? (h : unsignedNumber? negative cs = some (.int i, rest)) :
    ∃ ds, cs = ds ++ rest ∧ ds ≠ [] ∧ (∀ d ∈ ds, d.isDigit = true) ∧
      i = signed negative (Nat.ofDigitChars 10 ds 0) := by
  unfold unsignedNumber? at h
  obtain ⟨⟨whole, afterWhole⟩, hwhole, h⟩ := Option.bind_eq_some_iff.1 h
  obtain ⟨⟨fraction, afterFraction⟩, hfraction, h⟩ := Option.bind_eq_some_iff.1 h
  obtain ⟨⟨exponent, last⟩, hexponent, h⟩ := Option.bind_eq_some_iff.1 h
  dsimp only at h
  split at h
  case h_1 hword _ =>
    obtain ⟨hint, rfl⟩ := Prod.mk.inj (Option.some.inj h)
    obtain rfl := eq_of_exponentPart?_none hexponent
    obtain rfl := eq_of_fractionDigits?_nil hfraction
    obtain ⟨hcs, hne, hds⟩ := eq_of_wholeDigits? hwhole
    refine ⟨whole, hcs, hne, hds, ?_⟩
    rw [eq_of_ofInteger hint, eq_of_continueWord_nil hword]
  case h_2 =>
    obtain ⟨x, -, h⟩ := Option.bind_eq_some_iff.1 h
    cases (Prod.mk.inj (Option.some.inj h)).1

/-- A JSON number that is an integer is the one that its text denotes. -/
theorem denotesInteger_of_number? (h : number? cs = some (.int i, rest)) :
    ∃ text, cs = text ++ rest ∧ DenotesInteger text i := by
  unfold number? at h
  split at h
  case h_1 tail =>
    obtain ⟨ds, rfl, hne, hds, rfl⟩ := digits_of_unsignedNumber? h
    exact ⟨'-' :: ds, rfl, .minus hne hds⟩
  case h_2 =>
    obtain ⟨ds, rfl, hne, hds, rfl⟩ := digits_of_unsignedNumber? h
    exact ⟨ds, rfl, .unsigned hne hds⟩

end TableReport.Json
