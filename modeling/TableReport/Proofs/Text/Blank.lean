import Mathlib.Data.List.DropRight
import TableReport.Text.Blank
/-!
# Trimmed texts

A trimmed text has no blank at either end, so trimming it once more leaves it as it is. A text that
begins with a digit begins with no blank.
-/
namespace TableReport.Text

theorem isBlank_eq_false_of_isDigit {c : Char} (h : c.isDigit = true) : isBlank c = false := by
  have hc := Char.isDigit_iff_toNat.1 h
  simp only [Char.reduceToNat] at hc
  simp [isBlank]
  omega

theorem trimLeft_cons_of_isDigit {c : Char} (h : c.isDigit = true) (cs : List Char) :
    trimLeft (c :: cs) = c :: cs := by
  simp [trimLeft, isBlank_eq_false_of_isDigit h]

theorem trimChars_eq (cs : List Char) : trimChars cs = (trimLeft cs).rdropWhile isBlank := rfl

/-- No blank is left in front. -/
theorem trimLeft_trimChars (cs : List Char) : trimLeft (trimChars cs) = trimChars cs := by
  rw [trimLeft, List.dropWhile_eq_self_iff]
  intro hlength
  have hfront : trimChars cs <+: trimLeft cs := by
    rw [trimChars_eq]
    exact List.rdropWhile_prefix isBlank (trimLeft cs)
  have hlength' : 0 < (trimLeft cs).length := Nat.lt_of_lt_of_le hlength hfront.length_le
  rw [hfront.getElem hlength]
  exact List.dropWhile_get_zero_not isBlank cs hlength'

theorem trimChars_trimChars (cs : List Char) : trimChars (trimChars cs) = trimChars cs := by
  rw [trimChars_eq (trimChars cs), trimLeft_trimChars, trimChars_eq, List.rdropWhile_idempotent]

theorem trim_trim (s : String) : trim (trim s) = trim s := by
  rw [trim, trim, String.toList_ofList, trimChars_trimChars]

/-! ### Blanks around other text -/

/-- Only blanks. -/
def AllBlank (cs : List Char) : Prop := ∀ c ∈ cs, isBlank c = true

instance (cs : List Char) : Decidable (AllBlank cs) :=
  decidable_of_iff (cs.all isBlank = true) List.all_eq_true

variable {cs before after : List Char}

theorem trimLeft_eq_nil_iff : trimLeft cs = [] ↔ AllBlank cs := List.dropWhile_eq_nil_iff

theorem rdropWhile_eq_nil_iff : cs.rdropWhile isBlank = [] ↔ AllBlank cs := List.rdropWhile_eq_nil_iff

theorem AllBlank.append (h : AllBlank before) (h' : AllBlank after) : AllBlank (before ++ after) := by
  intro c hc
  exact (List.mem_append.1 hc).elim (h c) (h' c)

theorem trimLeft_append_of_allBlank (h : AllBlank before) : trimLeft (before ++ cs) = trimLeft cs := by
  rw [trimLeft, List.dropWhile_append_of_pos h]
  rfl

theorem trimLeft_append (h : ¬ AllBlank cs) : trimLeft (cs ++ after) = trimLeft cs ++ after := by
  rw [trimLeft, List.dropWhile_append, if_neg]
  · rfl
  · rwa [List.isEmpty_iff, ← trimLeft_eq_nil_iff] at *

theorem rdropWhile_append_of_allBlank (h : AllBlank after) :
    (cs ++ after).rdropWhile isBlank = cs.rdropWhile isBlank := by
  rw [List.rdropWhile, List.reverse_append,
    List.dropWhile_append_of_pos fun c hc => h c (List.mem_reverse.1 hc)]
  rfl

theorem rdropWhile_append (h : ¬ AllBlank after) :
    (cs ++ after).rdropWhile isBlank = cs ++ after.rdropWhile isBlank := by
  rw [List.rdropWhile, List.reverse_append, List.dropWhile_append, if_neg, List.reverse_append,
    List.reverse_reverse]
  · rfl
  · rwa [List.isEmpty_iff, ← List.reverse_eq_nil_iff, ← List.rdropWhile, rdropWhile_eq_nil_iff]

theorem not_mem_trimLeft {c : Char} (h : c ∉ cs) : c ∉ trimLeft cs :=
  mt (fun hmem => (List.dropWhile_sublist isBlank).subset hmem) h

theorem not_mem_rdropWhile {c : Char} (h : c ∉ cs) : c ∉ cs.rdropWhile isBlank :=
  mt (fun hmem => (List.rdropWhile_prefix isBlank cs).subset hmem) h

theorem trimChars_append_left (h : AllBlank before) : trimChars (before ++ cs) = trimChars cs := by
  rw [trimChars_eq, trimLeft_append_of_allBlank h, trimChars_eq]

theorem trimChars_append_right (h : AllBlank after) : trimChars (cs ++ after) = trimChars cs := by
  by_cases hcs : AllBlank cs
  · rw [trimChars_eq, trimLeft_eq_nil_iff.2 (hcs.append h), trimChars_eq, trimLeft_eq_nil_iff.2 hcs]
  · rw [trimChars_eq, trimLeft_append hcs, rdropWhile_append_of_allBlank h, trimChars_eq]

/-- Only blanks are taken away in front. -/
theorem exists_trimLeft (cs : List Char) : ∃ before, AllBlank before ∧ cs = before ++ trimLeft cs :=
  ⟨cs.takeWhile isBlank, fun _ => List.mem_takeWhile_imp, List.takeWhile_append_dropWhile.symm⟩

/-- Only blanks are taken away at the end. -/
theorem exists_rdropWhile (cs : List Char) :
    ∃ after, AllBlank after ∧ cs = cs.rdropWhile isBlank ++ after :=
  ⟨cs.rtakeWhile isBlank, fun _ => List.mem_rtakeWhile_imp,
    List.rdropWhile_append_rtakeWhile.symm⟩

theorem trimChars_trimLeft (cs : List Char) : trimChars (trimLeft cs) = trimChars cs := by
  obtain ⟨before, hbefore, hcs⟩ := exists_trimLeft cs
  conv_rhs => rw [hcs, trimChars_append_left hbefore]

theorem trimChars_rdropWhile (cs : List Char) : trimChars (cs.rdropWhile isBlank) = trimChars cs := by
  obtain ⟨after, hafter, hcs⟩ := exists_rdropWhile cs
  conv_rhs => rw [hcs, trimChars_append_right hafter]

theorem trimChars_eq_nil_iff : trimChars cs = [] ↔ AllBlank cs := by
  rw [trimChars_eq, rdropWhile_eq_nil_iff]
  constructor
  · intro h
    obtain ⟨before, hbefore, hcs⟩ := exists_trimLeft cs
    exact hcs ▸ hbefore.append h
  · intro h
    rw [trimLeft_eq_nil_iff.2 h]
    exact List.forall_mem_nil _

theorem trim_eq_empty_iff {s : String} : trim s = "" ↔ AllBlank s.toList := by
  rw [← trimChars_eq_nil_iff, trim, String.ofList_eq_empty_iff]

/-! ### Pieces of a text -/

section Pieces

variable {α : Type} {isSeparator : α → Bool} {piece rest : List α} {separator : α}

theorem splitOn_eq_singleton (h : ∀ a ∈ piece, isSeparator a = false) :
    splitOn isSeparator piece = [piece] := by
  induction piece with
  | nil => rfl
  | cons a piece ih =>
    rw [List.forall_mem_cons] at h
    rw [splitOn, if_neg (by simp [h.1]), ih h.2]

theorem splitOn_append_cons (h : ∀ a ∈ piece, isSeparator a = false)
    (hseparator : isSeparator separator = true) :
    splitOn isSeparator (piece ++ separator :: rest) = piece :: splitOn isSeparator rest := by
  induction piece with
  | nil => rw [List.nil_append, splitOn, if_pos hseparator]
  | cons a piece ih =>
    rw [List.forall_mem_cons] at h
    rw [List.cons_append, splitOn, if_neg (by simp [h.1]), ih h.2]

end Pieces

end TableReport.Text
