import TableReport.Calendar.Reading
import TableReport.Proofs.Text.Blank
/-!
# How dates begin

Every format begins with a year and a dash. A date that begins with a digit therefore begins with digits
and a dash, and is read as neither a number nor a word.
-/
namespace TableReport

variable {cs rest : List Char}

theorem takeNumber?_eq_some {width n : Nat} (h : takeNumber? width cs = some (n, rest)) :
    ∃ ds, ds ≠ [] ∧ (∀ c ∈ ds, c.isDigit = true) ∧ cs = ds ++ rest ∧
      ds.length ≤ width ∧ n = digitsValue ds := by
  unfold takeNumber? at h
  dsimp only at h
  split at h
  case isTrue => cases h
  case isFalse hne =>
    simp only [Option.some.injEq, Prod.mk.injEq] at h
    refine ⟨(cs.take width).takeWhile Char.isDigit, ?_, ?_, ?_, ?_, h.1.symm⟩
    · simpa using hne
    · intro c hc
      exact List.mem_takeWhile_imp hc
    · rw [← h.2]
      symm
      apply List.prefix_iff_eq_append.1
      exact (List.takeWhile_prefix _).trans (List.take_prefix _ _)
    · exact (List.takeWhile_prefix _).length_le.trans (List.length_take_le _ _)

theorem takeYear?_cons_of_isDigit {c : Char} (hc : c.isDigit = true) :
    takeYear? (c :: cs) = (takeNumber? 4 (c :: cs)).map fun (n, tail) => ((n : Int), tail) := by
  unfold takeYear?
  rw [Text.trimLeft_cons_of_isDigit hc]
  split
  case h_1 heq =>
    cases heq
    cases hc
  case h_2 heq =>
    cases heq
    cases hc
  case h_3 => rfl

/-- A year without a sign is the digits in front, four of them at most. -/
theorem takeYear?_of_isDigit {c : Char} {year : Int} (hc : c.isDigit = true)
    (h : takeYear? (c :: cs) = some (year, rest)) :
    ∃ ds, ds ≠ [] ∧ (∀ d ∈ ds, d.isDigit = true) ∧ c :: cs = ds ++ rest ∧
      ds.length ≤ 4 ∧ year = (digitsValue ds : Nat) := by
  rw [takeYear?_cons_of_isDigit hc] at h
  obtain ⟨⟨n, tail⟩, hread, hpair⟩ := Option.map_eq_some_iff.1 h
  cases hpair
  obtain ⟨ds, hne, hds, hcs, hlength, rfl⟩ := takeNumber?_eq_some hread
  exact ⟨ds, hne, hds, hcs, hlength, rfl⟩

theorem readPieces?_year_mark {c mark : Char} {pieces : List DatePiece} {p p' : DateParts}
    (hc : c.isDigit = true)
    (h : readPieces? (.year :: .mark mark :: pieces) p (c :: cs) = some p') :
    ∃ ds rest, ds ≠ [] ∧ (∀ d ∈ ds, d.isDigit = true) ∧ c :: cs = ds ++ mark :: rest := by
  unfold readPieces? at h
  obtain ⟨⟨p₁, rest⟩, hyear, h⟩ := Option.bind_eq_some_iff.1 h
  obtain ⟨⟨year, rest'⟩, hyear, hpair⟩ := Option.map_eq_some_iff.1 hyear
  cases hpair
  obtain ⟨ds, hne, hds, hcs, -⟩ := takeYear?_of_isDigit hc hyear
  unfold readPieces? at h
  obtain ⟨⟨p₂, tail⟩, hmark, -⟩ := Option.bind_eq_some_iff.1 h
  cases rest with
  | nil => cases hmark
  | cons d rest =>
    simp only [DatePiece.read?] at hmark
    split at hmark
    case isTrue hd => exact ⟨ds, rest, hne, hds, hd ▸ hcs⟩
    case isFalse => cases hmark

theorem DateFormat.exists_eq_date_append {format : DateFormat} (h : format ∈ all) :
    ∃ pieces, format = date ++ pieces := by
  simp only [all, List.mem_cons, List.not_mem_nil, or_false] at h
  rcases h with rfl | rfl | rfl | rfl | rfl
  · exact ⟨_, rfl⟩
  · exact ⟨_, rfl⟩
  · exact ⟨_, rfl⟩
  · exact ⟨_, rfl⟩
  · exact ⟨[], rfl⟩

/-- Blanks around a text say nothing about the date. -/
theorem readDateTime?_trim (s : String) : readDateTime? (Text.trim s) = readDateTime? s := by
  simp only [readDateTime?, Text.trim_trim]

/-- A text that denotes a date begins, behind any blanks, with a digit, and is in one of the formats. -/
theorem exists_format_of_readDateTime? {s : String} {d : DateTime} (h : readDateTime? s = some d) :
    ∃ c cs, (Text.trim s).toList = c :: cs ∧ c.isDigit = true ∧
      ∃ format ∈ DateFormat.all, format.read? (c :: cs) = some d := by
  unfold readDateTime? at h
  dsimp only at h
  split at h
  case isFalse => cases h
  case isTrue hlooks =>
    simp only [looksLikeDate, Bool.and_eq_true] at hlooks
    obtain ⟨format, hformat, hread⟩ := List.exists_of_findSome?_eq_some h
    cases hcs : (Text.trim s).toList with
    | nil => simp [hcs] at hlooks
    | cons c cs =>
      rw [hcs] at hread
      exact ⟨c, cs, rfl, by simpa [hcs] using hlooks.2, format, hformat, hread⟩

theorem digits_dash_of_readDateTime? {s : String} {d : DateTime} (h : readDateTime? s = some d) :
    ∃ ds rest, ds ≠ [] ∧ (∀ c ∈ ds, c.isDigit = true) ∧
      (Text.trim s).toList = ds ++ '-' :: rest := by
  obtain ⟨c, cs, hcs, hc, format, hformat, hread⟩ := exists_format_of_readDateTime? h
  obtain ⟨pieces, rfl⟩ := DateFormat.exists_eq_date_append hformat
  unfold DateFormat.read? at hread
  obtain ⟨p, hpieces, -⟩ := Option.bind_eq_some_iff.1 hread
  rw [hcs]
  exact readPieces?_year_mark hc hpieces

end TableReport
