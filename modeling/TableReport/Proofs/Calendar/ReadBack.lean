import TableReport.Proofs.Calendar.DateTime
import TableReport.Proofs.Calendar.Formats
/-!
# Reading the text of a date back

A text that begins with a digit gives a year of at most four digits. The text of such a date has every
number at full width, so that each piece of the first format finds its own number and no more.
-/
namespace TableReport

variable {piece : DatePiece} {pieces : List DatePiece} {p q : DateParts} {cs ds rest : List Char} {c : Char}
  {s : String} {d : DateTime}

/-! ### The years that are read -/

theorem DatePiece.year_of_read? (hpiece : piece ≠ .year) (h : piece.read? p cs = some (q, rest)) :
    q.year = p.year := by
  cases piece with
  | year => exact absurd rfl hpiece
  | blanks =>
    cases h
    rfl
  | mark c =>
    cases cs with
    | nil => cases h
    | cons d cs =>
      simp only [read?] at h
      split at h
      case isTrue =>
        cases h
        rfl
      case isFalse => cases h
  | _ =>
    obtain ⟨_, -, hpair⟩ := Option.map_eq_some_iff.1 h
    cases hpair
    rfl

theorem year_of_readPieces? (hpieces : .year ∉ pieces) (h : readPieces? pieces p cs = some q) :
    q.year = p.year := by
  induction pieces generalizing p cs with
  | nil =>
    simp only [readPieces?] at h
    split at h
    case isTrue =>
      cases h
      rfl
    case isFalse => cases h
  | cons piece pieces ih =>
    rw [List.mem_cons, not_or] at hpieces
    unfold readPieces? at h
    obtain ⟨⟨p', rest⟩, hread, h⟩ := Option.bind_eq_some_iff.1 h
    exact (ih hpieces.2 h).trans (DatePiece.year_of_read? (Ne.symm hpieces.1) hread)

theorem DateParts.year_of_dateTime? (h : p.dateTime? = some d) : d.date.year = p.year := by
  unfold dateTime? at h
  obtain ⟨date, hdate, h⟩ := Option.bind_eq_some_iff.1 h
  obtain ⟨clock, -, h⟩ := Option.bind_eq_some_iff.1 h
  cases h
  unfold Date.of? at hdate
  split at hdate
  case isTrue =>
    cases hdate
    rfl
  case isFalse => cases hdate

theorem DateFormat.exists_eq_year_cons {format : DateFormat} (h : format ∈ all) :
    ∃ pieces, format = .year :: pieces ∧ .year ∉ pieces := by
  simp only [all, List.mem_cons, List.not_mem_nil, or_false] at h
  rcases h with rfl | rfl | rfl | rfl | rfl
  all_goals exact ⟨_, rfl, by decide⟩

/-- The year of a date that a text denotes has four digits at most, and no sign. -/
theorem year_of_readDateTime? (h : readDateTime? s = some d) : 0 ≤ d.date.year ∧ d.date.year ≤ 9999 := by
  obtain ⟨c, cs, -, hc, format, hformat, hread⟩ := exists_format_of_readDateTime? h
  obtain ⟨pieces, rfl, hpieces⟩ := DateFormat.exists_eq_year_cons hformat
  unfold DateFormat.read? at hread
  obtain ⟨q, hq, hread⟩ := Option.bind_eq_some_iff.1 hread
  rw [DateParts.year_of_dateTime? hread]
  unfold readPieces? at hq
  obtain ⟨⟨p, rest⟩, hyear, hq⟩ := Option.bind_eq_some_iff.1 hq
  obtain ⟨⟨year, tail⟩, hyear, hpair⟩ := Option.map_eq_some_iff.1 hyear
  cases hpair
  obtain ⟨ds, -, hds, -, hlength, rfl⟩ := takeYear?_of_isDigit hc hyear
  have hvalue := (digitsValue_lt hds).trans_le (Nat.pow_le_pow_right (by decide) hlength)
  rw [year_of_readPieces? hpieces hq]
  dsimp only
  omega

/-! ### Numbers of full width -/

theorem takeNumber?_append {width : Nat} (hds : ∀ c ∈ ds, c.isDigit = true) (hne : ds ≠ [])
    (hlength : ds.length = width) : takeNumber? width (ds ++ cs) = some (digitsValue ds, cs) := by
  have htake : ((ds ++ cs).take width).takeWhile Char.isDigit = ds := by
    rw [List.take_left' hlength, List.takeWhile_eq_self_iff]
    exact hds
  simp only [takeNumber?, htake, List.isEmpty_iff, if_neg hne, List.drop_left]

namespace DateTime

variable {width n : Nat}

/-- A number of fixed width begins with a digit. -/
theorem exists_padded_eq_cons (width n : Nat) : ∃ c ds, c.isDigit = true ∧ padded width n = c :: ds := by
  cases hds : padded width n with
  | nil =>
    obtain ⟨-, hdigits⟩ := List.append_eq_nil_iff.1 hds
    exact absurd hdigits Nat.toDigits_ne_nil
  | cons c ds => exact ⟨c, ds, isDigit_of_mem_padded (hds ▸ List.mem_cons_self), rfl⟩

theorem padded_ne_nil (width n : Nat) : padded width n ≠ [] := by
  obtain ⟨c, ds, -, hds⟩ := exists_padded_eq_cons width n
  rw [hds]
  exact List.cons_ne_nil c ds

theorem trimLeft_padded_append (width n : Nat) (cs : List Char) :
    Text.trimLeft (padded width n ++ cs) = padded width n ++ cs := by
  obtain ⟨c, ds, hc, hds⟩ := exists_padded_eq_cons width n
  rw [hds, List.cons_append, Text.trimLeft_cons_of_isDigit hc]

theorem takeNumber?_padded (hwidth : 0 < width) (hn : n < 10 ^ width) :
    takeNumber? width (padded width n ++ cs) = some (n, cs) := by
  rw [takeNumber?_append (fun _ => isDigit_of_mem_padded) (padded_ne_nil _ _) (length_padded hwidth hn),
    digitsValue_padded]

theorem takeTwoDigits?_padded (hn : n < 100) : takeTwoDigits? (padded 2 n ++ cs) = some (n, cs) := by
  rw [takeTwoDigits?, trimLeft_padded_append, takeNumber?_padded (by decide) hn]

theorem takeYear?_yearText {year : Int} (hyear : 0 ≤ year ∧ year ≤ 9999) :
    takeYear? (yearText year ++ cs) = some (year, cs) := by
  have hn : year.toNat < 10 ^ 4 := by omega
  have hread : takeNumber? 4 (padded 4 year.toNat ++ cs) = some (year.toNat, cs) :=
    takeNumber?_padded (by decide) hn
  obtain ⟨c, ds, hc, hds⟩ := exists_padded_eq_cons 4 year.toNat
  rw [yearText, if_pos hyear]
  rw [hds, List.cons_append] at hread ⊢
  rw [takeYear?_cons_of_isDigit hc, hread, Option.map_some]
  dsimp only
  rw [Int.toNat_of_nonneg hyear.1]

/-! ### The text of a date and time -/

/-- The parts of a date and time to the second. -/
def parts (d : DateTime) : DateParts :=
  ⟨d.date.year, d.date.month, d.date.day, d.clock.hour, d.clock.minute, d.clock.second, 0⟩

theorem dateTime?_parts (d : DateTime) : d.parts.dateTime? = some d.wholeSecond := by
  have hdate : Date.of? d.date.year d.date.month d.date.day = some d.date :=
    dif_pos ⟨d.date.year_range, d.date.month_range, d.date.day_range⟩
  have hclock : Clock.of? d.clock.hour d.clock.minute d.clock.second 0 = some d.wholeSecond.clock :=
    dif_pos ⟨d.clock.hour_lt, d.clock.minute_lt, d.clock.second_le, Nat.succ_pos _⟩
  simp only [DateParts.dateTime?, parts, hdate, hclock, Option.bind_eq_bind, Option.bind_some]
  rfl

section FourDigits

variable (hyear : 0 ≤ d.date.year ∧ d.date.year ≤ 9999)

include hyear

theorem readPieces?_textWith :
    readPieces? DateFormat.blankSeconds .none (d.textWith ' ') = some d.parts := by
  obtain ⟨hmonth, hday, hhour, hminute, hsecond⟩ := d.two_digits
  have hblank : ∀ cs, Text.trimLeft (' ' :: (padded 2 d.clock.hour ++ cs)) = padded 2 d.clock.hour ++ cs :=
    trimLeft_padded_append 2 d.clock.hour
  have hlast : takeTwoDigits? (padded 2 d.clock.second) = some (d.clock.second, []) := by
    rw [← List.append_nil (padded 2 d.clock.second), takeTwoDigits?_padded hsecond]
  simp only [DateFormat.blankSeconds, DateFormat.date, textWith, List.append_assoc, List.cons_append,
    List.nil_append, readPieces?, DatePiece.read?, takeYear?_yearText hyear, takeTwoDigits?_padded hmonth,
    takeTwoDigits?_padded hday, takeTwoDigits?_padded hhour, takeTwoDigits?_padded hminute, hlast, hblank,
    Option.map_some, Option.bind_eq_bind, Option.bind_some, if_pos]
  rfl

/-- The text begins and ends with a digit. -/
theorem trimChars_textWith {between : Char} : Text.trimChars (d.textWith between) = d.textWith between := by
  have hfront : Text.trimLeft (d.textWith between) = d.textWith between := by
    simp only [textWith, yearText, if_pos hyear, List.append_assoc, trimLeft_padded_append]
  rw [Text.trimChars_eq, hfront, List.rdropWhile_eq_self_iff]
  intro hne
  have hlast : (d.textWith between).getLast hne = (padded 2 d.clock.second).getLast (padded_ne_nil _ _) :=
    (List.getLast_append_of_ne_nil hne (List.cons_ne_nil _ _)).trans (List.getLast_cons (padded_ne_nil _ _))
  rw [hlast, Text.isBlank_eq_false_of_isDigit (isDigit_of_mem_padded (List.getLast_mem _))]
  exact Bool.false_ne_true

theorem length_textWith {between : Char} : (d.textWith between).length = 19 := by
  have hyears : (padded 4 d.date.year.toNat).length = 4 := length_padded (by decide) (by omega)
  have htwo {n : Nat} (hn : n < 100) : (padded 2 n).length = 2 := length_padded (by decide) hn
  obtain ⟨hmonth, hday, hhour, hminute, hsecond⟩ := d.two_digits
  simp only [textWith, yearText, if_pos hyear, List.length_append, List.length_cons, hyears, htwo hmonth,
    htwo hday, htwo hhour, htwo hminute, htwo hsecond]

theorem looksLikeDate_text : looksLikeDate d.text = true := by
  have hbytes : 10 ≤ d.text.utf8ByteSize := by
    apply le_trans _ (length_le_utf8ByteSize d.text)
    rw [text, String.toList_ofList, length_textWith hyear]
    decide
  have hdigit : d.text.toList.head?.any Char.isDigit = true := by
    obtain ⟨c, ds, hc, hds⟩ := exists_padded_eq_cons 4 d.date.year.toNat
    simp only [text, String.toList_ofList, textWith, yearText, if_pos hyear, hds, List.append_assoc,
      List.cons_append, List.head?_cons, Option.any_some, hc]
  rw [looksLikeDate, hdigit, Bool.and_true, decide_eq_true hbytes]

/-- The text denotes the start of its second. -/
theorem readDateTime?_text : readDateTime? d.text = some d.wholeSecond := by
  have htrim : Text.trim d.text = d.text := by
    rw [Text.trim, text, String.toList_ofList, trimChars_textWith hyear]
  have hformat : DateFormat.blankSeconds.read? d.text.toList = some d.wholeSecond := by
    rw [text, String.toList_ofList, DateFormat.read?, readPieces?_textWith hyear]
    exact dateTime?_parts d
  simp only [readDateTime?, htrim, looksLikeDate_text hyear, if_true]
  exact readFormats?_eq_some_iff.2 ⟨_, List.mem_cons_self, hformat⟩

end FourDigits

end DateTime

end TableReport
