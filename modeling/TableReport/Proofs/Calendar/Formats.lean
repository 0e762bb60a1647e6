import TableReport.Proofs.Calendar.Reading
import Mathlib.Data.List.Pairwise
import Mathlib.Data.String.Basic
/-!
# Which format reads a text

The formats begin alike. Where two of them part, what the one still needs is something that the other
cannot have left, so that no text is in two formats and their order does not matter. The least text of a
format has one character for each piece that may not be empty.
-/
namespace TableReport

variable {piece : DatePiece} {front pieces xs ys : List DatePiece} {cs rest : List Char} {c : Char}
  {s : String} {d : DateTime}

/-! ### What is left behind a piece -/

/-- What a piece leaves of a text. -/
def DatePiece.rest? (piece : DatePiece) (cs : List Char) : Option (List Char) :=
  (piece.read? .none cs).map Prod.snd

/-- The parts read before have no say in what is left. -/
theorem DatePiece.map_snd_read? (p : DateParts) : (piece.read? p cs).map Prod.snd = piece.rest? cs := by
  cases piece with
  | mark c =>
    cases cs with
    | nil => rfl
    | cons d cs =>
      simp only [rest?, read?]
      split <;> rfl
  | _ => simp [rest?, read?, Function.comp_def]

namespace DateFormat

/-- The text is used up by the pieces. -/
def Accepts (pieces : List DatePiece) (cs : List Char) : Prop :=
  ∃ p q, readPieces? pieces p cs = some q

theorem accepts_of_read? {format : DateFormat} (h : format.read? cs = some d) : Accepts format cs := by
  unfold DateFormat.read? at h
  obtain ⟨q, hq, -⟩ := Option.bind_eq_some_iff.1 h
  exact ⟨_, q, hq⟩

@[simp]
theorem accepts_nil_iff : Accepts [] cs ↔ cs = [] := by
  constructor
  · rintro ⟨p, q, h⟩
    simp only [readPieces?] at h
    split at h
    case isTrue hcs => exact List.isEmpty_iff.1 hcs
    case isFalse => cases h
  · rintro rfl
    exact ⟨.none, .none, rfl⟩

theorem Accepts.of_cons (h : Accepts (piece :: pieces) cs) :
    ∃ rest, piece.rest? cs = some rest ∧ Accepts pieces rest := by
  obtain ⟨p, q, h⟩ := h
  unfold readPieces? at h
  obtain ⟨⟨p', rest⟩, hread, h⟩ := Option.bind_eq_some_iff.1 h
  refine ⟨rest, ?_, p', q, h⟩
  rw [← DatePiece.map_snd_read? p, hread]
  rfl

end DateFormat

/-! ### Formats that part -/

theorem DatePiece.rest?_mark (h : (DatePiece.mark c).rest? cs = some rest) : cs = c :: rest := by
  cases cs with
  | nil => cases h
  | cons d cs =>
    simp only [rest?, read?] at h
    split at h
    case isTrue hd =>
      cases h
      rw [hd]
    case isFalse => cases h

namespace DateFormat

/-- No text is used up by both. -/
def Apart (xs ys : List DatePiece) : Prop :=
  ∀ cs, Accepts xs cs → ¬ Accepts ys cs

instance : Std.Symm Apart where
  symm _ _ h cs hys hxs := h cs hxs hys

theorem Apart.append (h : Apart xs ys) (front : List DatePiece) : Apart (front ++ xs) (front ++ ys) := by
  induction front with
  | nil => exact h
  | cons piece front ih =>
    intro cs hxs hys
    obtain ⟨rest, hrest, hxs⟩ := hxs.of_cons
    obtain ⟨rest', hrest', hys⟩ := hys.of_cons
    rw [hrest, Option.some.injEq] at hrest'
    exact ih rest hxs (hrest' ▸ hys)

theorem apart_mark_nil : Apart (.mark c :: xs) [] := by
  intro cs hmark hnil
  obtain ⟨rest, hrest, -⟩ := hmark.of_cons
  rw [accepts_nil_iff.1 hnil] at hrest
  cases hrest

theorem apart_hour_nil : Apart (.blanks :: .hour :: xs) [] := by
  intro cs hhour hnil
  rw [accepts_nil_iff.1 hnil] at hhour
  obtain ⟨rest, hrest, hhour⟩ := hhour.of_cons
  cases hrest
  obtain ⟨rest, hrest, -⟩ := hhour.of_cons
  cases hrest

/-- The mark is neither a blank nor a digit. -/
theorem apart_hour_mark : Apart (.blanks :: .hour :: xs) (.mark 'T' :: ys) := by
  intro cs hhour hmark
  obtain ⟨tail, htail, -⟩ := hmark.of_cons
  rw [DatePiece.rest?_mark htail] at hhour
  obtain ⟨rest, hrest, hhour⟩ := hhour.of_cons
  cases hrest
  obtain ⟨rest, hrest, -⟩ := hhour.of_cons
  cases hrest

theorem pairwise_apart_all : all.Pairwise Apart := by
  have hbetween (xs ys) : Apart (date ++ .blanks :: .hour :: xs) (date ++ .mark 'T' :: ys) :=
    apart_hour_mark.append date
  have hdate {xs} (h : Apart xs []) : Apart (date ++ xs) date := h.append date
  have hblank : Apart blankSeconds blankMinutes := apart_mark_nil.append blankMinutes
  have hmark : Apart markSeconds markMinutes := apart_mark_nil.append markMinutes
  simp only [all, List.pairwise_cons, List.forall_mem_cons, List.not_mem_nil, false_implies,
    implies_true, List.Pairwise.nil, and_true]
  exact ⟨⟨hbetween _ _, hblank, hbetween _ _, hdate apart_hour_nil⟩,
    ⟨symm (hbetween _ _), hmark, hdate apart_mark_nil⟩,
    ⟨hbetween _ _, hdate apart_hour_nil⟩, hdate apart_mark_nil⟩

/-- A text is in one format at most. -/
theorem eq_of_read? {format format' : DateFormat} {d' : DateTime} (hformat : format ∈ all)
    (hformat' : format' ∈ all) (h : format.read? cs = some d) (h' : format'.read? cs = some d') :
    format = format' := by
  by_contra hne
  exact pairwise_apart_all.forall hformat hformat' hne cs (accepts_of_read? h) (accepts_of_read? h')

end DateFormat

/-! ### The order of the formats -/

variable {order : List DateFormat}

/-- What is tried first does not matter, since no other format reads the text. -/
theorem findSome?_read?_eq_some_iff (horder : order ⊆ DateFormat.all) :
    order.findSome? (·.read? cs) = some d ↔ ∃ format ∈ order, format.read? cs = some d := by
  constructor
  · exact List.exists_of_findSome?_eq_some
  · rintro ⟨format, hformat, h⟩
    cases hread : order.findSome? (·.read? cs) with
    | none =>
      rw [List.findSome?_eq_none_iff.1 hread format hformat] at h
      cases h
    | some d' =>
      obtain ⟨format', hformat', h'⟩ := List.exists_of_findSome?_eq_some hread
      obtain rfl := DateFormat.eq_of_read? (horder hformat) (horder hformat') h h'
      rw [← h', h]

theorem readFormats?_eq_some_iff :
    readFormats? cs = some d ↔ ∃ format ∈ DateFormat.all, format.read? cs = some d :=
  findSome?_read?_eq_some_iff (List.Subset.refl _)

theorem findSome?_read?_eq_readFormats? (horder : order.Perm DateFormat.all) :
    order.findSome? (·.read? cs) = readFormats? cs := by
  ext d
  rw [findSome?_read?_eq_some_iff horder.subset, readFormats?_eq_some_iff]
  simp only [horder.mem_iff]

/-- The date and time that a text denotes when the formats are tried in a given order. -/
def readDateTimeIn? (order : List DateFormat) (s : String) : Option DateTime :=
  let t := Text.trim s
  if looksLikeDate t then order.findSome? (·.read? t.toList) else none

/-- No text is used up by two formats, so that a date is read by one of them alone, and the order in which
they are tried has no say in it. -/
theorem readDateTime?_in_any_order (s : String) :
    (DateFormat.all.Pairwise fun format format' =>
      ¬ (DateFormat.Accepts format (Text.trim s).toList ∧ DateFormat.Accepts format' (Text.trim s).toList)) ∧
    (∀ d, readDateTime? s = some d →
      ∃! format, format ∈ DateFormat.all ∧ format.read? (Text.trim s).toList = some d) ∧
    ∀ order : List DateFormat, order.Perm DateFormat.all → readDateTimeIn? order s = readDateTime? s := by
  refine ⟨?_, ?_, ?_⟩
  · apply DateFormat.pairwise_apart_all.imp
    rintro format format' hapart ⟨haccepts, haccepts'⟩
    exact hapart _ haccepts haccepts'
  · intro d h
    obtain ⟨c, cs, hcs, -, format, hformat, hread⟩ := exists_format_of_readDateTime? h
    rw [hcs]
    refine ⟨format, ⟨hformat, hread⟩, ?_⟩
    rintro format' ⟨hformat', hread'⟩
    exact DateFormat.eq_of_read? hformat' hformat hread' hread
  · intro order horder
    simp only [readDateTimeIn?, readDateTime?, findSome?_read?_eq_readFormats? horder]

/-- A date with a time to the minute, where the bare date is tried first. -/
theorem readDateTime?_in_reversed_order :
    ∃ d, readDateTime? "2024-01-05T1: 2 " = some d ∧
      (∃! format, format ∈ DateFormat.all ∧
        format.read? (Text.trim "2024-01-05T1: 2 ").toList = some d) ∧
      DateFormat.all.reverse.Perm DateFormat.all ∧
      readDateTimeIn? DateFormat.all.reverse "2024-01-05T1: 2 " = some d := by
  have hread : (readDateTime? "2024-01-05T1: 2 ").isSome = true := by decide +kernel
  obtain ⟨d, hd⟩ := Option.isSome_iff_exists.1 hread
  obtain ⟨-, hformat, horder⟩ := readDateTime?_in_any_order "2024-01-05T1: 2 "
  have hperm := List.reverse_perm DateFormat.all
  exact ⟨d, hd, hformat d hd, hperm, (horder _ hperm).trans hd⟩

/-! ### The least text of a format -/

/-- Whether a piece takes at least one character. -/
def DatePiece.needsCharacter : DatePiece → Bool
  | .blanks | .fraction => false
  | _ => true

theorem length_lt_of_takeNumber? {width n : Nat} (h : takeNumber? width cs = some (n, rest)) :
    rest.length < cs.length := by
  obtain ⟨ds, hne, -, rfl, -⟩ := takeNumber?_eq_some h
  rw [List.length_append]
  have := List.length_pos_iff.2 hne
  omega

theorem length_lt_of_takeTwoDigits? {n : Nat} (h : takeTwoDigits? cs = some (n, rest)) :
    rest.length < cs.length :=
  (length_lt_of_takeNumber? h).trans_le (List.length_dropWhile_le _ _)

theorem length_lt_of_takeYear? {year : Int} (h : takeYear? cs = some (year, rest)) :
    rest.length < cs.length := by
  have htrim : (Text.trimLeft cs).length ≤ cs.length := List.length_dropWhile_le _ _
  unfold takeYear? at h
  split at h
  all_goals
    obtain ⟨⟨n, tail⟩, hread, hpair⟩ := Option.map_eq_some_iff.1 h
    cases hpair
    have := length_lt_of_takeNumber? hread
  case h_1 tail heq =>
    rw [heq, List.length_cons] at htrim
    omega
  case h_2 tail heq =>
    rw [heq, List.length_cons] at htrim
    omega
  case h_3 => omega

theorem length_le_of_takeFraction? {n : Nat} (h : takeFraction? cs = some (n, rest)) :
    rest.length ≤ cs.length := by
  unfold takeFraction? at h
  split at h
  case h_1 tail =>
    dsimp only at h
    split at h
    case isTrue => cases h
    case isFalse =>
      cases h
      exact (List.length_dropWhile_le _ _).trans (Nat.le_succ _)
  case h_2 =>
    cases h
    exact Nat.le_refl _

theorem DatePiece.length_rest?_le (h : piece.rest? cs = some rest) :
    rest.length + (if piece.needsCharacter then 1 else 0) ≤ cs.length := by
  have hread : ∃ p, piece.read? .none cs = some (p, rest) := by
    obtain ⟨⟨p, tail⟩, hread, rfl⟩ := Option.map_eq_some_iff.1 h
    exact ⟨p, hread⟩
  obtain ⟨p, hread⟩ := hread
  cases piece with
  | mark c =>
    rw [rest?_mark h]
    exact Nat.le_refl _
  | blanks =>
    cases h
    exact List.length_dropWhile_le _ _
  | fraction =>
    obtain ⟨⟨n, tail⟩, hfraction, hpair⟩ := Option.map_eq_some_iff.1 hread
    cases hpair
    exact length_le_of_takeFraction? hfraction
  | year =>
    obtain ⟨⟨n, tail⟩, hyear, hpair⟩ := Option.map_eq_some_iff.1 hread
    cases hpair
    exact length_lt_of_takeYear? hyear
  | _ =>
    obtain ⟨⟨n, tail⟩, hdigits, hpair⟩ := Option.map_eq_some_iff.1 hread
    cases hpair
    exact length_lt_of_takeTwoDigits? hdigits

namespace DateFormat

theorem Accepts.countP_le (h : Accepts pieces cs) : pieces.countP DatePiece.needsCharacter ≤ cs.length := by
  induction pieces generalizing cs with
  | nil => exact Nat.zero_le _
  | cons piece pieces ih =>
    obtain ⟨rest, hrest, h⟩ := h.of_cons
    rw [List.countP_cons]
    exact (Nat.add_le_add_right (ih h) _).trans (DatePiece.length_rest?_le hrest)

/-- A time to the second is never too short. -/
theorem ten_le_length_of_seconds {format : DateFormat}
    (hformat : format = .blankSeconds ∨ format = .markSeconds) (h : Accepts format cs) :
    10 ≤ cs.length := by
  have hleast := h.countP_le
  rcases hformat with rfl | rfl
  · exact hleast
  · exact (Nat.le_succ 10).trans hleast

theorem read?_of_short (hshort : cs.length < 10) :
    (∃ format ∈ all, format.read? cs = some d) ↔
      ∃ format ∈ [blankMinutes, markMinutes, date], format.read? cs = some d := by
  have hlong {format : DateFormat} (hformat : format = blankSeconds ∨ format = markSeconds) :
      format.read? cs ≠ some d := by
    intro h
    exact absurd (ten_le_length_of_seconds hformat (accepts_of_read? h)) (Nat.not_le.2 hshort)
  simp [all, hlong]

end DateFormat

theorem length_le_utf8ByteSize (s : String) : s.toList.length ≤ s.utf8ByteSize := by
  rw [← String.ofList_toList (s := s), String.utf8ByteSize_ofList, String.toList_ofList]
  induction s.toList with
  | nil => exact Nat.zero_le _
  | cons c cs ih =>
    have := c.utf8Size_pos
    simp only [List.length_cons, String.utf8Len]
    omega

theorem readDateTime?_eq_some_iff (hdigit : (Text.trim s).toList.head?.any Char.isDigit = true) :
    readDateTime? s = some d ↔ 10 ≤ (Text.trim s).utf8ByteSize ∧
      ∃ format ∈ DateFormat.all, format.read? (Text.trim s).toList = some d := by
  rw [← readFormats?_eq_some_iff]
  simp [readDateTime?, looksLikeDate, hdigit]

/-- The test of the length turns away dates, and dates with a time to the minute, that are written with
fewer than ten bytes; and nothing else. -/
theorem readDateTime?_of_digit (hdigit : (Text.trim s).toList.head?.any Char.isDigit = true) (d : DateTime) :
    (readDateTime? s = some d ↔ 10 ≤ (Text.trim s).utf8ByteSize ∧
      ∃ format ∈ DateFormat.all, format.read? (Text.trim s).toList = some d) ∧
    ((∃ format ∈ DateFormat.all, format.read? (Text.trim s).toList = some d) ∧ readDateTime? s ≠ some d ↔
      (Text.trim s).utf8ByteSize < 10 ∧ ∃ format ∈ [DateFormat.blankMinutes, .markMinutes, .date],
        format.read? (Text.trim s).toList = some d) := by
  have hread := readDateTime?_eq_some_iff (d := d) hdigit
  refine ⟨hread, ?_⟩
  rw [Ne, hread]
  constructor
  · rintro ⟨hformat, hnot⟩
    have hshort : (Text.trim s).utf8ByteSize < 10 := Nat.not_le.1 fun hten => hnot ⟨hten, hformat⟩
    have hlength := (length_le_utf8ByteSize (Text.trim s)).trans_lt hshort
    exact ⟨hshort, (DateFormat.read?_of_short hlength).1 hformat⟩
  · rintro ⟨hshort, hformat⟩
    have hlength := (length_le_utf8ByteSize (Text.trim s)).trans_lt hshort
    exact ⟨(DateFormat.read?_of_short hlength).2 hformat, fun h => Nat.not_le.2 hshort h.1⟩

/-- A date with one digit for the month and one for the day, alone and with a time behind it. -/
theorem readDateTime?_one_digit_month :
    (∃ d, DateFormat.date.read? "2024-1-5".toList = some d ∧ readDateTime? " 2024-1-5" ≠ some d) ∧
      ∃ d, readDateTime? "2024-1-5 1:2" = some d := by
  constructor
  · have hread : (DateFormat.date.read? "2024-1-5".toList).isSome = true := by decide +kernel
    obtain ⟨d, hd⟩ := Option.isSome_iff_exists.1 hread
    have htrim : (Text.trim " 2024-1-5").toList = "2024-1-5".toList := by decide +kernel
    refine ⟨d, hd, ?_⟩
    apply And.right
    apply ((readDateTime?_of_digit (by decide +kernel) d).2).2
    exact ⟨by decide +kernel, .date, by decide, htrim ▸ hd⟩
  · have hread : (DateFormat.blankMinutes.read? "2024-1-5 1:2".toList).isSome = true := by decide +kernel
    obtain ⟨d, hd⟩ := Option.isSome_iff_exists.1 hread
    have htrim : (Text.trim "2024-1-5 1:2").toList = "2024-1-5 1:2".toList := by decide +kernel
    refine ⟨d, ?_⟩
    apply ((readDateTime?_of_digit (by decide +kernel) d).1).2
    exact ⟨by decide +kernel, .blankMinutes, by decide, htrim ▸ hd⟩

/-- The test of the length is not free of consequences. -/
theorem not_readDateTime?_of_formats :
    ¬ ∀ (s : String) (d : DateTime), (Text.trim s).toList.head?.any Char.isDigit = true →
      (readDateTime? s = some d ↔
        ∃ format ∈ DateFormat.all, format.read? (Text.trim s).toList = some d) := by
  intro h
  have hread : (DateFormat.date.read? (Text.trim "2024-1-5").toList).isSome = true := by decide +kernel
  obtain ⟨d, hd⟩ := Option.isSome_iff_exists.1 hread
  have hnone : readDateTime? "2024-1-5" = none := by decide +kernel
  have hsome := (h "2024-1-5" d (by decide +kernel)).2 ⟨.date, by decide, hd⟩
  rw [hnone] at hsome
  cases hsome

end TableReport
