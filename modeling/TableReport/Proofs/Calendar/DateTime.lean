import TableReport.Calendar.DateTime
import TableReport.Proofs.Number.Decimal
/-!
# The text of a date and a time

The text says everything but the fraction of a second.
-/
namespace TableReport.DateTime

/-- The start of the second. -/
def wholeSecond (t : DateTime) : DateTime :=
  { t with clock := { t.clock with nano := 0, nano_lt := Nat.succ_pos _ } }

/-! ### Numbers of fixed width -/

theorem digitsValue_padded (width n : Nat) : digitsValue (padded width n) = n :=
  (digitsValue_zeros_append _ _).trans (digitsValue_toDigits n)

theorem padded_injective {width m n : Nat} (h : padded width m = padded width n) : m = n := by
  rw [← digitsValue_padded width m, h, digitsValue_padded]

theorem length_padded {width n : Nat} (hwidth : 0 < width) (h : n < 10 ^ width) :
    (padded width n).length = width := by
  have hle := (Nat.length_toDigits_le_iff (by decide) hwidth).2 h
  rw [padded, List.length_append, List.length_replicate]
  omega

theorem isDigit_of_mem_padded {width n : Nat} {c : Char} (h : c ∈ padded width n) :
    c.isDigit = true := by
  rcases List.mem_append.1 h with h | h
  · obtain rfl := List.eq_of_mem_replicate h
    rfl
  · exact Nat.isDigit_of_mem_toDigits (by decide) (by decide) h

theorem yearText_injective {y z : Int} (h : yearText y = yearText z) : y = z := by
  have hmark : ∀ (i : Int) (n : Nat) (ds : List Char),
      padded 4 n ≠ (if i < 0 then '-' else '+') :: ds := by
    intro i n ds heq
    have hdigit := isDigit_of_mem_padded (heq ▸ List.mem_cons_self)
    split at hdigit <;> exact nomatch hdigit
  unfold yearText at h
  by_cases hy : 0 ≤ y ∧ y ≤ 9999 <;> by_cases hz : 0 ≤ z ∧ z ≤ 9999
  · rw [if_pos hy, if_pos hz] at h
    have := padded_injective h
    omega
  · rw [if_pos hy, if_neg hz] at h
    exact absurd h (hmark _ _ _)
  · rw [if_neg hy, if_pos hz] at h
    exact absurd h.symm (hmark _ _ _)
  · rw [if_neg hy, if_neg hz] at h
    obtain ⟨hsign, hdigits⟩ := List.cons.inj h
    have := padded_injective hdigits
    split at hsign <;> split at hsign
    all_goals first | omega | exact absurd hsign (by decide)

/-! ### The parts of a text -/

theorem daysInMonth_le (year : Int) (month : Nat) : daysInMonth year month ≤ 31 := by
  unfold daysInMonth
  split_ifs <;> decide

/-- The clock and the calendar have numbers of two digits. -/
theorem two_digits (d : DateTime) : d.date.month < 100 ∧ d.date.day < 100 ∧ d.clock.hour < 100 ∧
    d.clock.minute < 100 ∧ d.clock.second < 100 := by
  have hmonth := d.date.month_range
  have hday := d.date.day_range
  have hdays := daysInMonth_le d.date.year d.date.month
  have hhour := d.clock.hour_lt
  have hminute := d.clock.minute_lt
  have hsecond := d.clock.second_le
  omega

/-- The last two digits of a text, and what stands before their mark. -/
theorem append_padded_inj {front front' : List Char} {c : Char} {m n : Nat} (hm : m < 100) (hn : n < 100)
    (h : front ++ c :: padded 2 m = front' ++ c :: padded 2 n) : front = front' ∧ m = n := by
  obtain ⟨hfront, hback⟩ := List.append_inj' h (by
    rw [List.length_cons, List.length_cons, length_padded (by decide) hm, length_padded (by decide) hn])
  exact ⟨hfront, padded_injective (List.cons.inj hback).2⟩

theorem wholeSecond_eq_iff {a b : DateTime} : a.wholeSecond = b.wholeSecond ↔
    a.date.year = b.date.year ∧ a.date.month = b.date.month ∧ a.date.day = b.date.day ∧
      a.clock.hour = b.clock.hour ∧ a.clock.minute = b.clock.minute ∧
        a.clock.second = b.clock.second := by
  obtain ⟨⟨_, _, _, _, _, _⟩, ⟨_, _, _, _, _, _, _, _⟩⟩ := a
  obtain ⟨⟨_, _, _, _, _, _⟩, ⟨_, _, _, _, _, _, _, _⟩⟩ := b
  simp [wholeSecond, and_assoc]

/-- Each part of a text but the year has a fixed width, so that the parts can be taken off one by one
from the end. -/
theorem textWith_eq_iff {between : Char} {a b : DateTime} :
    a.textWith between = b.textWith between ↔ a.wholeSecond = b.wholeSecond := by
  rw [wholeSecond_eq_iff]
  constructor
  · intro h
    obtain ⟨hmonth, hday, hhour, hminute, hsecond⟩ := a.two_digits
    obtain ⟨hmonth', hday', hhour', hminute', hsecond'⟩ := b.two_digits
    obtain ⟨h, hs⟩ := append_padded_inj hsecond hsecond' h
    obtain ⟨h, hmin⟩ := append_padded_inj hminute hminute' h
    obtain ⟨h, hh⟩ := append_padded_inj hhour hhour' h
    obtain ⟨h, hd⟩ := append_padded_inj hday hday' h
    obtain ⟨h, hm⟩ := append_padded_inj hmonth hmonth' h
    exact ⟨yearText_injective h, hm, hd, hh, hmin, hs⟩
  · rintro ⟨hy, hm, hd, hh, hmin, hs⟩
    rw [textWith, textWith, hy, hm, hd, hh, hmin, hs]

/-- Texts tell dates and times apart up to the second. -/
theorem text_eq_iff {a b : DateTime} : a.text = b.text ↔ a.wholeSecond = b.wholeSecond := by
  rw [text, text, String.ofList_inj, textWith_eq_iff]

end TableReport.DateTime
