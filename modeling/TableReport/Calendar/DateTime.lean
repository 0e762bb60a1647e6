/-!
# Dates and times of day

A date of the proleptic Gregorian calendar, a time of day to the nanosecond, and the two together,
without a time zone. Second sixty is a leap second.
-/
namespace TableReport

/-- A year with a twenty-ninth of February. -/
def isLeapYear (year : Int) : Bool :=
  year % 4 == 0 && (year % 100 != 0 || year % 400 == 0)

/-- The number of days of a month. -/
def daysInMonth (year : Int) (month : Nat) : Nat :=
  if month = 2 then (if isLeapYear year then 29 else 28)
  else if month = 4 ∨ month = 6 ∨ month = 9 ∨ month = 11 then 30 else 31

/-- A day of a supported year. -/
structure Date where
  year : Int
  month : Nat
  day : Nat
  year_range : -262143 ≤ year ∧ year ≤ 262142
  month_range : 1 ≤ month ∧ month ≤ 12
  day_range : 1 ≤ day ∧ day ≤ daysInMonth year month
deriving DecidableEq

/-- The date with a given year, month and day, if there is one. -/
def Date.of? (year : Int) (month day : Nat) : Option Date :=
  if h : (-262143 ≤ year ∧ year ≤ 262142) ∧ (1 ≤ month ∧ month ≤ 12) ∧
      (1 ≤ day ∧ day ≤ daysInMonth year month) then
    some ⟨year, month, day, h.1, h.2.1, h.2.2⟩
  else none

/-- A time of day. -/
structure Clock where
  hour : Nat
  minute : Nat
  second : Nat
  nano : Nat
  hour_lt : hour < 24
  minute_lt : minute < 60
  second_le : second ≤ 60
  nano_lt : nano < 1000000000
deriving DecidableEq

/-- The time with a given hour, minute, second and nanosecond, if there is one. -/
def Clock.of? (hour minute second nano : Nat) : Option Clock :=
  if h : hour < 24 ∧ minute < 60 ∧ second ≤ 60 ∧ nano < 1000000000 then
    some ⟨hour, minute, second, nano, h.1, h.2.1, h.2.2.1, h.2.2.2⟩
  else none

/-- The start of a day. -/
def Clock.midnight : Clock := ⟨0, 0, 0, 0, by decide, by decide, by decide, by decide⟩

/-- A date and a time of day. -/
structure DateTime where
  date : Date
  clock : Clock
deriving DecidableEq

namespace DateTime

/-- Earlier or later; a leap second comes after the second before it. -/
def order (a b : DateTime) : Ordering :=
  (compare a.date.year b.date.year).then <| (compare a.date.month b.date.month).then <|
    (compare a.date.day b.date.day).then <| (compare a.clock.hour b.clock.hour).then <|
      (compare a.clock.minute b.clock.minute).then <|
        (compare a.clock.second b.clock.second).then (compare a.clock.nano b.clock.nano)

/-- A number with at least a given number of digits. -/
def padded (width n : Nat) : List Char :=
  let ds := Nat.toDigits 10 n
  List.replicate (width - ds.length) '0' ++ ds

/-- A year with at least four digits, and with a sign when it is outside the four-digit years. -/
def yearText (year : Int) : List Char :=
  if 0 ≤ year ∧ year ≤ 9999 then padded 4 year.toNat
  else (if year < 0 then '-' else '+') :: padded 4 year.natAbs

/-- The date and the time to the second, with a given character between them. -/
def textWith (between : Char) (t : DateTime) : List Char :=
  yearText t.date.year ++ '-' :: padded 2 t.date.month ++ '-' :: padded 2 t.date.day ++
    between :: padded 2 t.clock.hour ++ ':' :: padded 2 t.clock.minute ++
    ':' :: padded 2 t.clock.second

/-- The form in results and messages: date, blank, time to the second. -/
def text (t : DateTime) : String :=
  String.ofList (t.textWith ' ')

/-- The form that loses nothing: date, T, time to the nanosecond. -/
def fullText (t : DateTime) : String :=
  String.ofList (t.textWith 'T' ++ '.' :: padded 9 t.clock.nano)

end DateTime

end TableReport
