import TableReport.Calendar.DateTime
import TableReport.Number.Nearest
/-!
# Date serials

Workbooks count days from the end of 1899; the fraction of a serial is the time of day, taken to the
nearest millisecond.
-/
namespace TableReport

/-- The date that lies a number of days after the first of January 1970. Years are counted from March,
so that the leap day is the last of its year. -/
def Date.ofDays? (days : Int) : Option Date :=
  let shifted := days + 719468
  let era := shifted.fdiv 146097
  let dayOfEra := (shifted - era * 146097).toNat
  let yearOfEra := (dayOfEra - dayOfEra / 1460 + dayOfEra / 36524 - dayOfEra / 146096) / 365
  let dayOfYear := dayOfEra - (365 * yearOfEra + yearOfEra / 4 - yearOfEra / 100)
  let fromMarch := (5 * dayOfYear + 2) / 153
  let day := dayOfYear - (153 * fromMarch + 2) / 5 + 1
  let month := if fromMarch < 10 then fromMarch + 3 else fromMarch - 9
  let year := era * 400 + yearOfEra + (if month ≤ 2 then 1 else 0)
  Date.of? year month day

/-- Milliseconds of a day. -/
def millisPerDay : Nat := 86400000

/-- The day of serial zero, counted from the first of January 1970. -/
def serialEpoch : Int := -25569

/-- The time of day after a number of milliseconds. -/
def Clock.ofMillis? (millis : Nat) : Option Clock :=
  Clock.of? (millis / 3600000) (millis / 60000 % 60) (millis / 1000 % 60) (millis % 1000 * 1000000)

/-- The date and time of a serial, if it is in the supported range. -/
def DateTime.ofSerial? (serial : Binary64) : Option DateTime :=
  if serial.isFinite then do
    let millis := (serial * Binary64.ofNat millisPerDay).round.truncate.toInt
    let date ← Date.ofDays? (serialEpoch + millis.fdiv millisPerDay)
    let clock ← Clock.ofMillis? (millis.fmod millisPerDay).toNat
    some ⟨date, clock⟩
  else none

end TableReport
