import Fingerprint.Bytes

/-!
# Timestamps

Times are microseconds since the first instant of 1970, in Coordinated
Universal Time and the Gregorian calendar. A timestamp shows the date and time
of the second, and the microseconds within it with six digits.

Before 1970 seconds are cut off towards 1970, so the microseconds of a
timestamp are negative there.

* `Calendar.Date.ofDays`: the date of a day;
* `Calendar.timestamp`: the text of a time.
-/

namespace Fingerprint

namespace Calendar

/-- A date of the Gregorian calendar. -/
structure Date where
  year : Int
  month : Nat
  day : Nat
  deriving DecidableEq, Repr

/-- The date that is `days` days after the first of January 1970.

    Years are taken from the first of March on, so that the leap day comes last,
    and are grouped into eras of 400 years, which all have the same number of
    days. -/
def Date.ofDays (days : Int) : Date :=
  let shifted := days + 719468
  let era := shifted / 146097
  let dayOfEra := (shifted % 146097).toNat
  let yearOfEra := (dayOfEra - dayOfEra / 1460 + dayOfEra / 36524 - dayOfEra / 146096) / 365
  let dayOfYear := dayOfEra - (365 * yearOfEra + yearOfEra / 4 - yearOfEra / 100)
  let monthFromMarch := (5 * dayOfYear + 2) / 153
  let day := dayOfYear - (153 * monthFromMarch + 2) / 5 + 1
  let month := if monthFromMarch < 10 then monthFromMarch + 3 else monthFromMarch - 9
  let year := (yearOfEra : Int) + era * 400 + (if month ≤ 2 then 1 else 0)
  ⟨year, month, day⟩

/-- The seconds of a time in microseconds, cut off towards 1970. -/
def seconds (micros : Int) : Int := micros.tdiv 1000000

/-- The microseconds beyond the whole seconds of a time. -/
def fraction (micros : Int) : Int := micros.tmod 1000000

/-- The text of the whole second at `seconds`, such as `2024-02-29T23:59:59`. -/
def secondText (seconds : Int) : Bytes :=
  let date := Date.ofDays (seconds / 86400)
  let secondOfDay := (seconds % 86400).toNat
  let two := fun n : Nat => Bytes.padZeros 2 (Bytes.ofNat n)
  Bytes.ofInt date.year ++ 0x2d :: two date.month ++ 0x2d :: two date.day ++
    0x54 :: two (secondOfDay / 3600) ++ 0x3a :: two (secondOfDay / 60 % 60) ++
    0x3a :: two (secondOfDay % 60)

/-- The text of a time, such as `2024-02-29T23:59:59.000001Z`. -/
def timestamp (micros : Int) : Bytes :=
  secondText (seconds micros) ++ 0x2e :: Bytes.padZeros 6 (Bytes.ofInt (fraction micros)) ++ [0x5a]

end Calendar

end Fingerprint
