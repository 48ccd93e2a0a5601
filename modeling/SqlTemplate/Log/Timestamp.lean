import SqlTemplate.Decimal.Layout

/-! A timestamp shows an instant as a date and a time of day, in universal time. -/

namespace SqlTemplate

/-- An instant, in milliseconds since the beginning of the year 1970. -/
structure Timestamp where
  /-- The number of milliseconds, negative before that year. -/
  millis : Int

namespace Timestamp

/-- A day of the calendar. -/
structure Date where
  /-- The year. -/
  year : Int
  /-- The month, counted from one. -/
  month : Nat
  /-- The day of the month, counted from one. -/
  day : Nat

/-- The date of a day, counted from the first day of the year 1970. -/
def Date.ofDay (day : Int) : Date :=
  -- Years are counted from March on, so that a leap day comes last. Four hundred years have
  -- 146097 days, and the first of March of the year zero is day -719468.
  let shifted := day + 719468
  let era := shifted.fdiv 146097
  let dayOfEra := (shifted - era * 146097).toNat
  let yearOfEra := (dayOfEra - dayOfEra / 1460 + dayOfEra / 36524 - dayOfEra / 146096) / 365
  let dayOfYear := dayOfEra - (365 * yearOfEra + yearOfEra / 4 - yearOfEra / 100)
  let monthFromMarch := (5 * dayOfYear + 2) / 153
  let month := if monthFromMarch < 10 then monthFromMarch + 3 else monthFromMarch - 9
  ⟨era * 400 + yearOfEra + (if month ≤ 2 then 1 else 0), month,
    dayOfYear - (153 * monthFromMarch + 2) / 5 + 1⟩

/-- A number with two digits. -/
def twoDigits (n : Nat) : String :=
  Decimal.padZeros 2 (toString n)

/-- The date, the time of day, and after a comma the milliseconds. -/
def shown (timestamp : Timestamp) : String :=
  let date := Date.ofDay (timestamp.millis.fdiv 86400000)
  let millis := (timestamp.millis.fmod 86400000).toNat
  let seconds := millis / 1000
  let time := [seconds / 3600, seconds / 60 % 60, seconds % 60].map twoDigits
  s!"{date.year}-" ++ twoDigits date.month ++ "-" ++ twoDigits date.day ++ " " ++
    ":".intercalate time ++ "," ++ Decimal.padZeros 3 (toString (millis % 1000))

end Timestamp

end SqlTemplate
