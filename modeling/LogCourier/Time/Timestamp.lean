import LogCourier.Number.Digits

/-! Instants in milliseconds since the epoch, with dates in the proleptic Gregorian calendar. -/

namespace LogCourier

/-- An instant, in milliseconds since the start of 1970, that has a date the calendar can name. -/
structure Timestamp where
  millis : Int
  earliest : -8334601228800000 ≤ millis
  latest : millis ≤ 8210266876799999
  deriving DecidableEq, Repr

namespace Timestamp

/-- The start of 1970. -/
def epoch : Timestamp := ⟨0, by decide, by decide⟩

instance : Inhabited Timestamp := ⟨epoch⟩

/-- The instant that lies a number of milliseconds after the epoch, if the calendar reaches it. -/
def ofMillis? (millis : Int) : Option Timestamp :=
  if inside : -8334601228800000 ≤ millis ∧ millis ≤ 8210266876799999 then
    some ⟨millis, inside.1, inside.2⟩
  else none

end Timestamp

/-- A day of the Gregorian calendar, with a year zero before the year one. -/
structure CivilDate where
  year : Int
  month : Nat
  day : Nat
  deriving DecidableEq, Repr

namespace CivilDate

/-- The date that lies a number of days after the first of January 1970. -/
def ofDays (days : Int) : CivilDate :=
  -- Years are counted from March in eras of four hundred, so that leap days come last.
  let shifted := days + 719468
  let era := shifted.fdiv 146097
  let dayOfEra := (shifted - era * 146097).toNat
  let yearOfEra := (dayOfEra - dayOfEra / 1460 + dayOfEra / 36524 - dayOfEra / 146096) / 365
  let dayOfYear := dayOfEra - (365 * yearOfEra + yearOfEra / 4 - yearOfEra / 100)
  let marchMonth := (5 * dayOfYear + 2) / 153
  let month := if marchMonth < 10 then marchMonth + 3 else marchMonth - 9
  { year := era * 400 + yearOfEra + (if month ≤ 2 then 1 else 0)
    month := month
    day := dayOfYear - (153 * marchMonth + 2) / 5 + 1 }

/-- A year has at least four digits, and a sign outside the first ten thousand years. -/
def yearText (year : Int) : List Char :=
  let run := padZeros 4 (digits year.natAbs)
  if year < 0 then '-' :: run else if 9999 < year then '+' :: run else run

end CivilDate

namespace Timestamp

/-- The date and the time of day in milliseconds, in universal time. -/
def text (instant : Timestamp) : String :=
  let date := CivilDate.ofDays (instant.millis.fdiv 86400000)
  let ofDay := (instant.millis.fmod 86400000).toNat
  let two (value : Nat) := padZeros 2 (digits value)
  String.ofList <|
    CivilDate.yearText date.year ++ '-' :: two date.month ++ '-' :: two date.day ++
      'T' :: two (ofDay / 3600000) ++ ':' :: two (ofDay / 60000 % 60) ++
      ':' :: two (ofDay / 1000 % 60) ++ '.' :: padZeros 3 (digits (ofDay % 1000)) ++ ['Z']

end Timestamp

end LogCourier
