/-! # Calendar

Points in time, counted in seconds from the beginning of 1970 in UTC, as dates of the proleptic
Gregorian calendar.
-/

namespace SessionTokens.Calendar

/-- A date. Months and days count from one. -/
structure Date where
  year : Int
  month : Nat
  day : Nat
deriving DecidableEq, Repr

/-- The date so many days after 1 January 1970. Years are counted from March, so that a leap day is
the last of its year, and in eras of 400 years, which all have the same number of days. -/
def Date.ofDays (days : Int) : Date :=
  let z := days + 719468
  let era := z.fdiv 146097
  let dayOfEra := (z.fmod 146097).toNat
  let yearOfEra := (dayOfEra - dayOfEra / 1460 + dayOfEra / 36524 - dayOfEra / 146096) / 365
  let dayOfYear := dayOfEra - (365 * yearOfEra + yearOfEra / 4 - yearOfEra / 100)
  let shifted := (5 * dayOfYear + 2) / 153
  let month := if shifted < 10 then shifted + 3 else shifted - 9
  { year := era * 400 + yearOfEra + (if month ≤ 2 then 1 else 0)
    month
    day := dayOfYear - (153 * shifted + 2) / 5 + 1 }

/-- The first second that has a date: the beginning of the year -262143. -/
def firstSecond : Int := -8334601228800

/-- The last second that has a date: the end of the year 262142. -/
def lastSecond : Int := 8210266876799

/-- The second itself, or the first one of all if it has no date. -/
def clamp (seconds : Int) : Int :=
  if firstSecond ≤ seconds ∧ seconds ≤ lastSecond then seconds else firstSecond

/-- A number with leading zeros up to a width. -/
def padded (width n : Nat) : String :=
  let digits := Nat.toDigits 10 n
  String.ofList (List.replicate (width - digits.length) '0' ++ digits)

/-- The text of a year: four digits, and a sign where they do not suffice. -/
def yearText (year : Int) : String :=
  if 0 ≤ year ∧ year ≤ 9999 then padded 4 year.toNat
  else (if year < 0 then "-" else "+") ++ padded 4 year.natAbs

/-- The text of a point in time after RFC 3339, without its offset. -/
def text (seconds : Int) : String :=
  let s := clamp seconds
  let date := Date.ofDays (s.fdiv 86400)
  let t := (s.fmod 86400).toNat
  yearText date.year ++ "-" ++ padded 2 date.month ++ "-" ++ padded 2 date.day ++ "T" ++
    padded 2 (t / 3600) ++ ":" ++ padded 2 (t / 60 % 60) ++ ":" ++ padded 2 (t % 60)

/-- The text with the offset written as a letter. -/
def textZ (seconds : Int) : String := text seconds ++ "Z"

/-- The text with the offset written as a number. -/
def textOffset (seconds : Int) : String := text seconds ++ "+00:00"

end SessionTokens.Calendar
