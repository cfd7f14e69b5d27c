import Conform.Number.Decimal

/-! Instants of universal time and the three texts in which they are written. -/

namespace Conform

/-- Seconds since the start of 1970 and nanoseconds after that second; a count of a thousand million
nanoseconds or more lies in a leap second that follows. -/
structure Instant where
  seconds : Int
  nanoseconds : Nat
deriving DecidableEq

/-- A day of the calendar that is reckoned backwards without end. -/
structure CivilDate where
  year : Int
  month : Nat
  day : Nat
deriving DecidableEq

namespace CivilDate

/-- The date a number of days after the first of January 1970. Years are counted from March, so that
a leap day ends its year, in eras of four hundred years. -/
def ofDays (days : Int) : CivilDate :=
  -- From the first of March of the year zero, where an era begins.
  let shifted := days + 719468
  let era := shifted.fdiv 146097
  let dayOfEra := (shifted.fmod 146097).toNat
  -- Taking out the leap days of the era first leaves years of equal length.
  let yearOfEra := (dayOfEra - dayOfEra / 1460 + dayOfEra / 36524 - dayOfEra / 146096) / 365
  let dayOfYear := dayOfEra - (365 * yearOfEra + yearOfEra / 4 - yearOfEra / 100)
  -- Five months from March on have a hundred and fifty-three days.
  let monthFromMarch := (5 * dayOfYear + 2) / 153
  let day := dayOfYear - (153 * monthFromMarch + 2) / 5 + 1
  let month := if monthFromMarch < 10 then monthFromMarch + 3 else monthFromMarch - 9
  let year := era * 400 + yearOfEra
  ⟨if month ≤ 2 then year + 1 else year, month, day⟩

end CivilDate

/-- Fills a numeral up with zeros in front. -/
def padded (width : Nat) (n : Nat) : List Char :=
  let digits := numeral n
  List.replicate (width - digits.length) '0' ++ digits

/-- A year of at least four digits; one outside the first ten thousand carries its sign. -/
def yearText (year : Int) : List Char :=
  if year < 0 then '-' :: padded 4 year.natAbs
  else if year ≤ 9999 then padded 4 year.natAbs
  else '+' :: padded 4 year.natAbs

namespace Instant

/-- The instant a number of milliseconds after the start of 1970. -/
def ofMilliseconds (ms : Int) : Instant :=
  ⟨ms.fdiv 1000, (ms.fmod 1000).toNat * 1000000⟩

/-- The whole days since the start of 1970. -/
def days (time : Instant) : Int :=
  time.seconds.fdiv 86400

/-- The date of the instant. -/
def date (time : Instant) : CivilDate :=
  CivilDate.ofDays time.days

/-- The second of the day. -/
def secondOfDay (time : Instant) : Nat :=
  (time.seconds.fmod 86400).toNat

/-- The second of the minute; a leap second is the sixtieth. -/
def second (time : Instant) : Nat :=
  -- The nanoseconds of a leap second run on past those of the second before it.
  time.secondOfDay % 60 + time.nanoseconds / 1000000000

/-- The nanoseconds within the second. -/
def fraction (time : Instant) : Nat :=
  time.nanoseconds % 1000000000

/-- Hours, minutes and seconds with colons between. -/
def clock (time : Instant) : List Char :=
  padded 2 (time.secondOfDay / 3600) ++ ':' :: padded 2 (time.secondOfDay / 60 % 60) ++
    ':' :: padded 2 time.second

/-- Year, month and day with hyphens between. -/
def calendar (time : Instant) : List Char :=
  yearText time.date.year ++ '-' :: padded 2 time.date.month ++ '-' :: padded 2 time.date.day

/-- The text in JSON documents, with the milliseconds cut off after three digits. -/
def toIsoText (time : Instant) : String :=
  String.ofList (time.calendar ++ 'T' :: time.clock ++ '.' :: padded 3 (time.fraction / 1000000) ++ ['Z'])

/-- The developer text, with as many groups of three digits of fraction as are not zero. -/
def toDeveloperText (time : Instant) : String :=
  let fraction := time.fraction
  let places :=
    if fraction = 0 then []
    else if fraction % 1000000 = 0 then '.' :: padded 3 (fraction / 1000000)
    else if fraction % 1000 = 0 then '.' :: padded 6 (fraction / 1000)
    else '.' :: padded 9 fraction
  String.ofList (time.calendar ++ 'T' :: time.clock ++ places ++ ['Z'])

/-- The names of the days from the first day of 1970 on. -/
def weekdays : List String := ["Thu", "Fri", "Sat", "Sun", "Mon", "Tue", "Wed"]

/-- The names of the months. -/
def months : List String :=
  ["Jan", "Feb", "Mar", "Apr", "May", "Jun", "Jul", "Aug", "Sep", "Oct", "Nov", "Dec"]

/-- The text in mail headers, which exists for years of at most four digits only. -/
def toMailText? (time : Instant) : Option String :=
  let date := time.date
  if 0 ≤ date.year ∧ date.year ≤ 9999 then
    -- The names of the days start with that of the first of January 1970.
    let weekday := weekdays.getD (time.days.fmod 7).toNat ""
    let month := months.getD (date.month - 1) ""
    some (weekday ++ ", " ++ String.ofList (numeral date.day) ++ " " ++ month ++ " " ++
      String.ofList (padded 4 date.year.natAbs ++ ' ' :: time.clock) ++ " +0000")
  else none

end Instant

end Conform
