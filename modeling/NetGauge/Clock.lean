set_option autoImplicit false

/-! # Dates and times

Moments are counted in seconds since the start of 1970, and shown in the Gregorian calendar in
universal time: as a label for the current tick, as a timestamp for an export, and as a stamp for
the name of a file. -/

namespace NetGauge

/-- A moment: whole seconds since the start of 1970 and nanoseconds beyond them. In a leap second,
    which follows the last second of a minute and is not counted, they are a thousand million or
    more. -/
structure Moment where
  seconds : Int
  nanos : Nat := 0
  deriving DecidableEq

/-- A date and a time of day. -/
structure DateTime where
  year : Int
  month : Nat
  day : Nat
  hour : Nat
  minute : Nat
  second : Nat
  deriving DecidableEq, Repr

namespace DateTime

/-- Seconds in a day. -/
def daySeconds : Int := 86400

/-- The year, month and day that lie so many days after the first of January 1970. Years are
    counted from March, so that a leap day ends its year, in eras of four hundred years. -/
def civil (days : Int) : Int × Nat × Nat :=
  let shifted := days + 719468
  let era := shifted / 146097
  let dayOfEra := (shifted % 146097).toNat
  let yearOfEra := (dayOfEra - dayOfEra / 1460 + dayOfEra / 36524 - dayOfEra / 146096) / 365
  let dayOfYear := dayOfEra - (365 * yearOfEra + yearOfEra / 4 - yearOfEra / 100)
  let shiftedMonth := (5 * dayOfYear + 2) / 153
  let day := dayOfYear - (153 * shiftedMonth + 2) / 5 + 1
  let month := if shiftedMonth < 10 then shiftedMonth + 3 else shiftedMonth - 9
  let year := (yearOfEra : Int) + era * 400 + (if month ≤ 2 then 1 else 0)
  (year, month, day)

/-- The date and time of a moment. -/
def ofSeconds (seconds : Int) : DateTime :=
  let (year, month, day) := civil (seconds / daySeconds)
  let rest := (seconds % daySeconds).toNat
  ⟨year, month, day, rest / 3600, rest / 60 % 60, rest % 60⟩

/-- Digits of a number, filled up with zeros to a width. -/
def padded (width n : Nat) : String :=
  let digits := Nat.toDigits 10 n
  String.ofList (List.replicate (width - digits.length) '0' ++ digits)

/-- A year in four digits; outside of them it carries its sign. -/
def yearText (year : Int) : String :=
  if 0 ≤ year ∧ year ≤ 9999 then padded 4 year.toNat
  else if 0 ≤ year then "+" ++ padded 5 year.toNat
  else "-" ++ padded 4 (-year).toNat

/-- The time of day, to the second. -/
def timeText (t : DateTime) : String :=
  padded 2 t.hour ++ ":" ++ padded 2 t.minute ++ ":" ++ padded 2 t.second

/-- Date and time in digits only, for the name of a file. -/
def stamp (t : DateTime) : String :=
  yearText t.year ++ padded 2 t.month ++ padded 2 t.day ++ "-" ++
    padded 2 t.hour ++ padded 2 t.minute ++ padded 2 t.second

end DateTime

namespace Moment

def dateTime (m : Moment) : DateTime := .ofSeconds m.seconds

/-- The label of the tick that a moment belongs to. -/
def label (m : Moment) : String := m.dateTime.timeText

/-- The fraction of a second, in as many groups of three digits as it takes. -/
def fraction (nanos : Nat) : String :=
  if nanos = 0 then ""
  else if nanos % 1000000 = 0 then "." ++ DateTime.padded 3 (nanos / 1000000)
  else if nanos % 1000 = 0 then "." ++ DateTime.padded 6 (nanos / 1000)
  else "." ++ DateTime.padded 9 nanos

/-- Nanoseconds in a second. -/
def secondNanos : Nat := 1000000000

/-- The timestamp of an export. A leap second is the sixty-first of its minute. -/
def timestamp (m : Moment) : String :=
  let t := m.dateTime
  let t := { t with second := t.second + m.nanos / secondNanos }
  DateTime.yearText t.year ++ "-" ++ DateTime.padded 2 t.month ++ "-" ++ DateTime.padded 2 t.day ++
    "T" ++ t.timeText ++ fraction (m.nanos % secondNanos) ++ "+00:00"

end Moment

end NetGauge
