import LineShell.Machine.Printing.Numeral

/-!
Moments as nanoseconds since the year 1970, and the dates that they have in a calendar without leap seconds.
-/

namespace LineShell.Machine

/-- A date and a time of day. -/
structure Date where
  year : Int
  month : Nat
  day : Nat
  hour : Nat := 0
  minute : Nat := 0
  second : Nat := 0
  deriving DecidableEq, Repr

namespace Date

/-- The seconds of a day. -/
def daySeconds : Int := 86400

/-- The number of days from the first of January 1970 to a date. Years begin in March, so that a leap day comes
last in them. -/
def days (year : Int) (month day : Nat) : Int :=
  let y := if month ≤ 2 then year - 1 else year
  let era := y.fdiv 400
  let yearOfEra := y - era * 400
  let monthOfYear : Int := ((month + 9) % 12 : Nat)
  let dayOfYear := (153 * monthOfYear + 2).fdiv 5 + day - 1
  era * 146097 + (yearOfEra * 365 + yearOfEra.fdiv 4 - yearOfEra.fdiv 100 + dayOfYear) - 719468

/-- The year, the month and the day so many days after the first of January 1970. -/
def ofDays (n : Int) : Int × Nat × Nat :=
  let z := n + 719468
  let era := z.fdiv 146097
  let dayOfEra := z - era * 146097
  let yearOfEra :=
    (dayOfEra - dayOfEra.fdiv 1460 + dayOfEra.fdiv 36524 - dayOfEra.fdiv 146096).fdiv 365
  let dayOfYear := dayOfEra - (365 * yearOfEra + yearOfEra.fdiv 4 - yearOfEra.fdiv 100)
  let monthOfYear := (5 * dayOfYear + 2).fdiv 153
  let day := dayOfYear - (153 * monthOfYear + 2).fdiv 5 + 1
  let month := if monthOfYear < 10 then monthOfYear + 3 else monthOfYear - 9
  (yearOfEra + era * 400 + (if month ≤ 2 then 1 else 0), month.toNat, day.toNat)

/-- The seconds since the beginning of 1970. -/
def seconds (d : Date) : Int :=
  days d.year d.month d.day * daySeconds + (d.hour * 3600 + d.minute * 60 + d.second : Nat)

/-- The date so many seconds after the beginning of 1970. -/
def ofSeconds (s : Int) : Date :=
  let n := s.fdiv daySeconds
  let rest := (s - n * daySeconds).toNat
  let (year, month, day) := ofDays n
  { year, month, day, hour := rest / 3600, minute := rest / 60 % 60, second := rest % 60 }

/-- The year has a leap day. -/
def isLeap (year : Int) : Bool := year % 4 == 0 && (year % 100 != 0 || year % 400 == 0)

/-- The days of a month. -/
def monthDays (year : Int) (month : Nat) : Nat :=
  if month = 2 then (if isLeap year then 29 else 28)
  else if [4, 6, 9, 11].contains month then 30
  else 31

/-- There is such a date. -/
def isValid (d : Date) : Bool :=
  1 ≤ d.month && d.month ≤ 12 && 1 ≤ d.day && d.day ≤ monthDays d.year d.month && d.hour < 24 && d.minute < 60 &&
    d.second ≤ 60

/-- The short names of the months. -/
def monthNames : List String :=
  ["Jan", "Feb", "Mar", "Apr", "May", "Jun", "Jul", "Aug", "Sep", "Oct", "Nov", "Dec"]

/-- The short name of the month. -/
def monthName (d : Date) : String := monthNames.getD (d.month - 1) ""

/-- A number in two digits. -/
def two (n : Nat) : String := if n < 10 then s!"0{n}" else s!"{n}"

/-- A number behind a blank, if it has one digit. -/
def spaced (n : Nat) : String := if n < 10 then s!" {n}" else s!"{n}"

end Date
end LineShell.Machine
