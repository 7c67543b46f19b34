/-!
# Dates

Dates of the Gregorian calendar, carried back and forward to the years 1 to 9999.  A date is also a
number of days: `Date.ordinal` counts from the first day of the year 1, which is day one, and
`Date.ofOrdinal?` goes back.  Weekdays and the weeks of a year hang on that count.

A year of weeks begins on the Monday of the week that holds 4 January.
-/

namespace SiteTemplates

def isLeapYear (year : Nat) : Bool := year % 4 == 0 && (year % 100 != 0 || year % 400 == 0)

def monthLengths (year : Nat) : List Nat :=
  [31, if isLeapYear year then 29 else 28, 31, 30, 31, 30, 31, 31, 30, 31, 30, 31]

def daysInMonth (year month : Nat) : Nat := (monthLengths year).getD (month - 1) 0

def daysBeforeMonth (year month : Nat) : Nat :=
  ((monthLengths year).take (month - 1)).foldl (fun n length => n + length) 0

def daysBeforeYear (year : Nat) : Nat :=
  (year - 1) * 365 + (year - 1) / 4 - (year - 1) / 100 + (year - 1) / 400

def IsDate (year month day : Nat) : Prop :=
  1 ≤ year ∧ year ≤ 9999 ∧ 1 ≤ month ∧ month ≤ 12 ∧ 1 ≤ day ∧ day ≤ daysInMonth year month

instance (year month day : Nat) : Decidable (IsDate year month day) :=
  inferInstanceAs (Decidable (_ ∧ _))

structure Date where
  year : Nat
  month : Nat
  day : Nat
  isDate : IsDate year month day
deriving DecidableEq

namespace Date

def ofFields? (year month day : Nat) : Option Date :=
  if h : IsDate year month day then some ⟨year, month, day, h⟩ else none

def dayOfYear (d : Date) : Nat := daysBeforeMonth d.year d.month + d.day

def ordinal (d : Date) : Nat := daysBeforeYear d.year + d.dayOfYear

/-- The month and the day of the month, when `n` days go by before it from the start of `month`. -/
def monthAndDay (month n : Nat) : List Nat → Nat × Nat
  | [] => (month, n + 1)
  | length :: rest =>
    if n < length then (month, n + 1) else monthAndDay (month + 1) (n - length) rest

/-- The year of a day and the days of that year before it, when `n` days go by before it from the
start of the year 1.  The count goes through periods of 400, 100, 4 and 1 years; the last day of a
period of 400 or of 4 years would be one year too many. -/
def yearAndRest (n : Nat) : Nat × Nat :=
  let r400 := n % 146097
  let r100 := r400 % 36524
  let r4 := r100 % 1461
  let years := n / 146097 * 400 + r400 / 36524 * 100 + r100 / 1461 * 4 + r4 / 365
  if r400 / 36524 = 4 ∨ r4 / 365 = 4 then (years, 365) else (years + 1, r4 % 365)

/-- The date with a given number, if it lies in the calendar. -/
def ofOrdinal? (n : Int) : Option Date :=
  if n < 1 then none
  else
    let (year, rest) := yearAndRest (n.toNat - 1)
    let (month, day) := monthAndDay 1 rest (monthLengths year)
    ofFields? year month day

def weekday (d : Date) : Nat := d.ordinal % 7

/-- The number of the Monday with which a year of weeks begins. -/
def firstMonday (year : Nat) : Int :=
  let newYear : Int := daysBeforeYear year + 1
  -- the days from the last Monday to the first of January
  let back := (newYear + 6) % 7
  if back ≤ 3 then newYear - back else newYear - back + 7

def weeksIn (year : Nat) : Nat := ((firstMonday (year + 1) - firstMonday year) / 7).toNat

/-- The date of a day, from 1 for Monday, in a week of a year of weeks. -/
def ofWeek? (year week day : Nat) : Option Date :=
  if 1 ≤ year ∧ year ≤ 9999 ∧ 1 ≤ week ∧ week ≤ weeksIn year ∧ 1 ≤ day ∧ day ≤ 7 then
    ofOrdinal? (firstMonday year + ((week - 1) * 7 + (day - 1) : Nat))
  else none

def weekYear (d : Date) : Nat :=
  let n : Int := d.ordinal
  if n < firstMonday d.year then d.year - 1
  else if firstMonday (d.year + 1) ≤ n then d.year + 1
  else d.year

def week (d : Date) : Nat := ((d.ordinal - firstMonday d.weekYear) / 7).toNat + 1

end Date

end SiteTemplates
