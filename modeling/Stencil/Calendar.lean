/-! Days of the Gregorian calendar, counted from the first of January 1970. -/
namespace Stencil

namespace Calendar

/-- Years that start in March leave the leap day to their end. -/
def dayOf (year : Int) (month day : Nat) : Int :=
  let y := if month ≤ 2 then year - 1 else year
  let m := (month + 9) % 12
  let inYear := (153 * m + 2) / 5 + day - 1
  365 * y + y / 4 - y / 100 + y / 400 + inYear - 719468

/-- Year, month and day of the month. -/
def dateOf (day : Int) : Int × Nat × Nat :=
  let z := day + 719468
  let era := z / 146097
  let inEra := (z % 146097).toNat
  let yearOfEra := (inEra - inEra / 1460 + inEra / 36524 - inEra / 146096) / 365
  let inYear := inEra - (365 * yearOfEra + yearOfEra / 4 - yearOfEra / 100)
  let m := (5 * inYear + 2) / 153
  let month := if m < 10 then m + 3 else m - 9
  (yearOfEra + era * 400 + (if month ≤ 2 then 1 else 0), month, inYear - (153 * m + 2) / 5 + 1)

def isLeap (year : Int) : Bool := year % 4 = 0 && (year % 100 != 0 || year % 400 = 0)

def monthLength (year : Int) (month : Nat) : Nat :=
  if month = 2 then (if isLeap year then 29 else 28)
  else if month = 4 ∨ month = 6 ∨ month = 9 ∨ month = 11 then 30
  else 31

/-- The day of a date that exists. -/
def day? (year : Int) (month day : Nat) : Option Int :=
  if 1 ≤ month ∧ month ≤ 12 ∧ 1 ≤ day ∧ day ≤ monthLength year month then
    some (dayOf year month day)
  else none

/-- Days since the last Sunday. -/
def weekday (day : Int) : Nat := ((day + 4) % 7).toNat

def yearDay (day : Int) : Nat := (day - dayOf (dateOf day).1 1 1).toNat

/-- The year that owns the Thursday of a day's week, and the week's number in it. -/
def isoWeek (day : Int) : Int × Nat :=
  let thursday := day - ((day + 3) % 7) + 3
  ((dateOf thursday).1, yearDay thursday / 7 + 1)

def weekdays : List String :=
  ["Sunday", "Monday", "Tuesday", "Wednesday", "Thursday", "Friday", "Saturday"]

def months : List String :=
  ["January", "February", "March", "April", "May", "June", "July", "August", "September",
    "October", "November", "December"]

end Calendar

end Stencil
