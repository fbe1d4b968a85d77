/-!
The proleptic Gregorian calendar: dates, and the number of days from 1970-01-01 to a date.
-/

namespace Countersign.Time

def isLeapYear (year : Int) : Bool :=
  year % 4 == 0 && (year % 100 != 0 || year % 400 == 0)

def daysInMonth (year : Int) (month : Nat) : Nat :=
  if month = 2 then if isLeapYear year then 29 else 28
  else if month = 4 ∨ month = 6 ∨ month = 9 ∨ month = 11 then 30
  else 31

/-- Days from the start of year 0 to the start of a year. -/
def daysBeforeYear (year : Int) : Int :=
  365 * year + (year + 3) / 4 - (year + 99) / 100 + (year + 399) / 400

/-- Days from the start of a year to the start of one of its months. -/
def daysBeforeMonth (year : Int) (month : Nat) : Nat :=
  (List.range (month - 1)).foldl (fun days m => days + daysInMonth year (m + 1)) 0

structure Date where
  year : Int
  month : Nat
  day : Nat
deriving DecidableEq

namespace Date

/-- Whether there is such a day. -/
def Exists (d : Date) : Prop :=
  1 ≤ d.month ∧ d.month ≤ 12 ∧ 1 ≤ d.day ∧ d.day ≤ daysInMonth d.year d.month

instance (d : Date) : Decidable d.Exists :=
  inferInstanceAs (Decidable (1 ≤ d.month ∧ d.month ≤ 12 ∧ 1 ≤ d.day ∧
    d.day ≤ daysInMonth d.year d.month))

/-- Days from the start of year 0 to 1970-01-01. -/
def epoch : Int := 719528

/-- Days from 1970-01-01 to a date. -/
def dayNumber (d : Date) : Int :=
  daysBeforeYear d.year + daysBeforeMonth d.year d.month + d.day - 1 - epoch

/-- The date so many days after 1970-01-01. A year has 146097/400 days on average, which finds the year
up to one. -/
def ofDayNumber (n : Int) : Date :=
  let days := n + epoch
  let near := days * 400 / 146097
  let year :=
    if days < daysBeforeYear near then near - 1
    else if daysBeforeYear (near + 1) ≤ days then near + 1
    else near
  let rest := (days - daysBeforeYear year).toNat
  let month := ((List.range 12).find? fun m => rest < daysBeforeMonth year (m + 2)).getD 11 + 1
  ⟨year, month, rest - daysBeforeMonth year month + 1⟩

end Date

end Countersign.Time
