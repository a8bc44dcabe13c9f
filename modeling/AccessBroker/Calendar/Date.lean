/-
Dates of the Gregorian calendar, carried back before its adoption.

Days are numbered from 1 January of the year 1, which is day 1 and a Monday.
The number of a date gives its weekday, its place in a week of the year, and
the date some days later; `ofNumber?` finds the date of a number. Dates run
from the year -262143 to the year 262142.
-/
import AccessBroker.Text.Number

namespace AccessBroker

namespace Calendar

/-- The first year of which there are dates. -/
def firstYear : Int := -262143

/-- The last year of which there are dates. -/
def lastYear : Int := 262142

/-- Whether a year has a 29 February. -/
def isLeap (y : Int) : Bool := y % 4 = 0 && (y % 100 ≠ 0 || y % 400 = 0)

/-- How many days a month has. -/
def daysInMonth (y : Int) (m : Nat) : Nat :=
  if m = 2 then (if isLeap y then 29 else 28)
  else if m = 4 ∨ m = 6 ∨ m = 9 ∨ m = 11 then 30
  else 31

/-- How many days a year has. -/
def daysInYear (y : Int) : Nat := if isLeap y then 366 else 365

/-- The number of the last day before a year. -/
def daysBeforeYear (y : Int) : Int :=
  365 * (y - 1) + (y - 1) / 4 - (y - 1) / 100 + (y - 1) / 400

/-- How many days of a year come before month `m + 1`. -/
def daysBeforeMonth (y : Int) : Nat → Nat
  | 0 => 0
  | m + 1 => daysBeforeMonth y m + daysInMonth y (m + 1)

/-- The year that the day with a number lies in. -/
def yearOf (n : Int) : Int :=
  let y := n * 400 / 146097
  if daysBeforeYear (y + 2) < n then y + 2
  else if daysBeforeYear (y + 1) < n then y + 1
  else y

/-- The weekday of the day with a number, counted from Monday. -/
def weekdayOf (n : Int) : Nat := ((n - 1) % 7).toNat

/-- The place in its year of the day with a number, counted from 1. -/
def ordinalOf (n : Int) : Int := n - daysBeforeYear (yearOf n)

/-- The number of the Thursday in the same week; its year is the year of the week. -/
def thursdayOf (n : Int) : Int := n - weekdayOf n + 3

/-- The number of the Monday with which the weeks of a year begin. -/
def firstMonday (y : Int) : Int :=
  let fourth := daysBeforeYear y + 4
  fourth - weekdayOf fourth

/-- How many weeks a year has. -/
def weeksInYear (y : Int) : Int := (firstMonday (y + 1) - firstMonday y) / 7

/-- How many days after weekday `b` weekday `a` comes. -/
def daysSince (a b : Nat) : Nat := (a + 7 - b) % 7

end Calendar

open Calendar in
/-- A day by year, month and day of the month. -/
structure Date where
  year : Int
  month : Nat
  day : Nat
  year_mem : firstYear ≤ year ∧ year ≤ lastYear
  month_mem : 1 ≤ month ∧ month ≤ 12
  day_mem : 1 ≤ day ∧ day ≤ daysInMonth year month
  deriving DecidableEq

namespace Date

open Calendar

/-- The date with the given parts, if there is one. -/
def ofParts? (y : Int) (m d : Nat) : Option Date :=
  if hy : firstYear ≤ y ∧ y ≤ lastYear then
    if hm : 1 ≤ m ∧ m ≤ 12 then
      if hd : 1 ≤ d ∧ d ≤ daysInMonth y m then some ⟨y, m, d, hy, hm, hd⟩ else none
    else none
  else none

/-- The place of a date in its year, counted from 1. -/
def ordinal (d : Date) : Nat := daysBeforeMonth d.year (d.month - 1) + d.day

/-- The number of a date. -/
def number (d : Date) : Int := daysBeforeYear d.year + d.ordinal

/-- The month and day at a place in a year, from month `m` on. -/
def partsFrom (y : Int) : Nat → Nat → Nat → Nat × Nat
  | 0, m, n => (m, n)
  | months + 1, m, n =>
    if n ≤ daysInMonth y m then (m, n) else partsFrom y months (m + 1) (n - daysInMonth y m)

/-- The date at a place in a year, counted from 1, if there is one. -/
def ofOrdinal? (y : Int) (n : Nat) : Option Date :=
  if 1 ≤ n ∧ n ≤ daysInYear y then
    let (m, d) := partsFrom y 11 1 n
    ofParts? y m d
  else none

/-- The date with a number, if there is one. -/
def ofNumber? (n : Int) : Option Date := ofOrdinal? (yearOf n) (ordinalOf n).toNat

/-- The date some days later, if there is one. -/
def plusDays? (d : Date) (n : Nat) : Option Date := ofNumber? (d.number + n)

/-- The weekday, counted from Monday. -/
def weekday (d : Date) : Nat := weekdayOf d.number

/-- The year that the week of a date belongs to. -/
def weekYear (d : Date) : Int := yearOf (thursdayOf d.number)

/-- The week of a date in the year that the week belongs to, counted from 1. -/
def week (d : Date) : Nat := ((ordinalOf (thursdayOf d.number) - 1) / 7 + 1).toNat

/-- The date of a weekday in a week of a year, if there is one. -/
def ofWeek? (y : Int) (week weekday : Nat) : Option Date :=
  if 1 ≤ week ∧ (week : Int) ≤ weeksInYear y then
    ofNumber? (firstMonday y + 7 * ((week : Int) - 1) + weekday)
  else none

/-- How many of the weeks that begin on a weekday have begun in the year up to a date. -/
def weeksFrom (d : Date) (start : Nat) : Nat := (d.ordinal + 6 - daysSince d.weekday start) / 7

/-- The date of a weekday in a week of a year, for weeks that begin on `start`, the first full one
being week 1 and the days before it week 0. -/
def ofWeekFrom? (y : Int) (week weekday start : Nat) : Option Date :=
  let first := 1 + daysSince start (weekdayOf (daysBeforeYear y + 1))
  let n := first + 7 * week + daysSince weekday start
  if 7 < n then ofOrdinal? y (n - 7) else none

/-- The quarter of the year, counted from 1. -/
def quarter (d : Date) : Nat := (d.month - 1) / 3 + 1

instance : LE Date := ⟨fun a b => a.number ≤ b.number⟩

instance (a b : Date) : Decidable (a ≤ b) := inferInstanceAs (Decidable (a.number ≤ b.number))

/-- Reads a year with or without a sign, a month and a day with hyphens between them. -/
def ofText? (s : String) : Option Date :=
  let (negative, cs) :=
    match s.toList with
    | '-' :: cs => (true, cs)
    | '+' :: cs => (false, cs)
    | cs => (false, cs)
  match Text.splitAll '-' cs with
  | [y, m, d] => do
    let y ← (Text.readNat 999999 y).toOption
    let m ← (Text.readNat 12 m).toOption
    let d ← (Text.readNat 31 d).toOption
    ofParts? (if negative then -(y : Int) else y) m d
  | _ => none

end Date

end AccessBroker
