/-
What a text says about a date and time, field by field.

Each field is set at most once, or again to the same value. A year may be said
in full or by century and year of the century; an hour is kept as the half of
the day and the hour of the half. `date` finds the one date that fits all that
is said, if enough is said, and `moment` that of a date with a time, for which a
count of seconds since 1970 may stand in.
-/
import AccessBroker.Calendar.Date

namespace AccessBroker.Calendar

/-- Why the fields give no date. -/
inductive FieldFault where
  /-- A field has a value that it cannot have. -/
  | outOfRange
  /-- Two fields contradict each other. -/
  | impossible
  /-- Too little is said. -/
  | notEnough
  deriving DecidableEq

/-- A year in full, by its century, and by its place in the century, as far as each is said. -/
structure YearFields where
  full : Option Int
  century : Option Int
  ofCentury : Option Int

/-- What is said about a date and time. -/
structure Fields where
  year : YearFields
  weekYear : YearFields
  quarter : Option Int
  month : Option Int
  day : Option Int
  weekFromSunday : Option Int
  weekFromMonday : Option Int
  week : Option Int
  weekday : Option Int
  ordinal : Option Int
  half : Option Int
  hourOfHalf : Option Int
  minute : Option Int
  second : Option Int
  nanosecond : Option Int
  timestamp : Option Int
  offset : Option Int

namespace YearFields

/-- Nothing is said. -/
def empty : YearFields := ⟨none, none, none⟩

/-- The year that is said, if any is. -/
def resolve (f : YearFields) : Except FieldFault (Option Int) :=
  match f.full, f.century, f.ofCentury with
  | y, none, none => .ok y
  | some y, q, r =>
    if y < 0 then .error .impossible
    else if q.getD (y / 100) = y / 100 ∧ r.getD (y % 100) = y % 100 then .ok (some y)
    else .error .impossible
  | none, some q, some r =>
    if q * 100 + r ≤ 2147483647 then .ok (some (q * 100 + r)) else .error .outOfRange
  | none, none, some r => .ok (some (if r < 70 then 2000 + r else 1900 + r))
  | none, some _, none => .error .notEnough

/-- Whether a year fits what is said; a year before the first has no century. -/
def fits (f : YearFields) (y : Int) : Bool :=
  f.full.getD y = y &&
    (if 0 ≤ y then f.century.getD (y / 100) = y / 100 && f.ofCentury.getD (y % 100) = y % 100
     else f.century.isNone && f.ofCentury.isNone)

end YearFields

namespace Fields

/-- Nothing is said. -/
def empty : Fields :=
  ⟨.empty, .empty, none, none, none, none, none, none, none, none, none, none, none, none, none,
    none, none⟩

/-! ## Setting -/

/-- A value within its bounds that does not contradict one said before. -/
def agree (low high : Int) (old : Option Int) (v : Int) : Except FieldFault (Option Int) :=
  if v < low ∨ high < v then .error .outOfRange
  else
    match old with
    | none => .ok (some v)
    | some w => if w = v then .ok (some v) else .error .impossible

/-- The greatest whole number of 31 bits. -/
def maxHalfWord : Int := 2147483647

/-- Sets the year. -/
def setYear (f : Fields) (v : Int) : Except FieldFault Fields :=
  (agree (-maxHalfWord - 1) maxHalfWord f.year.full v).map fun x =>
    { f with year := { f.year with full := x } }

/-- Sets the century. -/
def setCentury (f : Fields) (v : Int) : Except FieldFault Fields :=
  (agree 0 maxHalfWord f.year.century v).map fun x =>
    { f with year := { f.year with century := x } }

/-- Sets the year of the century. -/
def setYearOfCentury (f : Fields) (v : Int) : Except FieldFault Fields :=
  (agree 0 99 f.year.ofCentury v).map fun x =>
    { f with year := { f.year with ofCentury := x } }

/-- Sets the year that the week belongs to. -/
def setWeekYear (f : Fields) (v : Int) : Except FieldFault Fields :=
  (agree (-maxHalfWord - 1) maxHalfWord f.weekYear.full v).map fun x =>
    { f with weekYear := { f.weekYear with full := x } }

/-- Sets the year of the century that the week belongs to. -/
def setWeekYearOfCentury (f : Fields) (v : Int) : Except FieldFault Fields :=
  (agree 0 99 f.weekYear.ofCentury v).map fun x =>
    { f with weekYear := { f.weekYear with ofCentury := x } }

/-- Sets the weekday, counted from Monday. -/
def setWeekday (f : Fields) (v : Int) : Except FieldFault Fields :=
  (agree 0 6 f.weekday v).map fun x => { f with weekday := x }

/-- Sets the month. -/
def setMonth (f : Fields) (v : Int) : Except FieldFault Fields :=
  (agree 1 12 f.month v).map fun x => { f with month := x }

/-- Sets the half of the day. -/
def setHalf (f : Fields) (v : Int) : Except FieldFault Fields :=
  (agree 0 1 f.half v).map fun x => { f with half := x }

/-- Sets the hour of the half; twelve is where a half begins. -/
def setHourOfHalf (f : Fields) (v : Int) : Except FieldFault Fields :=
  if v < 1 ∨ 12 < v then .error .outOfRange
  else (agree 0 11 f.hourOfHalf (v % 12)).map fun x => { f with hourOfHalf := x }

/-- Sets the hour. -/
def setHour (f : Fields) (v : Int) : Except FieldFault Fields :=
  if v < 0 ∨ 23 < v then .error .outOfRange
  else do
    let f ← f.setHalf (v / 12)
    let x ← agree 0 11 f.hourOfHalf (v % 12)
    .ok { f with hourOfHalf := x }

/-- Sets the minute. -/
def setMinute (f : Fields) (v : Int) : Except FieldFault Fields :=
  (agree 0 59 f.minute v).map fun x => { f with minute := x }

/-- Sets the second; there is a sixtieth when a leap second is put in. -/
def setSecond (f : Fields) (v : Int) : Except FieldFault Fields :=
  (agree 0 60 f.second v).map fun x => { f with second := x }

/-- Sets the nanosecond. -/
def setNanosecond (f : Fields) (v : Int) : Except FieldFault Fields :=
  (agree 0 999999999 f.nanosecond v).map fun x => { f with nanosecond := x }

/-- Sets the place in the year. -/
def setOrdinal (f : Fields) (v : Int) : Except FieldFault Fields :=
  (agree 1 366 f.ordinal v).map fun x => { f with ordinal := x }

/-- Sets the offset of the time zone, in seconds. -/
def setOffset (f : Fields) (v : Int) : Except FieldFault Fields :=
  (agree (-maxHalfWord - 1) maxHalfWord f.offset v).map fun x => { f with offset := x }

/-! ## The date that fits -/

/-- Whether year, month and day of a date fit. -/
def fitsParts (f : Fields) (d : Date) : Bool :=
  f.year.fits d.year && f.month.getD d.month = d.month && f.day.getD d.day = d.day

/-- Whether week and weekday of a date fit. -/
def fitsWeek (f : Fields) (d : Date) : Bool :=
  f.weekYear.fits d.weekYear && f.week.getD d.week = d.week && f.weekday.getD d.weekday = d.weekday

/-- Whether the place in the year and the weeks counted from either day fit. -/
def fitsOrdinal (f : Fields) (d : Date) : Bool :=
  f.ordinal.getD d.ordinal = d.ordinal &&
    f.weekFromSunday.getD (d.weeksFrom 6) = d.weeksFrom 6 &&
    f.weekFromMonday.getD (d.weeksFrom 0) = d.weeksFrom 0

/-- Whether a year is one of which there are dates. -/
def hasDates (y : Int) : Bool := firstYear ≤ y && y ≤ lastYear

/-- The date of a weekday in a week that begins on `start`. -/
def weekDate (y week weekday : Int) (start : Nat) : Except FieldFault Date :=
  if !hasDates y then .error .outOfRange
  else
    match Date.ofWeekFrom? y week.toNat weekday.toNat start with
    | some d => .ok d
    | none => .error .impossible

/-- A date, or a fault if there is none. -/
def found : Option Date → Except FieldFault Date
  | some d => .ok d
  | none => .error .outOfRange

/-- The date that the first sufficient group of fields gives, and whether the other fields fit. -/
def candidate (f : Fields) (year weekYear : Option Int) : Except FieldFault (Bool × Date) :=
  match year, weekYear, f.month, f.day, f.ordinal, f.weekFromSunday, f.weekFromMonday, f.week,
    f.weekday with
  | some y, _, some m, some d, _, _, _, _, _ =>
    (found (Date.ofParts? y m.toNat d.toNat)).map fun d => (f.fitsWeek d && f.fitsOrdinal d, d)
  | some y, _, _, _, some n, _, _, _, _ =>
    (found (Date.ofOrdinal? y n.toNat)).map fun d =>
      (f.fitsParts d && f.fitsWeek d && f.fitsOrdinal d, d)
  | some y, _, _, _, _, some w, _, _, some wd =>
    (weekDate y w wd 6).map fun d => (f.fitsParts d && f.fitsWeek d && f.fitsOrdinal d, d)
  | some y, _, _, _, _, _, some w, _, some wd =>
    (weekDate y w wd 0).map fun d => (f.fitsParts d && f.fitsWeek d && f.fitsOrdinal d, d)
  | _, some y, _, _, _, _, _, some w, some wd =>
    (found (Date.ofWeek? y w.toNat wd.toNat)).map fun d => (f.fitsParts d && f.fitsOrdinal d, d)
  | _, _, _, _, _, _, _, _, _ => .error .notEnough

/-- The date that fits all that is said. -/
def date (f : Fields) : Except FieldFault Date := do
  let year ← f.year.resolve
  let weekYear ← f.weekYear.resolve
  let (fits, d) ← f.candidate year weekYear
  if !fits then .error .impossible
  else if f.quarter.getD d.quarter = d.quarter then .ok d
  else .error .impossible

/-! ## The moment that fits -/

/-- Seconds since midnight, and whether the moment lies in a leap second. -/
def time (f : Fields) : Except FieldFault (Int × Bool) :=
  match f.half, f.hourOfHalf, f.minute with
  | some half, some hour, some minute =>
    if f.nanosecond.isSome ∧ f.second.isNone then .error .notEnough
    else
      let second := f.second.getD 0
      let leap := second = 60
      .ok (((half * 12 + hour) * 60 + minute) * 60 + (if leap then 59 else second), leap)
  | _, _, _ => .error .notEnough

/-- The number of 1 January 1970. -/
def epoch : Int := 719163

/-- Seconds since 1970 at a number of seconds after the midnight of a date. -/
def stampOf (d : Date) (seconds : Int) : Int := (d.number - epoch) * 86400 + seconds

/-- The fields with those set that follow from seconds since 1970, and a date for them. -/
def fromTimestamp (f : Fields) (stamp : Int) : Except FieldFault Date := do
  let stamp ←
    if f.second = some 60 then
      if stamp % 60 = 59 then .ok stamp
      else if stamp % 60 = 0 then .ok (stamp - 1)
      else .error .impossible
    else .ok stamp
  let d ← found (Date.ofNumber? (stamp / 86400 + epoch))
  let seconds := stamp % 86400
  let f ← if f.second = some 60 then .ok f else f.setSecond (seconds % 60)
  let f ← f.setYear d.year
  let f ← f.setOrdinal d.ordinal
  let f ← f.setHour (seconds / 3600)
  let f ← f.setMinute (seconds / 60 % 60)
  let d ← f.date
  let _ ← f.time
  .ok d

/-- The date of the moment that fits all that is said. -/
def moment (f : Fields) : Except FieldFault Date :=
  match f.date, f.time, f.timestamp with
  | .ok d, .ok _, none => .ok d
  | .ok d, .ok (seconds, leap), some stamp =>
    if stamp = stampOf d seconds ∨ (leap ∧ stamp = stampOf d seconds + 1) then .ok d
    else .error .impossible
  | .error .notEnough, .error .notEnough, some stamp => f.fromTimestamp stamp
  | .error .notEnough, .ok _, some stamp => f.fromTimestamp stamp
  | .ok _, .error .notEnough, some stamp => f.fromTimestamp stamp
  | .error e, _, _ => .error e
  | .ok _, .error e, _ => .error e

end Fields

end AccessBroker.Calendar
