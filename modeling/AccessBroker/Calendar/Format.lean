/-
Formats of dates and times.

A format is a text in which a percent sign and a letter stand for a part of a
date or time, a run of blanks for any run of blanks, and all else for itself.
Some letters stand for several parts in a row. A format with a mistake in it
still has items up to the mistake, and `Item.mistake` there.
-/
import AccessBroker.Text.Blank
import AccessBroker.Text.Number

namespace AccessBroker.Calendar

/-- A part of a date or time that is a number. -/
inductive NumberPart where
  | year
  | century
  | yearOfCentury
  | weekYear
  | weekYearOfCentury
  | quarter
  | month
  | day
  | weekFromSunday
  | weekFromMonday
  | week
  | weekdayFromSunday
  | weekdayFromMonday
  | ordinal
  | hour
  | hourOfHalf
  | minute
  | second
  | nanosecond
  | timestamp
  deriving DecidableEq

/-- One thing that a text is to hold. -/
inductive Item where
  /-- These very characters. -/
  | literal (cs : List Char)
  /-- Any run of blanks, or none. -/
  | blanks
  /-- A number, after any blanks. -/
  | number (part : NumberPart)
  /-- The first three letters of a month's name; with `full`, the rest of it as well. -/
  | monthName (full : Bool)
  /-- The first three letters of a weekday's name; with `full`, the rest of it as well. -/
  | weekdayName (full : Bool)
  /-- Which half of the day. -/
  | half
  /-- A point and a fraction of a second of any length, or nothing. -/
  | fraction
  /-- A point and a fraction of a second of so many digits, or nothing. -/
  | pointFraction (digits : Nat)
  /-- A fraction of a second of so many digits without a point. -/
  | bareFraction (digits : Nat)
  /-- The name of a time zone. -/
  | zoneName
  /-- The offset of a time zone in hours and minutes; a `lenient` one may be a letter, or hours alone. -/
  | offset (lenient : Bool)
  /-- A whole date and time with its offset, in the form used on networks. -/
  | stamp
  /-- Something that no text holds. -/
  | mistake
  deriving DecidableEq

namespace Item

/-- Numbers with fixed characters between them. -/
def joined (sep : Char) (parts : List NumberPart) : List Item :=
  (parts.map number).intersperse (literal [sep])

/-- Month, day and year of the century with slashes. -/
def slashedDate : List Item := joined '/' [.month, .day, .yearOfCentury]

/-- Year, month and day with hyphens. -/
def hyphenedDate : List Item := joined '-' [.year, .month, .day]

/-- Hour, minute and second with colons. -/
def clock : List Item := joined ':' [.hour, .minute, .second]

/-- What a letter stands for. -/
def ofLetter : Char → List Item
  | 'A' => [weekdayName true]
  | 'B' => [monthName true]
  | 'C' => [number .century]
  | 'D' => slashedDate
  | 'F' => hyphenedDate
  | 'G' => [number .weekYear]
  | 'H' => [number .hour]
  | 'I' => [number .hourOfHalf]
  | 'M' => [number .minute]
  | 'P' => [half]
  | 'R' => joined ':' [.hour, .minute]
  | 'S' => [number .second]
  | 'T' => clock
  | 'U' => [number .weekFromSunday]
  | 'V' => [number .week]
  | 'W' => [number .weekFromMonday]
  | 'X' => clock
  | 'Y' => [number .year]
  | 'Z' => [zoneName]
  | 'a' => [weekdayName false]
  | 'b' => [monthName false]
  | 'c' =>
    [weekdayName false, blanks, monthName false, blanks, number .day, blanks] ++ clock ++
      [blanks, number .year]
  | 'd' => [number .day]
  | 'e' => [number .day]
  | 'f' => [number .nanosecond]
  | 'g' => [number .weekYearOfCentury]
  | 'h' => [monthName false]
  | 'j' => [number .ordinal]
  | 'k' => [number .hour]
  | 'l' => [number .hourOfHalf]
  | 'm' => [number .month]
  | 'n' => [blanks]
  | 'p' => [half]
  | 'q' => [number .quarter]
  | 'r' => joined ':' [.hourOfHalf, .minute, .second] ++ [blanks, half]
  | 's' => [number .timestamp]
  | 't' => [blanks]
  | 'u' => [number .weekdayFromMonday]
  | 'v' => [number .day, literal ['-'], monthName false, literal ['-'], number .year]
  | 'w' => [number .weekdayFromSunday]
  | 'x' => slashedDate
  | 'y' => [number .yearOfCentury]
  | 'z' => [offset false]
  | '+' => [stamp]
  | '%' => [literal ['%']]
  | _ => [mistake]

/-- What a letter stands for after a mark that asks for padding; only a single number takes one. -/
def ofPadded (c : Char) : List Item :=
  match ofLetter c with
  | [number part] => [number part]
  | _ => [mistake]

/-- What stands after a percent sign, and the characters after that. -/
def ofSign : List Char → List Item × List Char
  | '-' :: c :: rest => (ofPadded c, rest)
  | '0' :: c :: rest => (ofPadded c, rest)
  | '_' :: c :: rest => (ofPadded c, rest)
  | '#' :: 'z' :: rest => ([offset true], rest)
  | ':' :: ':' :: ':' :: 'z' :: rest => ([offset false], rest)
  | ':' :: ':' :: 'z' :: rest => ([offset false], rest)
  | ':' :: 'z' :: rest => ([offset false], rest)
  | '.' :: 'f' :: rest => ([fraction], rest)
  | '.' :: '3' :: 'f' :: rest => ([pointFraction 3], rest)
  | '.' :: '6' :: 'f' :: rest => ([pointFraction 6], rest)
  | '.' :: '9' :: 'f' :: rest => ([pointFraction 9], rest)
  | '3' :: 'f' :: rest => ([bareFraction 3], rest)
  | '6' :: 'f' :: rest => ([bareFraction 6], rest)
  | '9' :: 'f' :: rest => ([bareFraction 9], rest)
  | c :: rest => (ofLetter c, rest)
  | [] => ([mistake], [])

/-- Whether a character of a format stands for itself. -/
def isLiteral (c : Char) : Bool := c ≠ '%' && !Text.isBlank c

/-- The items of a format, read in at most `steps` steps. -/
def ofChars : Nat → List Char → List Item
  | _, [] => []
  | 0, _ :: _ => []
  | steps + 1, c :: rest =>
    if c = '%' then
      let (items, after) := ofSign rest
      items ++ ofChars steps after
    else if Text.isBlank c then blanks :: ofChars steps (rest.dropWhile Text.isBlank)
    else literal (c :: rest.takeWhile isLiteral) :: ofChars steps (rest.dropWhile isLiteral)

/-- The items of a format; no more are read than it has characters. -/
def ofText (format : String) : List Item := ofChars format.length format.toList

end Item

end AccessBroker.Calendar
