/-
Reading a date in a text by a format.

The items of the format are matched one after the other against the front of
the text, and each sets the fields it speaks of; nothing of the text may be left
over. A format that speaks of a time as well is tried first, then the date alone.
-/
import AccessBroker.Calendar.Fields
import AccessBroker.Calendar.Format

namespace AccessBroker

namespace Calendar

/-- What is left of a text, and what has been said so far. -/
abbrev Reading := List Char × Fields

/-- The result of a setter as a reading with the text `rest` left. -/
def said (rest : List Char) : Except FieldFault Fields → Option Reading
  | .ok f => some (rest, f)
  | .error _ => none

/-! ## Numbers -/

/-- The digits at the front, at most `width` of them, and what follows. -/
def takeDigits : Nat → List Char → List Nat × List Char
  | 0, cs => ([], cs)
  | _, [] => ([], [])
  | width + 1, c :: cs =>
    match Text.digit? c with
    | some d => let (ds, rest) := takeDigits width cs; (d :: ds, rest)
    | none => ([], c :: cs)

/-- The value of some digits. -/
def valueOf (ds : List Nat) : Nat := ds.foldl (fun v d => 10 * v + d) 0

/-- The largest whole number of 63 bits. -/
def maxCount : Nat := 9223372036854775807

/-- A number of one to `width` digits. -/
def number? (width : Nat) (cs : List Char) : Option (Nat × List Char) :=
  match takeDigits width cs with
  | ([], _) => none
  | (ds, rest) => if valueOf ds ≤ maxCount then some (valueOf ds, rest) else none

/-- A number of four digits, or of any length after a sign. -/
def signedNumber? : List Char → Option (Int × List Char)
  | '-' :: cs => (number? cs.length cs).map fun (n, rest) => (-(n : Int), rest)
  | '+' :: cs => (number? cs.length cs).map fun (n, rest) => ((n : Int), rest)
  | cs => (number? 4 cs).map fun (n, rest) => ((n : Int), rest)

/-- How many digits a part may have; a year may have a sign instead. -/
def NumberPart.width : NumberPart → Option Nat
  | year | weekYear => none
  | quarter | weekdayFromSunday | weekdayFromMonday => some 1
  | ordinal => some 3
  | nanosecond => some 9
  | timestamp => some maxCount
  | _ => some 2

/-- Sets the field of a part. -/
def NumberPart.set (f : Fields) (v : Int) : NumberPart → Except FieldFault Fields
  | year => f.setYear v
  | century => f.setCentury v
  | yearOfCentury => f.setYearOfCentury v
  | weekYear => f.setWeekYear v
  | weekYearOfCentury => f.setWeekYearOfCentury v
  | quarter => (Fields.agree 1 4 f.quarter v).map fun x => { f with quarter := x }
  | month => f.setMonth v
  | day => (Fields.agree 1 31 f.day v).map fun x => { f with day := x }
  | weekFromSunday =>
    (Fields.agree 0 53 f.weekFromSunday v).map fun x => { f with weekFromSunday := x }
  | weekFromMonday =>
    (Fields.agree 0 53 f.weekFromMonday v).map fun x => { f with weekFromMonday := x }
  | week => (Fields.agree 1 53 f.week v).map fun x => { f with week := x }
  | weekdayFromSunday => if v < 0 ∨ 6 < v then .error .outOfRange else f.setWeekday ((v + 6) % 7)
  | weekdayFromMonday => f.setWeekday (v - 1)
  | ordinal => f.setOrdinal v
  | hour => f.setHour v
  | hourOfHalf => f.setHourOfHalf v
  | minute => f.setMinute v
  | second => f.setSecond v
  | nanosecond => f.setNanosecond v
  | timestamp => (Fields.agree (-maxCount - 1) maxCount f.timestamp v).map fun x =>
      { f with timestamp := x }

/-- Reads a number after any blanks and sets its field. -/
def readNumber (part : NumberPart) (cs : List Char) (f : Fields) : Option Reading :=
  let cs := Text.trimStart cs
  match part.width with
  | none => (signedNumber? cs).bind fun (v, rest) => said rest (part.set f v)
  | some width => (number? (min width cs.length) cs).bind fun (v, rest) => said rest (part.set f v)

/-! ## Names -/

/-- The names of the months. -/
def monthNames : List String :=
  ["january", "february", "march", "april", "may", "june", "july", "august", "september",
    "october", "november", "december"]

/-- The names of the weekdays, from Monday. -/
def weekdayNames : List String :=
  ["monday", "tuesday", "wednesday", "thursday", "friday", "saturday", "sunday"]

/-- The text after a word, in whichever case its letters are. -/
def afterWord? (word cs : List Char) : Option (List Char) :=
  match word, cs with
  | [], cs => some cs
  | _ :: _, [] => none
  | w :: ws, c :: cs => if Text.asciiLower c = w then afterWord? ws cs else none

/-- The place among the names of the one whose first three letters stand at the front, and what
follows; with `full`, what follows the rest of the name, if that stands there. -/
def nameAt? (full : Bool) (cs : List Char) : Nat → List String → Option (Nat × List Char)
  | _, [] => none
  | i, name :: names =>
    match afterWord? (name.toList.take 3) cs with
    | some rest =>
      some (i, if full then (afterWord? (name.toList.drop 3) rest).getD rest else rest)
    | none => nameAt? full cs (i + 1) names

/-! ## Fractions of a second -/

/-- A fraction of up to nine digits, in nanoseconds; later digits are passed over. -/
def fraction? (cs : List Char) : Option (Nat × List Char) :=
  match takeDigits 9 cs with
  | ([], _) => none
  | (ds, rest) =>
    some (valueOf ds * Nat.pow 10 (9 - ds.length), rest.dropWhile fun c => (Text.digit? c).isSome)

/-- A fraction of exactly so many digits, in nanoseconds. -/
def exactFraction? (digits : Nat) (cs : List Char) : Option (Nat × List Char) :=
  let (ds, rest) := takeDigits digits cs
  if ds.length = digits then some (valueOf ds * Nat.pow 10 (9 - digits), rest) else none

/-- Reads a fraction and sets its field. -/
def readFraction (read : Option (Nat × List Char)) (f : Fields) : Option Reading :=
  read.bind fun (v, rest) => said rest (f.setNanosecond v)

/-- Reads a point and a fraction, or nothing. -/
def readPointed (read : List Char → Option (Nat × List Char)) (cs : List Char) (f : Fields) :
    Option Reading :=
  match cs with
  | '.' :: rest => readFraction (read rest) f
  | _ => some (cs, f)

/-! ## Time zones -/

/-- The sign of an offset: whether it is a minus sign, and what follows. -/
def offsetSign? : List Char → Option (Bool × List Char)
  | '+' :: rest => some (false, rest)
  | '-' :: rest => some (true, rest)
  | '\u2212' :: rest => some (true, rest)
  | _ => none

/-- Two digits. -/
def twoDigits? : List Char → Option (Nat × List Char)
  | a :: b :: rest => do some (10 * (← Text.digit? a) + (← Text.digit? b), rest)
  | _ => none

/-- Hours, anything of colons and blanks, and minutes; `hoursAlone` if the text may end before them. -/
def offset? (hoursAlone : Bool) (cs : List Char) : Option (Int × List Char) := do
  let (negative, cs) ← offsetSign? cs
  let (hours, cs) ← twoDigits? cs
  let cs := cs.dropWhile fun c => c = ':' || Text.isBlank c
  let (minutes, cs) ← if hoursAlone ∧ cs.isEmpty then some (0, cs) else twoDigits? cs
  if 59 < minutes then none
  else
    let seconds : Int := hours * 3600 + minutes * 60
    some (if negative then -seconds else seconds, cs)

/-- An offset, or the letter for none. -/
def letterOrOffset? (hoursAlone : Bool) : List Char → Option (Int × List Char)
  | 'Z' :: rest => some (0, rest)
  | 'z' :: rest => some (0, rest)
  | cs => offset? hoursAlone cs

/-- Reads an offset and sets its field. -/
def readOffset (read : Option (Int × List Char)) (f : Fields) : Option Reading :=
  read.bind fun (v, rest) => said rest (f.setOffset v)

/-! ## Items -/

/-- The items of a date at the front of a whole moment. -/
def stampDate : List Item :=
  [.number .year, .blanks, .literal ['-'], .number .month, .blanks, .literal ['-'], .number .day]

/-- The items of the time after it. -/
def stampTime : List Item :=
  [.number .hour, .blanks, .literal [':'], .number .minute, .blanks, .literal [':'],
    .number .second, .fraction, .blanks]

/-- Reads an item that is not a whole moment. -/
def Item.readPart (cs : List Char) (f : Fields) : Item → Option Reading
  | literal expected => (Text.after? expected cs).map fun rest => (rest, f)
  | blanks => some (Text.trimStart cs, f)
  | number part => readNumber part cs f
  | monthName full =>
    (nameAt? full cs 1 monthNames).bind fun (i, rest) => said rest (f.setMonth i)
  | weekdayName full =>
    (nameAt? full cs 0 weekdayNames).bind fun (i, rest) => said rest (f.setWeekday i)
  | half =>
    match cs with
    | a :: m :: rest =>
      if Text.asciiLower m ≠ 'm' then none
      else if Text.asciiLower a = 'a' then said rest (f.setHalf 0)
      else if Text.asciiLower a = 'p' then said rest (f.setHalf 1)
      else none
    | _ => none
  | fraction => readPointed fraction? cs f
  | pointFraction digits => readPointed (exactFraction? digits) cs f
  | bareFraction digits => readFraction (exactFraction? digits cs) f
  | zoneName => some (cs.dropWhile fun c => !Text.isBlank c, f)
  | offset false => readOffset (offset? false cs) f
  | offset true => readOffset (letterOrOffset? true cs) f
  | stamp => none
  | mistake => none

/-- Reads items one after the other. -/
def readParts : List Item → List Char → Fields → Option Reading
  | [], cs, f => some (cs, f)
  | item :: items, cs, f => (item.readPart cs f).bind fun (cs, f) => readParts items cs f

/-- Reads a whole moment: a date, a letter or space, a time, and an offset or a name for none. -/
def readStamp (cs : List Char) (f : Fields) : Option Reading := do
  let (cs, f) ← readParts stampDate cs f
  match cs with
  | c :: cs =>
    if c = 'T' ∨ c = 't' ∨ c = ' ' then
      let (cs, f) ← readParts stampTime cs f
      match afterWord? "utc".toList cs with
      | some rest => readOffset (some (0, rest)) f
      | none => readOffset (letterOrOffset? false cs) f
    else none
  | [] => none

/-- Reads an item. -/
def Item.read (cs : List Char) (f : Fields) : Item → Option Reading
  | stamp => readStamp cs f
  | item => item.readPart cs f

/-- Reads items one after the other. -/
def readItems : List Item → List Char → Fields → Option Reading
  | [], cs, f => some (cs, f)
  | item :: items, cs, f => (item.read cs f).bind fun (cs, f) => readItems items cs f

/-- What a whole text says under a format. -/
def fieldsOf? (format text : String) : Option Fields :=
  match readItems (Item.ofText format) text.toList .empty with
  | some ([], f) => some f
  | _ => none

end Calendar

/-- Reads a date in a text, as part of a moment or alone. -/
def Date.read? (format text : String) : Option Date :=
  match Calendar.fieldsOf? format text with
  | none => none
  | some f =>
    match f.moment with
    | .ok d => some d
    | .error _ => f.date.toOption

end AccessBroker
