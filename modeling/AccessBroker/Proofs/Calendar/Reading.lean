/-
Dates read where they are written.

A number of so many digits is read back, whatever follows (`number?_padded`), so
a text in the layout of `layoutFormat` sets its six numbers one after the other
(`fieldsOf?_text`). They are set if each is within its bounds, and only then
(`setMoment_eq_ok`, `mem_of_setMoment`), and what is set gives the date of year,
month and day if there is one, whatever the time of day (`moment_ofMoment`). So
such a text is read as the date that it tells, and as nothing if there is no such
date or no such time of day (`read?_layout`).
-/
import AccessBroker.Calendar.Reading
import AccessBroker.Proofs.Calendar.Date
import AccessBroker.Proofs.Text.Blank
import AccessBroker.Proofs.Text.Number

namespace AccessBroker

namespace Calendar

/-! ## Numbers -/

theorem takeDigits_append (rest : List Char) : ∀ {ds : List Nat}, (∀ d ∈ ds, d < 10) →
    takeDigits ds.length (ds.map Nat.digitChar ++ rest) = (ds, rest)
  | [], _ => by simp [takeDigits]
  | d :: ds, h => by
    have ih := takeDigits_append rest fun e he => h e (List.mem_cons_of_mem d he)
    rw [List.map_cons, List.cons_append, List.length_cons, takeDigits,
      Text.digit?_digitChar d (h d List.mem_cons_self)]
    simp only [ih]

/-- A padded number is read back, whatever follows. -/
theorem number?_padded {width n : Nat} (hpos : 0 < width) (h : n < Nat.pow 10 width)
    (hmax : n ≤ maxCount) (rest : List Char) :
    number? width (Text.padded width n ++ rest) = some (n, rest) := by
  obtain ⟨ds, rfl, hds, hvalue, hpadded⟩ := Text.exists_padded_eq hpos h
  have hvalueOf : valueOf ds = n := hvalue
  rw [number?, hpadded, takeDigits_append rest hds]
  cases ds with
  | nil => cases hpos
  | cons d ds => simp only [hvalueOf, if_pos hmax]

theorem trimStart_padded {width n : Nat} (hpos : 0 < width) (h : n < Nat.pow 10 width)
    (rest : List Char) :
    Text.trimStart (Text.padded width n ++ rest) = Text.padded width n ++ rest := by
  obtain ⟨ds, rfl, hds, -, hpadded⟩ := Text.exists_padded_eq hpos h
  rw [hpadded]
  cases ds with
  | nil => cases hpos
  | cons d ds =>
    have hd := hds d List.mem_cons_self
    exact Text.trimStart_of_head (Text.isBlank_digitChar d (Nat.lt_trans hd (by decide))) _

/-- A part of two digits. -/
theorem readNumber_two {part : NumberPart} (hpart : part.width = some 2) {n : Nat} (h : n ≤ 99)
    (rest : List Char) (f : Fields) :
    readNumber part (Text.padded 2 n ++ rest) f = said rest (part.set f n) := by
  have hlt : n < Nat.pow 10 2 := Nat.lt_succ_of_le h
  have hmax : n ≤ maxCount := Nat.le_trans h (by decide)
  have hlength : min 2 (Text.padded 2 n ++ rest).length = 2 := by
    rw [List.length_append, Text.length_padded (by decide) hlt]
    omega
  rw [readNumber, trimStart_padded (by decide) hlt, hpart]
  dsimp only
  rw [hlength, number?_padded (by decide) hlt hmax, Option.bind_some]

/-- A year of four digits. -/
theorem readNumber_year {n : Nat} (h : n ≤ 9999) (rest : List Char) (f : Fields) :
    readNumber .year (Text.padded 4 n ++ rest) f = said rest (f.setYear n) := by
  have hlt : n < Nat.pow 10 4 := Nat.lt_succ_of_le h
  have hmax : n ≤ maxCount := Nat.le_trans h (by decide)
  have hsigned : signedNumber? (Text.padded 4 n ++ rest) = some ((n : Int), rest) := by
    have hread := number?_padded (by decide) hlt hmax rest
    obtain ⟨ds, hlength, hds, -, hpadded⟩ := Text.exists_padded_eq (by decide) hlt
    rw [hpadded] at hread ⊢
    cases ds with
    | nil => cases hlength
    | cons d ds =>
      have hsign : ∀ d < 10, Nat.digitChar d ≠ '-' ∧ Nat.digitChar d ≠ '+' := by decide
      obtain ⟨hminus, hplus⟩ := hsign d (hds d List.mem_cons_self)
      rw [List.map_cons, List.cons_append] at hread ⊢
      rw [signedNumber?.eq_3 _ (by simp [hminus]) (by simp [hplus]), hread]
      rfl
  rw [readNumber, trimStart_padded (by decide) hlt]
  simp only [NumberPart.width]
  rw [hsigned, Option.bind_some]
  rfl

theorem toOption_bind {α β : Type} (x : Except FieldFault α) (f : α → Except FieldFault β) :
    (x >>= f).toOption = x.toOption.bind fun a => (f a).toOption := by
  cases x <;> rfl

/-! ## A moment, number by number -/

namespace Fields

/-- Sets a year, a month, a day, an hour, a minute and a second. -/
def setMoment (year month day hour minute second : Int) : Except FieldFault Fields := do
  let f ← NumberPart.year.set .empty year
  let f ← NumberPart.month.set f month
  let f ← NumberPart.day.set f day
  let f ← NumberPart.hour.set f hour
  let f ← NumberPart.minute.set f minute
  NumberPart.second.set f second

theorem agree_none {low high v : Int} (h : low ≤ v ∧ v ≤ high) :
    agree low high none v = .ok (some v) :=
  if_neg (by omega)

theorem mem_of_agree {low high v : Int} {old x : Option Int} (h : agree low high old v = .ok x) :
    low ≤ v ∧ v ≤ high := by
  refine Decidable.byContradiction fun hnot => ?_
  have hfault : agree low high old v = .error .outOfRange := if_pos (by omega)
  rw [hfault] at h
  cases h

/-- A year, a month, a day, an hour, a minute and a second, and nothing else. -/
def ofMoment (year month day hour minute second : Int) : Fields :=
  { Fields.empty with
    year := { YearFields.empty with full := some year }
    month := some month
    day := some day
    half := some (hour / 12)
    hourOfHalf := some (hour % 12)
    minute := some minute
    second := some second }

theorem setMoment_eq_ok {year month day hour minute second : Int}
    (hyear : 0 ≤ year ∧ year ≤ 9999) (hmonth : 1 ≤ month ∧ month ≤ 12) (hday : 1 ≤ day ∧ day ≤ 31)
    (hhour : 0 ≤ hour ∧ hour ≤ 23) (hminute : 0 ≤ minute ∧ minute ≤ 59)
    (hsecond : 0 ≤ second ∧ second ≤ 60) :
    setMoment year month day hour minute second =
      .ok (ofMoment year month day hour minute second) := by
  have hyear' : -maxHalfWord - 1 ≤ year ∧ year ≤ maxHalfWord := by
    simp only [maxHalfWord]
    omega
  have hhalf : 0 ≤ hour / 12 ∧ hour / 12 ≤ 1 := by omega
  have hhourOfHalf : 0 ≤ hour % 12 ∧ hour % 12 ≤ 11 := by omega
  have hnot : ¬(hour < 0 ∨ 23 < hour) := by omega
  simp only [setMoment, NumberPart.set, setYear, setMonth, setHour, setHalf, setMinute, setSecond,
    empty, YearFields.empty, agree_none hyear', agree_none hmonth, agree_none hday,
    agree_none hhalf, agree_none hhourOfHalf, agree_none hminute, agree_none hsecond, Except.map,
    if_neg hnot, bind, Except.bind, ofMoment]

theorem mem_of_map_agree {low high v : Int} {old : Option Int} {g : Option Int → Fields} {f : Fields}
    (h : ((agree low high old v).map g).toOption = some f) : low ≤ v ∧ v ≤ high := by
  cases hagree : agree low high old v with
  | error e =>
    rw [hagree] at h
    cases h
  | ok x => exact mem_of_agree hagree

theorem mem_of_setHour {f f' : Fields} {v : Int} (h : (f.setHour v).toOption = some f') :
    0 ≤ v ∧ v ≤ 23 := by
  refine Decidable.byContradiction fun hnot => ?_
  have hfault : f.setHour v = .error .outOfRange := if_pos (by omega)
  rw [hfault] at h
  cases h

/-- Each number but the year has its bounds. -/
theorem mem_of_setMoment {year month day hour minute second : Int} {f : Fields}
    (h : (setMoment year month day hour minute second).toOption = some f) :
    (1 ≤ month ∧ month ≤ 12) ∧ (1 ≤ day ∧ day ≤ 31) ∧ (0 ≤ hour ∧ hour ≤ 23) ∧
      (0 ≤ minute ∧ minute ≤ 59) ∧ (0 ≤ second ∧ second ≤ 60) := by
  simp only [setMoment, toOption_bind, Option.bind_eq_some_iff] at h
  obtain ⟨_, -, _, hmonth, _, hday, _, hhour, _, hminute, hsecond⟩ := h
  exact ⟨mem_of_map_agree hmonth, mem_of_map_agree hday, mem_of_setHour hhour,
    mem_of_map_agree hminute, mem_of_map_agree hsecond⟩

/-- A text that says nothing of weeks fits every one. -/
theorem fits_empty (y : Int) : YearFields.empty.fits y = true := by
  simp [YearFields.fits, YearFields.empty]

/-- Year, month and day are enough for a date. -/
theorem date_ofMoment (year : Int) (month day : Nat) (hour minute second : Int) :
    (ofMoment year month day hour minute second).date =
      found (Date.ofParts? year month day) := by
  have hcandidate : (ofMoment year month day hour minute second).candidate (some year) none =
      (found (Date.ofParts? year month day)).map fun d =>
        ((ofMoment year month day hour minute second).fitsWeek d &&
          (ofMoment year month day hour minute second).fitsOrdinal d, d) := rfl
  have hfits : ∀ d, ((ofMoment year month day hour minute second).fitsWeek d &&
      (ofMoment year month day hour minute second).fitsOrdinal d) = true := by
    intro d
    simp [ofMoment, empty, fitsWeek, fitsOrdinal, fits_empty]
  have hyear : (ofMoment year month day hour minute second).year.resolve =
      .ok (some year) := rfl
  have hweek : (ofMoment year month day hour minute second).weekYear.resolve =
      .ok none := rfl
  have hquarter : (ofMoment year month day hour minute second).quarter = none := rfl
  rw [date, hyear, hweek]
  simp only [bind, Except.bind, hcandidate]
  cases Date.ofParts? year month day with
  | none => rfl
  | some d => simp [found, Except.map, hfits, hquarter]

/-- A date with a time of day is a moment, whatever the time. -/
theorem moment_ofMoment (year : Int) (month day : Nat) (hour minute second : Int) :
    (ofMoment year month day hour minute second).moment =
      found (Date.ofParts? year month day) := by
  have htime : ∃ t, (ofMoment year month day hour minute second).time = .ok t := ⟨_, rfl⟩
  obtain ⟨t, htime⟩ := htime
  have hstamp : (ofMoment year month day hour minute second).timestamp = none := rfl
  rw [moment, date_ofMoment, htime, hstamp]
  cases Date.ofParts? year month day with
  | none => rfl
  | some d => rfl

/-- What is found of a moment, or else of its date alone, is the date of year, month and day. -/
theorem toOption_ofMoment (year : Int) (month day : Nat) (hour minute second : Int) :
    (ofMoment year month day hour minute second).moment.toOption.or
      (ofMoment year month day hour minute second).date.toOption =
        Date.ofParts? year month day := by
  rw [moment_ofMoment, date_ofMoment]
  cases Date.ofParts? year month day with
  | none => rfl
  | some d => rfl

end Fields

/-! ## The layout of a moment -/

/-- Six numbers, each of no more digits than there is room for: a year, a month, a day, an hour, a
minute and a second. -/
structure Layout where
  year : Fin 10000
  month : Fin 100
  day : Fin 100
  hour : Fin 100
  minute : Fin 100
  second : Fin 100

namespace Layout

/-- The text `YYYY-MM-DD HH:MM:SS UTC` of six numbers. -/
def text (l : Layout) : String :=
  String.ofList (Text.padded 4 l.year ++ '-' :: (Text.padded 2 l.month ++
    '-' :: (Text.padded 2 l.day ++ ' ' :: (Text.padded 2 l.hour ++ ':' :: (Text.padded 2 l.minute ++
      ':' :: (Text.padded 2 l.second ++ " UTC".toList))))))

/-- The six numbers tell a date and a time of day; a leap second is part of the day. -/
def Tells (l : Layout) (d : Date) : Prop :=
  (d.year = l.year.val ∧ d.month = l.month.val ∧ d.day = l.day.val) ∧
    l.hour.val ≤ 23 ∧ l.minute.val ≤ 59 ∧ l.second.val ≤ 60
  deriving Decidable

/-- There is no such month, no such day in the month, or no such time of day. -/
def IsImpossible (l : Layout) : Prop :=
  l.month.val < 1 ∨ 12 < l.month.val ∨ l.day.val < 1 ∨
    daysInMonth l.year.val l.month.val < l.day.val ∨
      23 < l.hour.val ∨ 59 < l.minute.val ∨ 60 < l.second.val
  deriving Decidable

theorem not_tells {l : Layout} (h : l.IsImpossible) (d : Date) : ¬l.Tells d := by
  rintro ⟨⟨hyear, hmonth, hday⟩, hhour, hminute, hsecond⟩
  have hmonth' := d.month_mem
  have hday' := d.day_mem
  rw [hyear, hmonth, hday] at hday'
  rw [IsImpossible] at h
  omega

/-- What is not impossible tells a date, so there is no third case. -/
theorem exists_tells {l : Layout} (h : ¬l.IsImpossible) : ∃ d, l.Tells d := by
  rw [IsImpossible] at h
  have hyear : firstYear ≤ (l.year.val : Int) ∧ (l.year.val : Int) ≤ lastYear := by
    simp only [firstYear, lastYear]
    omega
  obtain ⟨d, hd⟩ := Date.exists_ofParts? (m := l.month.val) (d := l.day.val) hyear (by omega)
    (by omega)
  exact ⟨d, Date.ofParts?_eq_some_iff.mp hd, by omega⟩

end Layout

/-- The format of that layout. -/
def layoutFormat : String := "%Y-%m-%d %H:%M:%S UTC"

theorem ofText_layoutFormat : Item.ofText layoutFormat =
    [.number .year, .literal ['-'], .number .month, .literal ['-'], .number .day, .blanks,
      .number .hour, .literal [':'], .number .minute, .literal [':'], .number .second, .blanks,
      .literal ['U', 'T', 'C']] := by decide

theorem said_bind {α : Type} (rest : List Char) (x : Except FieldFault Fields)
    (g : Reading → Option α) : (said rest x).bind g = x.toOption.bind fun f => g (rest, f) := by
  cases x <;> rfl

theorem readItems_number (part : NumberPart) (items : List Item) (cs : List Char) (f : Fields) :
    readItems (.number part :: items) cs f =
      (readNumber part cs f).bind fun r => readItems items r.1 r.2 := rfl

theorem readItems_literal (c : Char) (items : List Item) (cs : List Char) (f : Fields) :
    readItems (.literal [c] :: items) (c :: cs) f = readItems items cs f := by
  simp [readItems, Item.read, Item.readPart, Text.after?]

theorem readItems_blanks {width n : Nat} (hpos : 0 < width) (h : n < Nat.pow 10 width)
    (items : List Item) (rest : List Char) (f : Fields) :
    readItems (.blanks :: items) (' ' :: (Text.padded width n ++ rest)) f =
      readItems items (Text.padded width n ++ rest) f := by
  have htrim : Text.trimStart (' ' :: (Text.padded width n ++ rest)) =
      Text.padded width n ++ rest := trimStart_padded hpos h rest
  rw [readItems, Item.read, Item.readPart, htrim, Option.bind_some]
  · rintro ⟨⟩

theorem fieldsOf?_eq (format text : String) :
    fieldsOf? format text = (readItems (Item.ofText format) text.toList .empty).bind fun r =>
      if r.1 = [] then some r.2 else none := by
  rw [fieldsOf?]
  cases readItems (Item.ofText format) text.toList .empty with
  | none => rfl
  | some r =>
    obtain ⟨cs, f⟩ := r
    cases cs with
    | nil => rfl
    | cons c cs => rfl

/-- What a text in that layout sets: the six numbers, one after the other. -/
theorem fieldsOf?_text (l : Layout) : fieldsOf? layoutFormat l.text =
    (Fields.setMoment l.year.val l.month.val l.day.val l.hour.val l.minute.val
      l.second.val).toOption := by
  have hend : ∀ f : Fields, readItems [.blanks, .literal ['U', 'T', 'C']] " UTC".toList f =
      some ([], f) := fun _ => rfl
  have hblanks : ∀ items rest f, readItems (.blanks :: items)
      (' ' :: (Text.padded 2 l.hour ++ rest)) f = readItems items (Text.padded 2 l.hour ++ rest) f :=
    readItems_blanks (by decide) l.hour.isLt
  have htwo : ∀ part : NumberPart, part.width = some 2 → ∀ (n : Fin 100) (rest : List Char) f,
      readNumber part (Text.padded 2 n ++ rest) f = said rest (part.set f n.val) :=
    fun _ hpart n => readNumber_two hpart (Nat.le_of_lt_succ n.isLt)
  rw [fieldsOf?_eq, ofText_layoutFormat, Layout.text, String.toList_ofList, Fields.setMoment]
  simp only [readItems_number, readNumber_year (Nat.le_of_lt_succ l.year.isLt), said_bind,
    readItems_literal, htwo .month rfl, htwo .day rfl, hblanks, htwo .hour rfl,
    htwo .minute rfl, htwo .second rfl, hend,
    toOption_bind, Option.bind_assoc, Option.bind_some, if_true, Option.bind_fun_some]
  rfl

end Calendar

namespace Date

open Calendar

/-- A date as part of a moment. -/
def ofMoment? (format text : String) : Option Date :=
  (fieldsOf? format text).bind fun f => f.moment.toOption

/-- A date that stands alone. -/
def alone? (format text : String) : Option Date :=
  (fieldsOf? format text).bind fun f => f.date.toOption

/-- A moment is looked for first, then a date alone. -/
theorem read?_eq (format text : String) :
    read? format text = (ofMoment? format text).or (alone? format text) := by
  rw [read?, ofMoment?, alone?]
  cases fieldsOf? format text with
  | none => rfl
  | some f =>
    simp only [Option.bind_some]
    cases f.moment with
    | ok d => rfl
    | error e => rfl

/-- **A text in the layout of the format** is read as the date that it tells, and as nothing if it
tells none. -/
theorem read?_layout {l : Layout} {d : Date} : read? layoutFormat l.text = some d ↔ l.Tells d := by
  have hset : ∀ {month day hour minute second : Nat}, _ → _ → _ → _ → _ →
      Fields.setMoment l.year.val month day hour minute second =
        .ok (Fields.ofMoment l.year.val month day hour minute second) :=
    Fields.setMoment_eq_ok (by omega)
  rw [read?_eq, ofMoment?, alone?, fieldsOf?_text, Layout.Tells, ← ofParts?_eq_some_iff]
  constructor
  · intro h
    cases hmoment : (Fields.setMoment l.year.val l.month.val l.day.val l.hour.val l.minute.val
        l.second.val).toOption with
    | none =>
      rw [hmoment] at h
      cases h
    | some f =>
      obtain ⟨hmonth, hday, hhour, hminute, hsecond⟩ := Fields.mem_of_setMoment hmoment
      rw [hset hmonth hday hhour hminute hsecond] at h
      exact ⟨(Fields.toOption_ofMoment _ _ _ _ _ _).symm.trans h, by omega⟩
  · rintro ⟨hd, hhour, hminute, hsecond⟩
    obtain ⟨-, hmonth, hday⟩ := ofParts?_eq_some_iff.mp hd
    have hmonth' := d.month_mem
    have hday' := d.day_mem
    have hlength := daysInMonth_le d.year d.month
    rw [hset (by omega) (by omega) (by omega) (by omega) (by omega)]
    exact (Fields.toOption_ofMoment _ _ _ _ _ _).trans hd

end Date

end AccessBroker
