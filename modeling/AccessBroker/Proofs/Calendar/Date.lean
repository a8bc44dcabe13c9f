/-
Dates in their order.

A day lies in exactly one year (`within_yearOf`, `eq_of_within`) and in exactly
one month of it (`of_partsFrom`), so a date is found again by its number
(`ofNumber?_eq_some_iff`). Numbers run in the order of years, months and days
(`le_iff`), and from one day to the next, whether the month goes on, another
month of the year begins, or another year (`number_of_tomorrow?`). So the date
some days later, which is found by adding to the number, is the one that is
reached day by day (`daysLater?_eq_plusDays?`).
-/
import AccessBroker.Calendar.Date

namespace AccessBroker

namespace Calendar

/-! ## Years -/

/-- A year ends where the next begins. -/
theorem daysBeforeYear_succ (y : Int) : daysBeforeYear (y + 1) = daysBeforeYear y + daysInYear y := by
  have hleap : (daysInYear y : Int) = if y % 4 = 0 ∧ (y % 100 ≠ 0 ∨ y % 400 = 0) then 366 else 365 := by
    simp only [daysInYear, isLeap, Bool.and_eq_true, decide_eq_true_eq, Bool.or_eq_true]
    split <;> rfl
  rw [hleap, daysBeforeYear, daysBeforeYear]
  split <;> omega

theorem daysBeforeYear_lt {y z : Int} (h : y < z) : daysBeforeYear y < daysBeforeYear z := by
  simp only [daysBeforeYear]
  omega

/-- Years do not overlap. -/
theorem eq_of_within {y z n : Int} (hy : daysBeforeYear y < n ∧ n ≤ daysBeforeYear (y + 1))
    (hz : daysBeforeYear z < n ∧ n ≤ daysBeforeYear (z + 1)) : y = z := by
  have hmono : ∀ {v w : Int}, v < w → daysBeforeYear (v + 1) ≤ daysBeforeYear w := by
    intro v w h
    rcases Int.lt_or_eq_of_le (Int.add_one_le_of_lt h) with h | rfl
    · exact Int.le_of_lt (daysBeforeYear_lt h)
    · exact Int.le_refl _
  rcases Int.lt_trichotomy y z with h | h | h
  · have := hmono h
    omega
  · exact h
  · have := hmono h
    omega

/-- A day lies in the year that is found for its number. -/
theorem within_yearOf (n : Int) :
    daysBeforeYear (yearOf n) < n ∧ n ≤ daysBeforeYear (yearOf n + 1) := by
  have hlow : daysBeforeYear (n * 400 / 146097) < n := by
    simp only [daysBeforeYear]
    omega
  have hhigh : n ≤ daysBeforeYear (n * 400 / 146097 + 2 + 1) := by
    simp only [daysBeforeYear]
    omega
  rw [yearOf]
  split
  · next h => exact ⟨h, hhigh⟩
  · next h =>
    split
    · next h' => exact ⟨h', Int.add_assoc _ 1 1 ▸ Int.not_lt.mp h⟩
    · next h' => exact ⟨hlow, Int.not_lt.mp h'⟩

theorem yearOf_eq {y n : Int} (h : daysBeforeYear y < n) (h' : n ≤ daysBeforeYear (y + 1)) :
    yearOf n = y :=
  eq_of_within (within_yearOf n) ⟨h, h'⟩

/-! ## Months -/

theorem daysInMonth_pos (y : Int) (m : Nat) : 0 < daysInMonth y m := by
  rw [daysInMonth]
  split
  · split <;> omega
  · split <;> omega

theorem daysInMonth_le (y : Int) (m : Nat) : daysInMonth y m ≤ 31 := by
  rw [daysInMonth]
  split
  · split <;> omega
  · split <;> omega

theorem daysBeforeMonth_le (y : Int) {l : Nat} : ∀ {m : Nat}, l ≤ m →
    daysBeforeMonth y l ≤ daysBeforeMonth y m
  | 0, h => Nat.le_of_eq (congrArg _ (Nat.le_zero.mp h))
  | m + 1, h => by
    rcases Nat.lt_or_eq_of_le h with hlt | rfl
    · exact Nat.le_trans (daysBeforeMonth_le y (Nat.le_of_lt_succ hlt)) (Nat.le_add_right _ _)
    · exact Nat.le_refl _

theorem daysBeforeMonth_pred (y : Int) {m : Nat} (h : 1 ≤ m) :
    daysBeforeMonth y (m - 1) + daysInMonth y m = daysBeforeMonth y m := by
  obtain ⟨l, rfl⟩ := Nat.exists_eq_add_of_le' h
  rfl

/-- The months make up the year. -/
theorem daysBeforeMonth_year (y : Int) : daysBeforeMonth y 12 = daysInYear y := by
  simp only [daysBeforeMonth, daysInMonth, daysInYear]
  cases isLeap y <;> rfl

end Calendar

namespace Date

open Calendar

/-- What the month and day found for a place in a year are. -/
theorem of_partsFrom (y : Int) : ∀ {months m n m' d : Nat}, 1 ≤ n →
    daysBeforeMonth y m + n ≤ daysBeforeMonth y (m + months + 1) →
    partsFrom y months (m + 1) n = (m', d) →
    m + 1 ≤ m' ∧ m' ≤ m + months + 1 ∧ 1 ≤ d ∧ d ≤ daysInMonth y m' ∧
      daysBeforeMonth y (m' - 1) + d = daysBeforeMonth y m + n
  | 0, m, n, m', d, hn, h, hparts => by
    have hmonth : daysBeforeMonth y (m + 1) = daysBeforeMonth y m + daysInMonth y (m + 1) := rfl
    rw [Nat.add_zero, hmonth] at h
    cases hparts
    exact ⟨Nat.le_refl _, Nat.le_refl _, hn, by omega, rfl⟩
  | months + 1, m, n, m', d, hn, h, hparts => by
    have hmonth : daysBeforeMonth y (m + 1) = daysBeforeMonth y m + daysInMonth y (m + 1) := rfl
    rw [partsFrom] at hparts
    split at hparts
    · next hle =>
      cases hparts
      exact ⟨Nat.le_refl _, by omega, hn, hle, rfl⟩
    · next hgt =>
      rw [show m + (months + 1) + 1 = m + 1 + months + 1 by omega] at h
      obtain ⟨hfrom, hto, hpos, hle, hsum⟩ := of_partsFrom y (by omega) (by omega) hparts
      exact ⟨by omega, by omega, hpos, hle, by omega⟩

/-! ## Places in a year -/

theorem ofParts?_eq_some_iff {y : Int} {m d : Nat} {x : Date} :
    ofParts? y m d = some x ↔ x.year = y ∧ x.month = m ∧ x.day = d := by
  constructor
  · intro h
    rw [ofParts?] at h
    split at h
    · split at h
      · split at h
        · cases h
          exact ⟨rfl, rfl, rfl⟩
        · cases h
      · cases h
    · cases h
  · rintro ⟨rfl, rfl, rfl⟩
    rw [ofParts?, dif_pos x.year_mem, dif_pos x.month_mem, dif_pos x.day_mem]

theorem ext_of_parts {x y : Date} (hyear : x.year = y.year) (hmonth : x.month = y.month)
    (hday : x.day = y.day) : x = y := by
  have hx := ofParts?_eq_some_iff.mpr ⟨hyear, hmonth, hday⟩
  rw [ofParts?_eq_some_iff.mpr ⟨rfl, rfl, rfl⟩, Option.some.injEq] at hx
  exact hx.symm

theorem exists_ofParts? {y : Int} {m d : Nat} (hy : firstYear ≤ y ∧ y ≤ lastYear)
    (hm : 1 ≤ m ∧ m ≤ 12) (hd : 1 ≤ d ∧ d ≤ daysInMonth y m) : ∃ x, ofParts? y m d = some x :=
  ⟨⟨y, m, d, hy, hm, hd⟩, ofParts?_eq_some_iff.mpr ⟨rfl, rfl, rfl⟩⟩

theorem ordinal_mem (d : Date) : 1 ≤ d.ordinal ∧ d.ordinal ≤ daysInYear d.year := by
  obtain ⟨hm, hm'⟩ := d.month_mem
  obtain ⟨hd, hd'⟩ := d.day_mem
  have hmonth := daysBeforeMonth_pred d.year hm
  have hyear := daysBeforeMonth_le d.year hm'
  rw [daysBeforeMonth_year] at hyear
  rw [ordinal]
  omega

/-- A date of an earlier month has an earlier place in the year. -/
theorem ordinal_lt_of_month {x y : Date} (hyear : x.year = y.year) (h : x.month < y.month) :
    x.ordinal < y.ordinal := by
  obtain ⟨-, hd⟩ := x.day_mem
  obtain ⟨hd', -⟩ := y.day_mem
  have hmonth := daysBeforeMonth_pred x.year x.month_mem.1
  have hle := daysBeforeMonth_le x.year (show x.month ≤ y.month - 1 by omega)
  rw [ordinal, ordinal, ← hyear]
  omega

/-- A date is told by its year and its place in it. -/
theorem ext_of_ordinal {x y : Date} (hyear : x.year = y.year) (h : x.ordinal = y.ordinal) :
    x = y := by
  rcases Nat.lt_trichotomy x.month y.month with hlt | hmonth | hgt
  · exact absurd h (Nat.ne_of_lt (ordinal_lt_of_month hyear hlt))
  · refine ext_of_parts hyear hmonth ?_
    rw [ordinal, ordinal, hyear, hmonth] at h
    exact Nat.add_left_cancel h
  · exact absurd h.symm (Nat.ne_of_lt (ordinal_lt_of_month hyear.symm hgt))

theorem exists_ordinal_eq {y : Int} {n : Nat} (hy : firstYear ≤ y ∧ y ≤ lastYear)
    (hn : 1 ≤ n ∧ n ≤ daysInYear y) : ∃ d, ofOrdinal? y n = some d ∧ d.year = y ∧ d.ordinal = n := by
  cases hparts : partsFrom y 11 1 n with
  | mk m e =>
    have hfits : daysBeforeMonth y 0 + n ≤ daysBeforeMonth y (0 + 11 + 1) := by
      rw [show 0 + 11 + 1 = 12 from rfl, daysBeforeMonth_year, daysBeforeMonth]
      omega
    obtain ⟨hm, hm', he, he', hsum⟩ := of_partsFrom y hn.1 hfits hparts
    obtain ⟨d, hd⟩ := exists_ofParts? hy ⟨hm, hm'⟩ ⟨he, he'⟩
    obtain ⟨hyear, hmonth, hday⟩ := ofParts?_eq_some_iff.mp hd
    refine ⟨d, ?_, hyear, ?_⟩
    · rw [ofOrdinal?, if_pos hn, hparts]
      exact hd
    · rw [ordinal, hyear, hmonth, hday, hsum, daysBeforeMonth, Nat.zero_add]

theorem ofOrdinal?_eq_some_iff {y : Int} {n : Nat} {d : Date} :
    ofOrdinal? y n = some d ↔ d.year = y ∧ d.ordinal = n := by
  constructor
  · intro h
    have hn : 1 ≤ n ∧ n ≤ daysInYear y := by
      refine Decidable.byContradiction fun hn => ?_
      rw [ofOrdinal?, if_neg hn] at h
      cases h
    have hy : firstYear ≤ y ∧ y ≤ lastYear := by
      rw [ofOrdinal?, if_pos hn] at h
      exact (ofParts?_eq_some_iff.mp h).1 ▸ d.year_mem
    obtain ⟨e, he, hyear, hordinal⟩ := exists_ordinal_eq hy hn
    rw [he, Option.some.injEq] at h
    exact h ▸ ⟨hyear, hordinal⟩
  · rintro ⟨rfl, rfl⟩
    obtain ⟨e, he, hyear, hordinal⟩ := exists_ordinal_eq d.year_mem d.ordinal_mem
    rw [he, ext_of_ordinal hyear hordinal]

/-! ## Numbers -/

theorem number_within (d : Date) :
    daysBeforeYear d.year < d.number ∧ d.number ≤ daysBeforeYear (d.year + 1) := by
  have hordinal := d.ordinal_mem
  rw [daysBeforeYear_succ, number]
  omega

/-- **A date is found by its number**, and by no other. -/
theorem ofNumber?_eq_some_iff {n : Int} {d : Date} : ofNumber? n = some d ↔ d.number = n := by
  have hwithin := within_yearOf n
  rw [ofNumber?, ofOrdinal?_eq_some_iff, ordinalOf]
  constructor
  · rintro ⟨hyear, hordinal⟩
    rw [number, hyear, hordinal]
    omega
  · rintro rfl
    have hyear := yearOf_eq d.number_within.1 d.number_within.2
    rw [hyear, number]
    exact ⟨rfl, by omega⟩

theorem plusDays?_eq_some_iff {d e : Date} {n : Nat} :
    d.plusDays? n = some e ↔ e.number = d.number + n := ofNumber?_eq_some_iff

/-- A date is later by a whole year if its year is. -/
theorem number_lt_of_year {x y : Date} (h : x.year < y.year) : x.number < y.number := by
  have hx := x.number_within.2
  have hy := y.number_within.1
  rcases Int.lt_or_eq_of_le (Int.add_one_le_of_lt h) with hlt | heq
  · have := daysBeforeYear_lt hlt
    omega
  · rw [heq] at hx
    omega

/-- The order of dates by year, month and day. -/
def Precedes (x y : Date) : Prop :=
  x.year < y.year ∨ x.year = y.year ∧ (x.month < y.month ∨ x.month = y.month ∧ x.day < y.day)
  deriving Decidable

theorem number_lt_of_precedes {x y : Date} (h : x.Precedes y) : x.number < y.number := by
  rcases h with h | ⟨hyear, hmonth | ⟨hmonth, hday⟩⟩
  · exact number_lt_of_year h
  · have := ordinal_lt_of_month hyear hmonth
    rw [number, number, hyear]
    omega
  · rw [number, number, ordinal, ordinal, hyear, hmonth]
    omega

theorem precedes_trichotomy (x y : Date) : x = y ∨ x.Precedes y ∨ y.Precedes x := by
  by_cases heq : x.year = y.year ∧ x.month = y.month ∧ x.day = y.day
  · exact .inl (ext_of_parts heq.1 heq.2.1 heq.2.2)
  · simp only [Precedes]
    omega

/-- **Numbers run in the order of years, months and days.** -/
theorem le_iff {x y : Date} : x ≤ y ↔ x = y ∨ x.Precedes y := by
  change x.number ≤ y.number ↔ _
  constructor
  · intro h
    rcases precedes_trichotomy x y with heq | hlt | hgt
    · exact .inl heq
    · exact .inr hlt
    · exact absurd h (Int.not_le.mpr (number_lt_of_precedes hgt))
  · rintro (rfl | h)
    · exact Int.le_refl _
    · exact Int.le_of_lt (number_lt_of_precedes h)

theorem number_injective {x y : Date} (h : x.number = y.number) : x = y := by
  have hx := ofNumber?_eq_some_iff.mpr h
  rw [ofNumber?_eq_some_iff.mpr rfl, Option.some.injEq] at hx
  exact hx.symm

/-! ## Days -/

/-- The day after a date, if there is one. -/
def tomorrow? (d : Date) : Option Date :=
  if d.day < daysInMonth d.year d.month then ofParts? d.year d.month (d.day + 1)
  else if d.month < 12 then ofParts? d.year (d.month + 1) 1
  else ofParts? (d.year + 1) 1 1

/-- The date that is reached in so many days, one by one. -/
def daysLater? : Nat → Date → Option Date
  | 0, d => some d
  | n + 1, d => d.tomorrow?.bind (daysLater? n)

/-- The last day of a year. -/
theorem number_of_last {d : Date} (hmonth : ¬d.month < 12)
    (hday : ¬d.day < daysInMonth d.year d.month) : d.number = daysBeforeYear (d.year + 1) := by
  have hmonth' : d.month = 12 := by
    have := d.month_mem
    omega
  have hday' : d.day = daysInMonth d.year 12 := by
    have := d.day_mem
    rw [hmonth'] at this hday
    omega
  rw [number, ordinal, hmonth', hday', daysBeforeMonth_pred d.year (by decide),
    daysBeforeMonth_year, daysBeforeYear_succ]

/-- The day after has the next number, whether the month goes on, the year, or neither. -/
theorem number_of_tomorrow? {d e : Date} (h : d.tomorrow? = some e) : e.number = d.number + 1 := by
  rw [tomorrow?] at h
  split at h
  · obtain ⟨hy, hm, hd⟩ := ofParts?_eq_some_iff.mp h
    rw [number, number, ordinal, ordinal, hy, hm, hd]
    omega
  · next hday =>
    split at h
    · obtain ⟨hy, hm, hd⟩ := ofParts?_eq_some_iff.mp h
      have hpred := daysBeforeMonth_pred d.year d.month_mem.1
      have hlast := d.day_mem.2
      rw [number, number, ordinal, ordinal, hy, hm, hd, Nat.add_sub_cancel]
      omega
    · next hmonth =>
      obtain ⟨hy, hm, hd⟩ := ofParts?_eq_some_iff.mp h
      rw [number_of_last hmonth hday, number, ordinal, hy, hm, hd]
      rfl

/-- There is a day after a date if there is a date with a greater number. -/
theorem exists_tomorrow? {d e : Date} (h : d.number < e.number) : ∃ x, d.tomorrow? = some x := by
  have hfirst : ∀ {y : Int} (m : Nat), 1 ≤ 1 ∧ 1 ≤ daysInMonth y m := fun m =>
    ⟨Nat.le_refl _, daysInMonth_pos _ m⟩
  rw [tomorrow?]
  split
  · next hday => exact exists_ofParts? d.year_mem d.month_mem ⟨Nat.le_add_left _ _, hday⟩
  · next hday =>
    split
    · next hmonth => exact exists_ofParts? d.year_mem ⟨Nat.le_add_left _ _, hmonth⟩ (hfirst _)
    · next hmonth =>
      have hyear : d.year < e.year := by
        rw [number_of_last hmonth hday] at h
        refine Int.not_le.mp fun hle => ?_
        have hend := e.number_within.2
        rcases Int.lt_or_eq_of_le hle with hlt | heq
        · have := daysBeforeYear_lt (show e.year + 1 < d.year + 1 by omega)
          omega
        · rw [heq] at hend
          omega
      have hfrom := d.year_mem
      have hto := e.year_mem
      exact exists_ofParts? (by omega) (by decide) (hfirst 1)

theorem tomorrow?_eq_some_iff {d e : Date} : d.tomorrow? = some e ↔ e.number = d.number + 1 := by
  constructor
  · exact number_of_tomorrow?
  · intro h
    obtain ⟨x, hx⟩ := exists_tomorrow? (show d.number < e.number by omega)
    rw [hx, number_injective ((number_of_tomorrow? hx).trans h.symm)]

/-- **Days later by number are days later one by one.** -/
theorem daysLater?_eq_plusDays? : ∀ (n : Nat) (d : Date), daysLater? n d = d.plusDays? n
  | 0, d => (plusDays?_eq_some_iff.mpr (Int.add_zero _).symm).symm
  | n + 1, d => by
    refine Option.ext fun e => ?_
    rw [daysLater?, Option.bind_eq_some_iff, plusDays?_eq_some_iff]
    simp only [tomorrow?_eq_some_iff, daysLater?_eq_plusDays? n, plusDays?_eq_some_iff]
    constructor
    · rintro ⟨x, hx, he⟩
      omega
    · intro he
      obtain ⟨x, hx⟩ := exists_tomorrow? (show d.number < e.number by omega)
      have hnext := number_of_tomorrow? hx
      exact ⟨x, hnext, by omega⟩

/-- The days up to a date are all there. -/
theorem exists_daysLater? {e : Date} : ∀ {n : Nat} {d : Date}, d.number + n ≤ e.number →
    ∃ x, daysLater? n d = some x
  | 0, d, _ => ⟨d, rfl⟩
  | n + 1, d, h => by
    obtain ⟨x, hx⟩ := exists_tomorrow? (show d.number < e.number by omega)
    have hnext := number_of_tomorrow? hx
    rw [daysLater?, hx, Option.bind_some]
    exact exists_daysLater? (show x.number + n ≤ e.number by omega)

/-- Before the last year there is a date within a year from each. -/
theorem exists_daysLater?_of_year {d : Date} (hyear : d.year < lastYear) {n : Nat} (hn : n ≤ 365) :
    ∃ x, daysLater? n d = some x := by
  let e : Date := ⟨lastYear, 12, 31, by decide, by decide, by decide⟩
  have hlast : e.number = daysBeforeYear (lastYear + 1) := number_of_last (by decide) (by decide)
  have hend := d.number_within.2
  refine exists_daysLater? (e := e) ?_
  rw [hlast]
  simp only [daysBeforeYear, lastYear] at hyear hend ⊢
  omega

end Date

end AccessBroker
