import SpareSpace.CivilCalendar
import Mathlib.Order.Monotone.Basic

/-!
# Laws of the calendar

Months are counted through all years, so that month `k` is month `k % 12` of year
`k / 12`.  Each day lies in exactly one month, between its first day and that of the next
one, and splitting a day number into its date finds this month.  Years that start in
March have their leap day at the end; an era of 400 of them is cut into centuries, spans
of four years, years and days.
-/

namespace CivilCalendar

/-- The day number of 1 March of a year, in which the leap day comes last. -/
def yearStart (year : Int) : Int :=
  365 * year + year / 4 - year / 100 + year / 400 - 719468

/-- The days of a year before a month counted from March. -/
def monthOffset (month : Int) : Int :=
  (153 * month + 2) / 5

/-- The day number of the first day of a month. -/
def monthStart (month : Int) : Int :=
  daysFromCivil (month / 12) (month % 12) 1

/-- The number of days of a month. -/
def monthLength (month : Int) : Int :=
  monthStart (month + 1) - monthStart month

/-- The months of a date counted through all years. -/
def CivilDate.monthIndex (date : CivilDate) : Int :=
  12 * date.year + date.month

theorem daysFromCivil_eq (year month day : Int) :
    daysFromCivil year month day =
      yearStart (shiftedYear year month) + monthOffset ((month + 10) % 12) + (day - 1) := by
  simp only [daysFromCivil, yearStart, monthOffset]
  omega

/-- The first day of a month, by its place in a year from March. -/
theorem monthStart_eq {year month : Int} (first : 0 ≤ month) (last : month ≤ 11) :
    monthStart (12 * year + month + 2) = yearStart year + monthOffset month := by
  have shifted : shiftedYear ((12 * year + month + 2) / 12) ((12 * year + month + 2) % 12) =
      year := by
    unfold shiftedYear
    split <;> omega
  have fromMarch : ((12 * year + month + 2) % 12 + 10) % 12 = month := by omega
  rw [monthStart, daysFromCivil_eq, shifted, fromMarch]
  omega

theorem exists_fromMarch (month : Int) :
    ∃ year fromMarch : Int, 0 ≤ fromMarch ∧ fromMarch ≤ 11 ∧
      month = 12 * year + fromMarch + 2 :=
  ⟨(month - 2) / 12, (month - 2) % 12, by omega, by omega, by omega⟩

/-- The first day of the month after one that is counted from March. -/
theorem monthStart_next {year month : Int} (first : 0 ≤ month) (last : month ≤ 11) :
    monthStart (12 * year + month + 2 + 1) =
      if month = 11 then yearStart (year + 1) else yearStart year + monthOffset (month + 1) := by
  split
  · next february =>
      have next := @monthStart_eq (year + 1) 0 le_rfl (by decide)
      rw [show (12 * (year + 1) + 0 + 2 : Int) = 12 * year + month + 2 + 1 by omega] at next
      simpa [monthOffset] using next
  · next other =>
      rw [← monthStart_eq (by omega) (by omega)]
      congr 1
      omega

theorem monthLength_bounds (month : Int) : 28 ≤ monthLength month ∧ monthLength month ≤ 31 := by
  obtain ⟨year, fromMarch, first, last, rfl⟩ := exists_fromMarch month
  rw [monthLength, monthStart_next first last, monthStart_eq first last]
  simp only [yearStart, monthOffset]
  split <;> omega

theorem monthStart_lt {first second : Int} (before : first < second) :
    monthStart first < monthStart second := by
  refine strictMono_int_of_lt_succ (fun month => ?_) before
  have bounds := monthLength_bounds month
  unfold monthLength at bounds
  omega

theorem monthStart_le {first second : Int} (before : first ≤ second) :
    monthStart first ≤ monthStart second := by
  rcases Int.lt_or_eq_of_le before with earlier | rfl
  · exact (monthStart_lt earlier).le
  · rfl

/-- A day lies in at most one month. -/
theorem month_unique {first second day : Int} (inFirst : monthStart first ≤ day)
    (endsFirst : day < monthStart (first + 1)) (inSecond : monthStart second ≤ day)
    (endsSecond : day < monthStart (second + 1)) : first = second := by
  by_contra different
  rcases Int.lt_or_gt_of_ne different with earlier | later
  · have starts := monthStart_le (show first + 1 ≤ second by omega)
    omega
  · have starts := monthStart_le (show second + 1 ≤ first by omega)
    omega

/-- A day of an era is counted from the start of its century, of its four years and of its
year; the last of each has the leap day. -/
theorem exists_eraParts {dayOfEra : Int} (first : 0 ≤ dayOfEra) (last : dayOfEra < 146097) :
    ∃ century four year day : Int,
      dayOfEra = 36524 * century + 1461 * four + 365 * year + day ∧
      (0 ≤ century ∧ century ≤ 3) ∧ (0 ≤ four ∧ four ≤ 24) ∧ (0 ≤ year ∧ year ≤ 3) ∧
      0 ≤ day ∧ (day ≤ 364 ∨ day = 365 ∧ year = 3 ∧ (four ≤ 23 ∨ century = 3)) := by
  obtain ⟨century, bounds, start, rest⟩ : ∃ century : Int, (0 ≤ century ∧ century ≤ 3) ∧
      0 ≤ dayOfEra - 36524 * century ∧ (dayOfEra - 36524 * century < 36524 ∨
        century = 3 ∧ dayOfEra - 36524 * century = 36524) :=
    ⟨min (dayOfEra / 36524) 3, by omega, by omega, by omega⟩
  obtain ⟨four, fours⟩ : ∃ four, four = (dayOfEra - 36524 * century) / 1461 := ⟨_, rfl⟩
  obtain ⟨year, years⟩ : ∃ year,
      year = min ((dayOfEra - 36524 * century - 1461 * four) / 365) 3 := ⟨_, rfl⟩
  exact ⟨century, four, year, dayOfEra - 36524 * century - 1461 * four - 365 * year,
    by omega, bounds, by omega, by omega, by omega, by omega⟩

theorem yearOfEra_eq {dayOfEra century four year day : Int}
    (parts : dayOfEra = 36524 * century + 1461 * four + 365 * year + day)
    (centuries : 0 ≤ century ∧ century ≤ 3) (fours : 0 ≤ four ∧ four ≤ 24)
    (years : 0 ≤ year ∧ year ≤ 3) (start : 0 ≤ day)
    (ends : day ≤ 364 ∨ day = 365 ∧ year = 3 ∧ (four ≤ 23 ∨ century = 3)) :
    (dayOfEra - dayOfEra / 1460 + dayOfEra / 36524 - dayOfEra / 146096) / 365 =
      100 * century + 4 * four + year := by
  have rest : 1461 * four + 365 * year + day ≤ 36523 ∨
      century = 3 ∧ 1461 * four + 365 * year + day = 36524 := by omega
  have leaps : dayOfEra / 36524 - dayOfEra / 146096 = century := by
    rcases rest with rest | ⟨rfl, rest⟩ <;> omega
  have fourYears : dayOfEra / 1460 =
      25 * century + four + (24 * century + four + 365 * year + day) / 1460 := by omega
  omega

/-- The date of a day number, by the year from March and the day of this year. -/
theorem exists_civilFromDays (days : Int) :
    ∃ year day month : Int, days = yearStart year + day ∧ 0 ≤ day ∧
      days < yearStart (year + 1) ∧ month = (5 * day + 2) / 153 ∧
      civilFromDays days = ⟨year + (if month < 10 then 0 else 1),
        if month < 10 then month + 2 else month - 10, day - monthOffset month + 1⟩ := by
  obtain ⟨era, eras⟩ : ∃ era, era = (days + 719468) / 146097 := ⟨_, rfl⟩
  obtain ⟨dayOfEra, dayEq⟩ : ∃ dayOfEra, dayOfEra = days + 719468 - era * 146097 := ⟨_, rfl⟩
  obtain ⟨century, four, year, day, parts, centuries, fours, years, start, ends⟩ :=
    @exists_eraParts dayOfEra (by omega) (by omega)
  obtain ⟨yearOfEra, yearEq⟩ : ∃ yearOfEra, yearOfEra = 100 * century + 4 * four + year :=
    ⟨_, rfl⟩
  have dayOfYear : dayOfEra - (365 * yearOfEra + yearOfEra / 4 - yearOfEra / 100) = day := by
    omega
  obtain ⟨month, monthEq⟩ : ∃ month, month = (5 * day + 2) / 153 := ⟨_, rfl⟩
  have cut : civilFromDays days =
      ⟨yearOfEra + era * 400 + (if (if month < 10 then month + 2 else month - 10) ≤ 1 then 1
          else 0), if month < 10 then month + 2 else month - 10,
        day - monthOffset month + 1⟩ := by
    simp only [civilFromDays, monthOffset]
    rw [← eras, ← dayEq, yearOfEra_eq parts centuries fours years start ends, ← yearEq,
      dayOfYear, ← monthEq]
  refine ⟨yearOfEra + era * 400, day, month, ?_, start, ?_, monthEq, ?_⟩
  · simp only [yearStart]
    omega
  · -- The leap day comes when the four years end, unless only the century ends with them.
    have nextFour : (yearOfEra + era * 400 + 1) / 4 =
        100 * era + 25 * century + four + (year + 1) / 4 := by omega
    have nextCentury : (yearOfEra + era * 400 + 1) / 100 =
        4 * era + century + (4 * four + year + 1) / 100 := by omega
    have nextEra : (yearOfEra + era * 400 + 1) / 400 =
        era + (100 * century + 4 * four + year + 1) / 400 := by omega
    simp only [yearStart]
    rw [nextFour, nextCentury, nextEra]
    omega
  · rw [cut]
    congr 1
    split_ifs <;> omega

/-- The date of a day number is one of twelve months, and its month starts as many days
before as the day in the month says. -/
theorem civilFromDays_spec (days : Int) :
    (0 ≤ (civilFromDays days).month ∧ (civilFromDays days).month ≤ 11) ∧
      1 ≤ (civilFromDays days).day ∧
      days = monthStart (civilFromDays days).monthIndex + ((civilFromDays days).day - 1) ∧
      days < monthStart ((civilFromDays days).monthIndex + 1) := by
  obtain ⟨year, day, month, number, start, ends, monthEq, date⟩ := exists_civilFromDays days
  have last : day ≤ 365 := by
    simp only [yearStart] at number ends
    omega
  have index : (civilFromDays days).monthIndex = 12 * year + month + 2 := by
    rw [date, CivilDate.monthIndex]
    simp only
    split_ifs <;> omega
  rw [index, monthStart_eq (by omega) (by omega), monthStart_next (by omega) (by omega), date]
  simp only [monthOffset]
  refine ⟨?_, by omega, by omega, ?_⟩
  · split_ifs <;> omega
  · split_ifs <;> omega

/-- The date of a day number has this day number. -/
theorem daysFromCivil_civilFromDays (days : Int) :
    daysFromCivil (civilFromDays days).year (civilFromDays days).month
      (civilFromDays days).day = days := by
  obtain ⟨⟨first, last⟩, _, number, _⟩ := civilFromDays_spec days
  have year : (civilFromDays days).monthIndex / 12 = (civilFromDays days).year := by
    rw [CivilDate.monthIndex]
    omega
  have month : (civilFromDays days).monthIndex % 12 = (civilFromDays days).month := by
    rw [CivilDate.monthIndex]
    omega
  rw [monthStart, year, month, daysFromCivil_eq] at number
  rw [daysFromCivil_eq]
  omega

/-- A day of a month is split into this month and its place in it. -/
theorem civilFromDays_monthStart {month day : Int} (first : 1 ≤ day)
    (last : day ≤ monthLength month) :
    (civilFromDays (monthStart month + (day - 1))).monthIndex = month ∧
      (civilFromDays (monthStart month + (day - 1))).day = day := by
  obtain ⟨_, one, number, ends⟩ := civilFromDays_spec (monthStart month + (day - 1))
  rw [monthLength] at last
  have same := month_unique (by omega) ends (show monthStart month ≤ _ by omega) (by omega)
  exact ⟨same, by rw [same] at number; omega⟩

theorem makeDay_eq (year month day : Int) :
    makeDay year month day = monthStart (12 * year + month) + (day - 1) := by
  rw [makeDay, monthStart]
  congr 2 <;> omega

end CivilCalendar
