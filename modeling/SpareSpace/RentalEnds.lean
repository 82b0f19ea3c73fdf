import SpareSpace.CalendarLaws
import SpareSpace.ProcessZone
import SpareSpace.SubscriptionCalls

/-!
# The ends of rentals and subscriptions

In a process whose time zone is UTC, the end of a rental grows with the number of its
periods, and with its start while the periods are hours, days or weeks.  A month has not
every day: an end on a day that its month does not have runs over into the following
month, past the ends of some later starts.  The end of a subscription is computed in the
same way.
-/

namespace SpareSpace

open CivilCalendar

/-- The month of an instant, counted through all years. -/
def monthOf (instant : Int) : Int :=
  (civilFromDays (instant / msPerDay)).monthIndex

/-- The day of an instant in its month. -/
def dayOf (instant : Int) : Int :=
  (civilFromDays (instant / msPerDay)).day

/-- The month some months after an instant has the day of the instant. -/
def HasDay (instant : Int) (count : Nat) : Prop :=
  dayOf instant ≤ monthLength (monthOf instant + count)

instance (instant : Int) (count : Nat) : Decidable (HasDay instant count) :=
  inferInstanceAs (Decidable (_ ≤ _))

section Month

variable {start first second : Int} {count : Nat}

/-- An instant lies in its month, on its day. -/
theorem day_of_instant (instant : Int) :
    1 ≤ dayOf instant ∧ dayOf instant ≤ monthLength (monthOf instant) ∧
      instant / msPerDay = monthStart (monthOf instant) + (dayOf instant - 1) := by
  obtain ⟨_, one, number, ends⟩ := civilFromDays_spec (instant / msPerDay)
  refine ⟨one, ?_, number⟩
  rw [monthLength, dayOf, monthOf]
  omega

/-- Adding months keeps the time of the day and the number of the day, counted from the
first of the resulting month. -/
theorem addMonths_utc (start : Int) (count : Nat) :
    Zone.utc.addMonths start count =
      (monthStart (monthOf start + count) + (dayOf start - 1)) * msPerDay +
        start % msPerDay := by
  have month : 12 * (civilFromDays (start / msPerDay)).year +
      ((civilFromDays (start / msPerDay)).month + (count : Int)) = monthOf start + count := by
    rw [monthOf, CivilDate.monthIndex, add_assoc]
  change makeDay (civilFromDays (start / msPerDay)).year
    ((civilFromDays (start / msPerDay)).month + count)
    (civilFromDays (start / msPerDay)).day * msPerDay + start % msPerDay = _
  rw [makeDay_eq, month, dayOf]

theorem addMonths_div (start : Int) (count : Nat) :
    Zone.utc.addMonths start count / msPerDay =
      monthStart (monthOf start + count) + (dayOf start - 1) := by
  rw [addMonths_utc, msPerDay]
  omega

/-- More months end later. -/
theorem addMonths_lt {fewer more : Nat} (less : fewer < more) :
    Zone.utc.addMonths start fewer < Zone.utc.addMonths start more := by
  have months : monthStart (monthOf start + fewer) < monthStart (monthOf start + more) :=
    monthStart_lt (by omega)
  rw [addMonths_utc, addMonths_utc, msPerDay]
  omega

theorem addMonths_zero (start : Int) : Zone.utc.addMonths start (0 : Nat) = start := by
  have number := (day_of_instant start).2.2
  rw [addMonths_utc, Nat.cast_zero, add_zero, ← number, msPerDay]
  omega

/-- On a day that the month has, an end is in the month. -/
theorem monthOf_addMonths (has : HasDay start count) :
    monthOf (Zone.utc.addMonths start count) = monthOf start + count ∧
      dayOf (Zone.utc.addMonths start count) = dayOf start := by
  rw [monthOf, dayOf, addMonths_div]
  exact civilFromDays_monthStart (day_of_instant start).1 has

/-- An end on a day that the month does not have runs over into the next month. -/
theorem monthOf_addMonths_over (lacks : ¬ HasDay start count) :
    monthOf (Zone.utc.addMonths start count) = monthOf start + count + 1 ∧
      dayOf (Zone.utc.addMonths start count) =
        dayOf start - monthLength (monthOf start + count) := by
  obtain ⟨_, last, _⟩ := day_of_instant start
  have own := monthLength_bounds (monthOf start)
  have target := monthLength_bounds (monthOf start + count)
  have next := monthLength_bounds (monthOf start + count + 1)
  unfold HasDay at lacks
  have number : Zone.utc.addMonths start count / msPerDay =
      monthStart (monthOf start + count + 1) +
        (dayOf start - monthLength (monthOf start + count) - 1) := by
    rw [addMonths_div, monthLength]
    omega
  rw [monthOf, dayOf, number]
  exact civilFromDays_monthStart (by omega) (by omega)

/-- An end on a day that its month has is not after the end of a later start. -/
theorem addMonths_le (has : HasDay first count) (later : first ≤ second) :
    Zone.utc.addMonths first count ≤ Zone.utc.addMonths second count := by
  obtain ⟨firstDay, firstLast, firstNumber⟩ := day_of_instant first
  obtain ⟨secondDay, secondLast, secondNumber⟩ := day_of_instant second
  have days : first / msPerDay ≤ second / msPerDay := Int.ediv_le_ediv (by decide) later
  unfold HasDay at has
  rw [addMonths_utc, addMonths_utc]
  rcases lt_trichotomy (monthOf first) (monthOf second) with before | same | after
  · have ends : monthStart (monthOf first + count + 1) ≤
        monthStart (monthOf second + count) :=
      monthStart_le (by omega)
    rw [monthLength] at has
    simp only [msPerDay] at *
    omega
  · rw [same] at firstNumber ⊢
    simp only [msPerDay] at *
    omega
  · have ends : monthStart (monthOf second + 1) ≤ monthStart (monthOf first) :=
      monthStart_le (by omega)
    rw [monthLength] at secondLast
    omega

end Month

/-- An end is later for more periods. -/
theorem calculateEndDate_lt (start : Int) (tariff : ListingPeriodType) {fewer more : Nat}
    (less : fewer < more) :
    calculateEndDate .utc start tariff fewer < calculateEndDate .utc start tariff more := by
  cases tariff with
  | month => exact addMonths_lt less
  | hour | day | week =>
      simp only [calculateEndDate, Zone.addHours, Zone.addDays, Zone.utc, id, msPerHour,
        msPerDay]
      omega

theorem calculateEndDate_zero (start : Int) (tariff : ListingPeriodType) :
    calculateEndDate .utc start tariff 0 = start := by
  cases tariff with
  | month => exact addMonths_zero start
  | hour | day | week =>
      simp [calculateEndDate, Zone.addHours, Zone.addDays, Zone.utc]

/-- An end is not after that of a later start, in units of one length, or when the month
of the end has the day of the start. -/
theorem calculateEndDate_le {tariff : ListingPeriodType} {first second : Int} {count : Nat}
    (has : tariff = .month → HasDay first count) (later : first ≤ second) :
    calculateEndDate .utc first tariff count ≤ calculateEndDate .utc second tariff count := by
  cases tariff with
  | month => exact addMonths_le (has rfl) later
  | hour | day | week =>
      simp only [calculateEndDate, Zone.addHours, Zone.addDays, Zone.utc, id]
      omega

/-- With the process in UTC, the end of a rental is after its start and later for more
periods.  In hours, days and weeks it is not after the end of a later start.  In months
it is not either, and lies in the month so many months after that of the start, if this
month has the day of the start; otherwise it lies in the following month.  The end of a
subscription is that of a rental of as many months. -/
theorem rental_ends_lawful :
    (∀ start tariff fewer more, fewer < more →
      calculateEndDate .utc start tariff fewer < calculateEndDate .utc start tariff more) ∧
    (∀ start tariff count, 1 ≤ count → start < calculateEndDate .utc start tariff count) ∧
    (∀ tariff first second count, (tariff = .month → HasDay first count) → first ≤ second →
      calculateEndDate .utc first tariff count ≤
        calculateEndDate .utc second tariff count) ∧
    (∀ start count,
      if HasDay start count then
        monthOf (calculateEndDate .utc start .month count) = monthOf start + count ∧
          dayOf (calculateEndDate .utc start .month count) = dayOf start
      else
        monthOf (calculateEndDate .utc start .month count) = monthOf start + count + 1 ∧
          dayOf (calculateEndDate .utc start .month count) =
            dayOf start - monthLength (monthOf start + count)) ∧
    ∀ (request : SubscriptionRequest) count, request.monthsCount = some count →
      request.endDate .utc = some (calculateEndDate .utc request.startDate .month count) := by
  refine ⟨fun start tariff _ _ => calculateEndDate_lt start tariff, ?_,
    fun _ _ _ _ => calculateEndDate_le, ?_, ?_⟩
  · intro start tariff count some_periods
    have later := calculateEndDate_lt start tariff (show 0 < count from some_periods)
    rwa [calculateEndDate_zero] at later
  · intro start count
    split
    · next has => exact monthOf_addMonths has
    · next lacks => exact monthOf_addMonths_over lacks
  · intro request count months
    rw [SubscriptionRequest.endDate, months]
    rfl

/-- From 15 January 2026 a month ends on 15 February, before the month from the next day,
and two months end later. -/
theorem rental_ends_from_january :
    calculateEndDate .utc 1768435200000 .month 1 ≤ calculateEndDate .utc 1768521600000 .month 1 ∧
      calculateEndDate .utc 1768435200000 .month 1 <
        calculateEndDate .utc 1768435200000 .month 2 ∧
      (1768435200000 : Int) < calculateEndDate .utc 1768435200000 .month 1 ∧
      monthOf (calculateEndDate .utc 1768435200000 .month 1) = monthOf 1768435200000 + 1 := by
  obtain ⟨grows, after, ordered, months, _⟩ := rental_ends_lawful
  have has : HasDay 1768435200000 1 := by decide
  have month := months 1768435200000 1
  rw [if_pos has] at month
  exact ⟨ordered .month _ _ 1 (fun _ => has) (by decide), grows _ _ 1 2 (by decide),
    after _ _ 1 (by decide), month.1⟩

/-- A month from 31 January 2026 ends on 3 March, two months later and after the month
from 1 February, which ends on 1 March. -/
theorem month_from_last_of_january :
    (¬ ∀ (first second : Int) (count : Nat), first ≤ second → 1 ≤ count → count ≤ 100 →
      calculateEndDate .utc first .month count ≤
        calculateEndDate .utc second .month count) ∧
    ¬ ∀ (start : Int) (count : Nat), 1 ≤ count → count ≤ 100 →
      monthOf (calculateEndDate .utc start .month count) = monthOf start + count := by
  constructor
  · intro law
    exact absurd (law 1769817600000 1769904000000 1 (by decide) (by decide) (by decide))
      (by decide)
  · intro law
    exact absurd (law 1769817600000 1 (by decide) (by decide)) (by decide)

end SpareSpace
