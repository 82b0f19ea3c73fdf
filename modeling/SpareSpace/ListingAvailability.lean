import SpareSpace.BookingsHandler

/-!
# Shown availability and accepted dates

`getListingAvailability` clips the slots of a listing at the start of the day
and cuts the occupying bookings out one after another.  `validateBookingDates`
asks instead for one slot around the period and for no overlapping booking.
Both accept the same periods: clipping never removes an instant from now on,
and a period that avoids a booking lies on one side of the cut.
-/

namespace SpareSpace

namespace BookingsService

variable {zone : Zone} {environment : Environment} {backend : Backend}
  {period : PeriodDto} {startOfToday : Int}

theorem validateWithinSlots_ok_iff {now : Int}
    {availability : List PeriodDto} :
    validateWithinSlots now period availability = .ok () ↔
      now ≤ period.start ∧ period.start < period.stop ∧
        ∃ slot ∈ availability, period.Within slot := by
  unfold validateWithinSlots
  by_cases past : period.start < now
  · simp [past]
  · by_cases disordered : period.stop ≤ period.start
    · simp [past, disordered]
    · rw [if_neg past, if_neg disordered]
      split
      · next outside => simpa using fun _ _ => outside
      · next inside => simpa [not_lt.mp past, not_le.mp disordered] using inside

theorem validateNoOverlap_ok_iff {listingId : Nat}
    {excludeBookingId : Option Nat} :
    validateNoOverlap backend period listingId excludeBookingId = .ok () ↔
      ∀ booking ∈ backend.blockingBookings listingId excludeBookingId,
        ¬ booking.period.Overlaps period := by
  simp [validateNoOverlap]

/-- What `validateBookingDates` accepts. -/
theorem validateBookingDates_ok_iff {now : Int} {listingId : Nat}
    {availability : List PeriodDto} {excludeBookingId : Option Nat} :
    validateBookingDates backend now period listingId availability
        excludeBookingId = .ok () ↔
      (now ≤ period.start ∧ period.start < period.stop ∧
        ∃ slot ∈ availability, period.Within slot) ∧
        ∀ booking ∈ backend.blockingBookings listingId excludeBookingId,
          ¬ booking.period.Overlaps period := by
  rw [← validateWithinSlots_ok_iff, ← validateNoOverlap_ok_iff]
  unfold validateBookingDates
  cases validateWithinSlots now period availability with
  | error error => simp [bind, Except.bind]
  | ok _ => simp [bind, Except.bind]

section Subtraction

variable (nonempty : period.start < period.stop)
  (late : startOfToday ≤ period.start)

include nonempty late

/-- Clipping a slot at an instant keeps the periods that start later. -/
theorem within_clipAtToday_iff {availability : List PeriodDto} :
    (∃ free ∈ availability.filterMap (clipAtToday startOfToday),
        period.Within free) ↔
      ∃ slot ∈ availability, period.Within slot := by
  simp only [List.mem_filterMap]
  constructor
  · rintro ⟨free, ⟨slot, slotMem, clipped⟩, fits⟩
    refine ⟨slot, slotMem, ?_⟩
    unfold clipAtToday at clipped
    split at clipped
    · contradiction
    · obtain rfl := Option.some.inj clipped
      obtain ⟨starts, stops⟩ := fits
      refine ⟨le_trans ?_ starts, stops⟩
      simp only
      split <;> omega
  · rintro ⟨slot, slotMem, starts, stops⟩
    have lasting : ¬ slot.stop ≤ startOfToday := by omega
    refine ⟨_, ⟨slot, slotMem, if_neg lasting⟩, ?_, stops⟩
    simp only
    split <;> omega

/-- One pass of the subtraction loop removes the periods that overlap the
booking, wherever the booking is cut off at the start of the day. -/
theorem within_subtractBooking_iff {free : List PeriodDto} {booking : Booking}
    (lasting : booking.period.start < booking.period.stop) :
    (∃ part ∈ subtractBooking startOfToday free booking, period.Within part) ↔
      (∃ part ∈ free, period.Within part) ∧
        ¬ booking.period.Overlaps period := by
  rw [Span.overlaps_comm]
  unfold subtractBooking
  split
  · next ended =>
      have apart : ¬ period.Overlaps booking.period := by
        rw [Span.overlaps_iff_of_nonempty nonempty lasting]
        omega
      simp [apart]
  · next running =>
      have clipped : (if booking.period.start < startOfToday then startOfToday
          else booking.period.start) = max booking.period.start startOfToday := by
        split <;> omega
      rw [clipped, Span.within_cutEach_iff nonempty (by simp only; omega),
        Span.overlaps_max_start_iff late]

/-- The whole subtraction loop, by induction on the bookings found. -/
theorem within_foldl_subtractBooking_iff {free : List PeriodDto}
    {bookings : List Booking}
    (lasting : ∀ booking ∈ bookings,
      booking.period.start < booking.period.stop) :
    (∃ part ∈ bookings.foldl (subtractBooking startOfToday) free,
        period.Within part) ↔
      (∃ part ∈ free, period.Within part) ∧
        ∀ booking ∈ bookings, ¬ booking.period.Overlaps period := by
  induction bookings generalizing free with
  | nil => simp
  | cons booking rest ih =>
      rw [List.forall_mem_cons] at lasting
      rw [List.foldl_cons, ih lasting.2,
        within_subtractBooking_iff nonempty late lasting.1,
        List.forall_mem_cons, and_assoc]

end Subtraction

/-- There is nothing to subtract from. -/
theorem foldl_subtractBooking_nil (bookings : List Booking) :
    bookings.foldl (subtractBooking startOfToday) [] = [] := by
  induction bookings with
  | nil => rfl
  | cons booking rest ih => simpa [subtractBooking, Span.cutEach] using ih

/-- The list `getListingAvailability` returns; when no slot is left after
clipping, there is nothing to subtract from. -/
theorem getListingAvailability_eq {listing : Listing} {listingId : Nat}
    {excludeBookingId : Option Nat}
    (found : backend.findByIdWithCache environment listingId = .ok listing) :
    getListingAvailability zone environment backend listingId
        excludeBookingId =
      .ok ((backend.blockingBookings listingId excludeBookingId).foldl
        (subtractBooking (zone.startOfDay environment.now))
        (listing.availability.filterMap
          (clipAtToday (zone.startOfDay environment.now)))) := by
  simp only [getListingAvailability, found, bind, Except.bind]
  split
  · next none =>
      rw [List.isEmpty_iff.mp none, foldl_subtractBooking_nil]
      rfl
  · rfl

/-- For every listing, stored bookings, excluded booking, clock and period,
the dates `create` and `updatePeriod` accept are those of the shown
availability that are not in the past. -/
theorem validateBookingDates_ok_iff_shown {listing : Listing}
    (excludeBookingId : Option Nat) (period : PeriodDto)
    (found : backend.findByIdWithCache environment listing.id = .ok listing)
    (lasting : ∀ booking ∈ backend.bookings.rows,
      booking.period.start < booking.period.stop) :
    ∃ shown, getListingAvailability zone environment backend listing.id
        excludeBookingId = .ok shown ∧
      (validateBookingDates backend environment.now period listing.id
          listing.availability excludeBookingId = .ok () ↔
        environment.now ≤ period.start ∧ period.start < period.stop ∧
          ∃ free ∈ shown, period.toSet ⊆ free.toSet) := by
  refine ⟨_, getListingAvailability_eq found, ?_⟩
  rw [validateBookingDates_ok_iff, and_assoc, and_assoc]
  refine and_congr_right fun current => and_congr_right fun nonempty => ?_
  have late : zone.startOfDay environment.now ≤ period.start :=
    (zone.startOfDay_le environment.now).trans current
  have blocking : ∀ booking ∈
      backend.blockingBookings listing.id excludeBookingId,
      booking.period.start < booking.period.stop :=
    fun booking occupying => lasting booking (List.mem_of_mem_filter occupying)
  simp only [← Span.within_iff_subset nonempty]
  rw [within_foldl_subtractBooking_iff nonempty late blocking,
    within_clipAtToday_iff nonempty late]

theorem validateBookingDates_ok_iff_shown_sample :
    ∃ shown, getListingAvailability .utc (.at 0) .sampleBooked 1 none =
        .ok shown ∧
      (validateBookingDates .sampleBooked 0 ⟨3600000, 7200000⟩ 1
          [⟨0, 864000000⟩] none = .ok () ↔
        (0 : Int) ≤ 3600000 ∧ (3600000 : Int) < 7200000 ∧
          ∃ free ∈ shown, Span.toSet ⟨3600000, 7200000⟩ ⊆ free.toSet) := by
  have found : Backend.sampleBooked.findByIdWithCache (.at 0)
      (sampleListing 1).id = .ok (sampleListing 1) :=
    rfl
  exact validateBookingDates_ok_iff_shown none ⟨3600000, 7200000⟩ found
    (by decide)

end BookingsService

namespace BookingsHandler

variable {zone : Zone} {environment : Environment} {backend : Backend}

theorem checkExcluded_ok_iff {userId listingId : Nat}
    {excluded : LoadedBooking} :
    checkExcluded userId listingId excluded = .ok () ↔
      excluded.booking.renterId = userId ∧ excluded.listing.id = listingId := by
  unfold checkExcluded
  by_cases renter : excluded.booking.renterId = userId
  · by_cases listing : excluded.listing.id = listingId
    · simp [renter, listing]
    · simp [renter, listing]
  · simp [renter]

/-- The handler shows the service's list, and only to the renter of the
excluded booking. -/
theorem getListingAvailability_ok_iff {userId listingId bookingId : Nat}
    {shown : List PeriodDto} (named : bookingId ≠ 0) :
    getListingAvailability zone environment backend userId listingId
        (some bookingId) = .ok shown ↔
      (∃ excluded, backend.findById bookingId = .ok excluded ∧
        excluded.booking.renterId = userId ∧
          excluded.listing.id = listingId) ∧
        BookingsService.getListingAvailability zone environment backend
          listingId (some bookingId) = .ok shown := by
  obtain ⟨previous, rfl⟩ := Nat.exists_eq_succ_of_ne_zero named
  unfold getListingAvailability
  simp only [← checkExcluded_ok_iff]
  cases backend.findById (previous + 1) with
  | error error => simp [bind, Except.bind]
  | ok excluded =>
      cases checked : checkExcluded userId listingId excluded with
      | error error => simp [checked, bind, Except.bind]
      | ok _ => simp [checked, bind, Except.bind]

end BookingsHandler

end SpareSpace
