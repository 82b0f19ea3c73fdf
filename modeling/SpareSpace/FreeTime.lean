import SpareSpace.ListingAvailability
import SpareSpace.SpanPieces

/-!
# The shown availability is the free time

Of each slot, `getListingAvailability` shows the decomposition of the time from the
start of the day on that no booking takes.  A set has one decomposition, so neither
the order nor the number of the passes of the subtraction loop matters.
-/

namespace SpareSpace

namespace BookingsService

open Span

/-- The instants of a slot from the start of the day on that no booking takes. -/
def freeTime (startOfToday : Int) (bookings : List Booking) (slot : PeriodDto) :
    Set Int :=
  {instant | startOfToday ≤ instant ∧ instant ∈ slot.toSet ∧
    ∀ booking ∈ bookings, instant ∉ booking.period.toSet}

/-- What the subtraction loop leaves of one slot. -/
def slotPieces (startOfToday : Int) (bookings : List Booking) (slot : PeriodDto) :
    List PeriodDto :=
  bookings.foldl (subtractBooking startOfToday) (clipAtToday startOfToday slot).toList

section Slots

variable {startOfToday : Int} {free : List PeriodDto} {bookings : List Booking}

theorem subtractBooking_append (first second : List PeriodDto) (booking : Booking) :
    subtractBooking startOfToday (first ++ second) booking =
      subtractBooking startOfToday first booking ++
        subtractBooking startOfToday second booking := by
  unfold subtractBooking
  split
  · rfl
  · exact List.flatMap_append

theorem foldl_subtractBooking_append (first second : List PeriodDto) :
    bookings.foldl (subtractBooking startOfToday) (first ++ second) =
      bookings.foldl (subtractBooking startOfToday) first ++
        bookings.foldl (subtractBooking startOfToday) second := by
  induction bookings generalizing first second with
  | nil => rfl
  | cons booking rest ih => simp only [List.foldl_cons, subtractBooking_append, ih]

/-- The loop works on each slot by itself. -/
theorem foldl_subtractBooking_eq (availability : List PeriodDto) :
    bookings.foldl (subtractBooking startOfToday)
        (availability.filterMap (clipAtToday startOfToday)) =
      availability.flatMap (slotPieces startOfToday bookings) := by
  induction availability with
  | nil => exact foldl_subtractBooking_nil bookings
  | cons slot rest ih =>
      rw [List.flatMap_cons, ← ih, slotPieces, ← foldl_subtractBooking_append]
      cases clipped : clipAtToday startOfToday slot with
      | none => simp [clipped]
      | some period => simp [clipped]

/-- Clipping a slot at the start of the day. -/
theorem decomposes_clipAtToday {slot : PeriodDto} (nonempty : slot.start < slot.stop) :
    Decomposes (freeTime startOfToday [] slot)
      (clipAtToday startOfToday slot).toList := by
  unfold clipAtToday
  split
  · next ended =>
      have none : freeTime startOfToday [] slot = ∅ := by
        ext instant
        simp [freeTime]
        omega
      rw [none]
      exact Decomposes.empty
  · next lasts =>
      have rest : freeTime startOfToday [] slot =
          toSet ⟨max slot.start startOfToday, slot.stop⟩ := by
        ext instant
        simp [freeTime]
        omega
      have clipped : (if slot.start < startOfToday then startOfToday
          else slot.start) = max slot.start startOfToday := by
        split <;> omega
      rw [rest, clipped]
      exact Decomposes.single (by simp only; omega)

/-- One pass of the loop takes the time of its booking away; what a booking takes
before the start of the day is not free anyway. -/
theorem decomposes_subtractBooking {slot : PeriodDto} {booking : Booking}
    (decomposes : Decomposes (freeTime startOfToday bookings slot) free)
    (lasting : booking.period.start < booking.period.stop) :
    Decomposes (freeTime startOfToday (bookings ++ [booking]) slot)
      (subtractBooking startOfToday free booking) := by
  unfold subtractBooking
  split
  · next ended =>
      have same : freeTime startOfToday (bookings ++ [booking]) slot =
          freeTime startOfToday bookings slot := by
        ext instant
        simp only [freeTime, List.forall_mem_append, List.forall_mem_singleton]
        refine and_congr_right fun late => and_congr_right fun _ => ?_
        refine and_iff_left fun taken => ?_
        exact absurd (ended.trans late) (not_le.mpr taken.2)
      rwa [same]
  · next running =>
      have rest : freeTime startOfToday (bookings ++ [booking]) slot =
          freeTime startOfToday bookings slot \
            toSet ⟨max booking.period.start startOfToday, booking.period.stop⟩ := by
        ext instant
        simp only [freeTime, List.forall_mem_append, List.forall_mem_singleton,
          Set.mem_sdiff]
        constructor
        · rintro ⟨late, inside, free, apart⟩
          exact ⟨⟨late, inside, free⟩, fun taken =>
            apart ⟨(le_max_left _ _).trans taken.1, taken.2⟩⟩
        · rintro ⟨⟨late, inside, free⟩, apart⟩
          exact ⟨late, inside, free, fun taken =>
            apart ⟨max_le taken.1 late, taken.2⟩⟩
      have clipped : (if booking.period.start < startOfToday then startOfToday
          else booking.period.start) = max booking.period.start startOfToday := by
        split <;> omega
      rw [rest, clipped]
      exact decomposes.cutEach (by simp only; omega)

/-- The whole loop, by induction on the bookings still to be cut out. -/
theorem decomposes_foldl {slot : PeriodDto} {later : List Booking}
    (decomposes : Decomposes (freeTime startOfToday bookings slot) free)
    (lasting : ∀ booking ∈ later, booking.period.start < booking.period.stop) :
    Decomposes (freeTime startOfToday (bookings ++ later) slot)
      (later.foldl (subtractBooking startOfToday) free) := by
  induction later generalizing bookings free with
  | nil => simpa using decomposes
  | cons booking rest ih =>
      rw [List.forall_mem_cons] at lasting
      rw [List.append_cons, List.foldl_cons]
      exact ih (decomposes_subtractBooking decomposes lasting.1) lasting.2

theorem decomposes_slotPieces {slot : PeriodDto} (nonempty : slot.start < slot.stop)
    (lasting : ∀ booking ∈ bookings, booking.period.start < booking.period.stop) :
    Decomposes (freeTime startOfToday bookings slot)
      (slotPieces startOfToday bookings slot) :=
  decomposes_foldl (decomposes_clipAtToday nonempty) lasting

/-- The free time depends on which bookings there are, not on their order. -/
theorem freeTime_perm {others : List Booking} (perm : bookings.Perm others)
    (slot : PeriodDto) :
    freeTime startOfToday bookings slot = freeTime startOfToday others slot := by
  ext instant
  simp only [freeTime, perm.mem_iff]

end Slots

variable {zone : Zone} {environment : Environment} {backend : Backend}
  {listing : Listing} {listingId : Nat} {excludeBookingId : Option Nat}

/-- For every listing whose slots are not empty, every bookings that are not empty,
in whatever order, and every clock: what is shown are, slot by slot and in
increasing order, the maximal spans of the time that is free in the slot from the
start of the day on.  Backends that find the same bookings in another order show
the same, and an instant is shown when it is free in some slot. -/
theorem getListingAvailability_free
    (found : backend.findByIdWithCache environment listingId = .ok listing)
    (slots : ∀ slot ∈ listing.availability, slot.start < slot.stop)
    (lasting : ∀ booking ∈ backend.blockingBookings listingId excludeBookingId,
      booking.period.start < booking.period.stop) :
    ∃ pieces : PeriodDto → List PeriodDto,
      getListingAvailability zone environment backend listingId excludeBookingId =
          .ok (listing.availability.flatMap pieces) ∧
        (∀ slot ∈ listing.availability,
          ((pieces slot).Pairwise fun first second => first.stop < second.start) ∧
            ∀ piece, piece ∈ pieces slot ↔ IsMaximalIn
              (freeTime (zone.startOfDay environment.now)
                (backend.blockingBookings listingId excludeBookingId) slot) piece) ∧
        (∀ other : Backend,
          other.findByIdWithCache environment listingId = .ok listing →
          (other.blockingBookings listingId excludeBookingId).Perm
            (backend.blockingBookings listingId excludeBookingId) →
          getListingAvailability zone environment other listingId excludeBookingId =
            .ok (listing.availability.flatMap pieces)) ∧
        ∀ instant, (∃ free ∈ listing.availability.flatMap pieces,
            instant ∈ free.toSet) ↔
          zone.startOfDay environment.now ≤ instant ∧
            (∃ slot ∈ listing.availability, instant ∈ slot.toSet) ∧
            ∀ booking ∈ backend.blockingBookings listingId excludeBookingId,
              instant ∉ booking.period.toSet := by
  have decomposes (slot : PeriodDto) (slotMem : slot ∈ listing.availability) :=
    @decomposes_slotPieces (zone.startOfDay environment.now) _ slot
      (slots slot slotMem) lasting
  refine ⟨slotPieces (zone.startOfDay environment.now)
    (backend.blockingBookings listingId excludeBookingId), ?_, ?_, ?_, ?_⟩
  · rw [getListingAvailability_eq found, foldl_subtractBooking_eq]
  · intro slot slotMem
    exact ⟨(decomposes slot slotMem).apart, fun piece => (decomposes slot slotMem).mem_iff⟩
  · intro other foundOther perm
    rw [getListingAvailability_eq foundOther, foldl_subtractBooking_eq]
    refine congrArg Except.ok (List.flatMap_congr fun slot slotMem => ?_)
    have others := @decomposes_slotPieces (zone.startOfDay environment.now) _ slot
      (slots slot slotMem) fun booking present => lasting booking (perm.mem_iff.mp present)
    rw [freeTime_perm perm] at others
    exact others.unique (decomposes slot slotMem)
  · intro instant
    simp only [List.mem_flatMap]
    constructor
    · rintro ⟨free, ⟨slot, slotMem, freeMem⟩, shown⟩
      obtain ⟨late, inside, apart⟩ := (decomposes slot slotMem).inside freeMem shown
      exact ⟨late, ⟨slot, slotMem, inside⟩, apart⟩
    · rintro ⟨late, ⟨slot, slotMem, inside⟩, apart⟩
      obtain ⟨free, freeMem, shown⟩ : instant ∈ pointsOf (slotPieces
          (zone.startOfDay environment.now)
          (backend.blockingBookings listingId excludeBookingId) slot) := by
        rw [(decomposes slot slotMem).covers]
        exact ⟨late, inside, apart⟩
      exact ⟨free, ⟨slot, slotMem, freeMem⟩, shown⟩

/-- The hour booked by user 2 is not shown. -/
theorem getListingAvailability_free_sample :
    getListingAvailability .utc (.at 0) .sampleBooked 1 none =
        .ok [⟨3600000, 864000000⟩] ∧
      ∃ pieces : PeriodDto → List PeriodDto,
        getListingAvailability .utc (.at 0) .sampleBooked 1 none =
          .ok ((sampleListing 1).availability.flatMap pieces) := by
  have shown := @getListingAvailability_free .utc (.at 0) .sampleBooked
    (sampleListing 1) 1 none rfl (by decide) (by decide)
  obtain ⟨pieces, returned, _⟩ := shown
  exact ⟨by decide, pieces, returned⟩

end BookingsService

end SpareSpace
