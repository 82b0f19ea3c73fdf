import SpareSpace.RentalStore

/-!
# Price, tariff and period of a booking

A creation takes price and tariff from its listing, an update takes them again only if
the tariff changes, and both compute period and total price from one number of periods.
So every stored booking agrees with itself, and its price is one that its listing had
for its tariff since the booking was created, however the listing has been edited.
-/

namespace SpareSpace

open Fallible TransitionRuns BookingsService

/-- The period and the total price follow from the price, the tariff, the start and one
number of periods, and the start is a whole minute. -/
structure Booking.Fits (zone : Zone) (booking : Booking) : Prop where
  periods : ∃ count, 1 ≤ count ∧ count ≤ 100 ∧
    booking.period = ⟨booking.period.start,
      calculateEndDate zone booking.period.start booking.pricePeriod count⟩ ∧
    booking.totalPrice = booking.price * count
  wholeMinute : zone.getSeconds booking.period.start = 0 ∧
    zone.getMilliseconds booking.period.start = 0

/-- The listing of a booking has the price of the booking for its tariff. -/
def Backend.Offers (backend : Backend) (booking : Booking) : Prop :=
  ∃ listing, backend.listings.find? booking.listingId = some listing ∧
    ⟨booking.price, booking.pricePeriod⟩ ∈ listing.pricings

/-- How a booking has come to its terms in one call: it was stored with them, it was
moved to another period under its tariff, or its listing offers them. -/
inductive Backend.Sets (zone : Zone) (before after : Backend) (booking : Booking) : Prop
  | kept {old : Booking} (stored : old ∈ before.bookings.rows)
      (same : booking = { old with status := booking.status })
  | moved {old : Booking} (stored : old ∈ before.bookings.rows) (named : booking.id = old.id)
      (listing : booking.listingId = old.listingId) (price : booking.price = old.price)
      (tariff : booking.pricePeriod = old.pricePeriod) (fits : booking.Fits zone)
  | offered (fits : booking.Fits zone) (offers : after.Offers booking)

namespace BookingsService

variable {zone : Zone} {environment : Environment} {backend : Backend}

theorem checkWholeMinute_ok_iff {startDate : Int} :
    checkWholeMinute zone startDate = .ok () ↔
      zone.getSeconds startDate = 0 ∧ zone.getMilliseconds startDate = 0 := by
  unfold checkWholeMinute
  split
  · next off => simpa [imp_iff_not_or] using off
  · next even => simpa [not_or] using even

theorem of_selectPricing {listing : Listing} {pricePeriod : ListingPeriodType}
    {pricing : ListingPricing}
    (selected : selectPricing listing pricePeriod = .ok pricing) :
    pricing ∈ listing.pricings ∧ pricing.pricePeriod = pricePeriod := by
  unfold selectPricing at selected
  split at selected
  · next found =>
      obtain rfl := Except.ok.inj selected
      exact ⟨List.mem_of_find?_eq_some found, by simpa using List.find?_some found⟩
  · contradiction

/-- A booking that a call has not written. -/
theorem sets_old {after : Backend} {booking : Booking}
    (old : booking ∈ backend.bookings.rows) : Backend.Sets zone backend after booking :=
  .kept old rfl

theorem fits_draftBooking {dto : CreateBookingDto} {listing : Listing}
    {pricing : ListingPricing} (renterId id : Nat)
    (minute : checkWholeMinute zone dto.startDate = .ok ())
    (tariff : pricing.pricePeriod = dto.pricePeriod) :
    ((draftBooking zone renterId dto listing pricing).row id).Fits zone where
  periods := ⟨dto.periodsCount.count, dto.periodsCount.positive, dto.periodsCount.bounded,
    by simp [BookingDraft.row, draftBooking, requestedPeriod, tariff], rfl⟩
  wholeMinute := checkWholeMinute_ok_iff.mp minute

theorem fits_changePeriod {dto : UpdateBookingPeriodDto} (booking : Booking)
    (minute : checkWholeMinute zone dto.startDate = .ok ()) :
    (changePeriod zone dto booking).Fits zone where
  periods := ⟨dto.periodsCount.count, dto.periodsCount.positive, dto.periodsCount.bounded,
    rfl, rfl⟩
  wholeMinute := checkWholeMinute_ok_iff.mp minute

/-- The listing of a creation is the stored one, so what it is booked for is on offer. -/
theorem sets_create {renterId : Nat} {dto : CreateBookingDto}
    (reads : ∀ listing, backend.findByIdWithCache environment dto.listingId = .ok listing →
      backend.listings.find? dto.listingId = some listing) {booking : Booking}
    (stored : booking ∈
      (run (create zone environment renterId dto) backend).2.bookings.rows) :
    Backend.Sets zone backend (run (create zone environment renterId dto) backend).2
      booking := by
  rcases BookingsHandler.create_service_passes zone environment backend renterId dto with
    ⟨error, ran⟩ | ⟨listing, pricing, known, loaded, found, _, minute, _, selected, _, ran⟩
  · rw [ran] at stored ⊢
    exact sets_old stored
  · rw [ran] at stored ⊢
    rcases (backend.bookings.mem_insert_iff _ (BookingDraft.row_id _)).mp stored with
      old | rfl
    · exact sets_old old
    · obtain ⟨offered, tariff⟩ := of_selectPricing selected
      have located := reads listing found
      have named := backend.listings.key_of_find? located
      rw [← named] at located
      exact .offered (fits_draftBooking renterId _ minute tariff)
        ⟨listing, located, offered⟩

theorem sets_updatePeriod {bookingId : Nat} {dto : UpdateBookingPeriodDto}
    {booking : Booking} (stored : booking ∈
      (run (updatePeriod zone environment bookingId dto) backend).2.bookings.rows) :
    Backend.Sets zone backend
      (run (updatePeriod zone environment bookingId dto) backend).2 booking := by
  rcases updatePeriod_saves zone environment backend bookingId dto with
    same | ⟨loaded, changed, known, found, minute, tariff, ran⟩
  · rw [same] at stored ⊢
    exact sets_old stored
  · rw [ran] at stored ⊢
    rcases backend.bookings.mem_save_iff.mp stored with rfl | ⟨old, _⟩
    · obtain ⟨located, joined⟩ := Backend.findById_ok_iff.mp found
      have fits := fits_changePeriod changed minute
      obtain ⟨named, listing, _, _⟩ := BookingsHandler.changeTariff_identity tariff
      unfold changeTariff at tariff
      split at tariff
      · cases selected : selectPricing loaded.listing dto.pricePeriod with
        | error error => simp [selected] at tariff
        | ok pricing =>
            rw [selected] at tariff
            obtain rfl := Except.ok.inj tariff
            exact .offered fits ⟨loaded.listing, joined, (of_selectPricing selected).1⟩
      · obtain rfl := Except.ok.inj tariff
        exact .moved (backend.bookings.mem_of_find? located) rfl rfl rfl rfl fits
    · exact sets_old old

theorem sets_updateStatus {bookingId : Nat} {newStatus : BookingStatus} {booking : Booking}
    (stored : booking ∈ (run (updateStatus bookingId newStatus) backend).2.bookings.rows) :
    Backend.Sets zone backend (run (updateStatus bookingId newStatus) backend).2
      booking := by
  rcases run_updateStatus backend bookingId newStatus with
    ⟨error, _, ran⟩ | ⟨loaded, known, found, ran⟩
  · rw [ran] at stored ⊢
    exact sets_old stored
  · rw [ran] at stored ⊢
    rcases backend.bookings.mem_save_iff.mp stored with rfl | ⟨old, _⟩
    · have located := (Backend.findById_ok_iff.mp found).1
      exact .kept (backend.bookings.mem_of_find? located) rfl
    · exact sets_old old

end BookingsService

variable {zone : Zone} {space : String} {store after start last : RentalStore}

/-- One whole call leaves a booking as it was, moves it under its tariff, or gives it
terms that its listing has. -/
theorem sets_of_rentalStep {label : SearchEnvironment × RentalCall}
    (taken : rentalStep zone space store label = some after) {booking : Booking}
    (stored : booking ∈ after.backend.bookings.rows) :
    Backend.Sets zone store.backend after.backend booking := by
  obtain ⟨environment, call⟩ := label
  obtain rfl := Option.some.inj taken
  cases call with
  | create renterId dto =>
      exact sets_create (fun listing => RentalStore.find?_of_findByIdWithCache) stored
  | updatePeriod bookingId dto => exact sets_updatePeriod stored
  | updateStatus bookingId newStatus => exact sets_updateStatus stored
  | delete bookingId => exact sets_old (List.mem_of_mem_filter stored)
  | findByIdWithCache listingId => exact sets_old stored
  | listings request => exact sets_old stored
  | editListing listingId updateDto => exact sets_old stored

/-- After any whole calls from tables without bookings, every booking agrees with itself,
and in some state since its creation its listing had its price for its tariff. -/
theorem booking_terms (empty : start.backend.bookings.rows = [])
    {labels : List (SearchEnvironment × RentalCall)}
    (executed : execute (rentalStep zone space) start labels = some last)
    {booking : Booking} (stored : booking ∈ last.backend.bookings.rows) :
    (∃ count, 1 ≤ count ∧ count ≤ 100 ∧
        booking.period = ⟨booking.period.start,
          calculateEndDate zone booking.period.start booking.pricePeriod count⟩ ∧
        booking.totalPrice = booking.price * count) ∧
      (zone.getSeconds booking.period.start = 0 ∧
        zone.getMilliseconds booking.period.start = 0) ∧
      ∃ moment, Passes (rentalStep zone space) start labels moment ∧
        (moment.backend.bookings.find? booking.id).isSome ∧
          moment.backend.Offers booking := by
  suffices terms : booking.Fits zone ∧
      ∃ moment, Passes (rentalStep zone space) start labels moment ∧
        (moment.backend.bookings.find? booking.id).isSome ∧
          moment.backend.Offers booking from
    ⟨terms.1.periods, terms.1.wholeMinute, terms.2⟩
  induction labels using List.reverseRecOn generalizing last booking with
  | nil =>
      obtain rfl := Option.some.inj executed
      rw [empty] at stored
      contradiction
  | append_singleton labels label ih =>
      obtain ⟨middle, before, taken⟩ := execute_concat.mp executed
      cases sets_of_rentalStep taken stored with
      | @kept old present same =>
          obtain ⟨fits, moment, passes, created, offers⟩ := ih before present
          rw [same]
          exact ⟨⟨fits.periods, fits.wholeMinute⟩, moment, passes.concat label, created,
            offers⟩
      | @moved old present named listing price tariff fits =>
          obtain ⟨_, moment, passes, created, offers⟩ := ih before present
          refine ⟨fits, moment, passes.concat label, named ▸ created, ?_⟩
          unfold Backend.Offers at offers ⊢
          rwa [listing, price, tariff]
      | offered fits offers =>
          refine ⟨fits, last, passes_of_execute executed, ?_, offers⟩
          rw [last.backend.bookings.find?_key_of_mem stored]
          rfl

private def rentalEnvironment : SearchEnvironment where
  now := 0
  address := none
  similar := fun _ _ => false
  within := fun _ _ _ _ => false
  order := fun _ listings => listings
  perm := fun _ _ => List.Perm.refl _

private def workshopDto : CreateListingDto :=
  ⟨.workshop, "Workshop", none, [⟨300, .hour⟩, ⟨5000, .day⟩], ⟨37, 55⟩, none, none, none,
    [⟨0, 864000000⟩]⟩

private def workshops : KeyedTable StoredListing StoredListing.id :=
  KeyedTable.empty.insert (fun id => ⟨id, ListingsService.createdRow 1 workshopDto "Moscow"⟩)
    fun _ => rfl

/-- User 1 has an active workshop with an hourly and a daily tariff. -/
private def workshopStart : RentalStore where
  search := ⟨[1], workshops, fun _ => none, fun _ => none, 0⟩
  backend := .opening (StoredListing.entities workshops) [(2, .renter)]
  current := nofun
  joined := rfl

private def dailyOnly : UpdateListingDto :=
  ⟨none, none, none, some [⟨6000, .day⟩], none, none, none, none, none⟩

/-- User 2 books an hour, user 1 removes the hourly tariff, and user 2 makes it two
hours at the price of the removed tariff. -/
theorem booking_terms_sample :
    ∃ last, execute (rentalStep .utc "keyv:") workshopStart [
        (rentalEnvironment, .create 2 ⟨1, .hour, 0, .one⟩),
        (rentalEnvironment, .editListing 1 dailyOnly),
        (rentalEnvironment, .updatePeriod 1 ⟨.hour, 3600000, .two⟩)] = some last ∧
      ∃ moment, Passes (rentalStep .utc "keyv:") workshopStart [
          (rentalEnvironment, .create 2 ⟨1, .hour, 0, .one⟩),
          (rentalEnvironment, .editListing 1 dailyOnly),
          (rentalEnvironment, .updatePeriod 1 ⟨.hour, 3600000, .two⟩)] moment ∧
        (moment.backend.bookings.find? 1).isSome ∧
          moment.backend.Offers ⟨1, 1, 2, 300, .hour, ⟨3600000, 10800000⟩, 600, .pending⟩ :=
  ⟨_, rfl, (booking_terms rfl rfl (by decide :
    (⟨1, 1, 2, 300, .hour, ⟨3600000, 10800000⟩, 600, .pending⟩ : Booking) ∈ _)).2.2⟩

end SpareSpace
