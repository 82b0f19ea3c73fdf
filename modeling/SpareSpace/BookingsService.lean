import SpareSpace.Backend
import SpareSpace.FallibleState
import SpareSpace.ProcessZone

/-!
# The booking service

Creation, period updates and status updates of bookings, and the availability
of a listing.  The checks that read no table, or read one table once, are
functions of their own, since the services make them between repository calls.
-/

namespace SpareSpace

/-- A service call over the state of the back end. -/
abbrev Service (α : Type) :=
  Fallible HttpException Backend α

/-- `excludeBookingId` is falsy when it is absent or zero. -/
def excludes (excludeBookingId : Option Nat) (booking : Booking) : Bool :=
  match excludeBookingId with
  | some id => id != 0 && booking.id == id
  | none => false

/-- The bookings that occupy a listing, apart from the excluded one. -/
def Backend.blockingBookings (backend : Backend) (listingId : Nat)
    (excludeBookingId : Option Nat) : List Booking :=
  backend.bookings.rows.filter fun booking =>
    booking.listingId == listingId && booking.status.blocking &&
      !excludes excludeBookingId booking

/-- The availability clipped at the start of the current day. -/
def clipAtToday (startOfToday : Int) (period : PeriodDto) : Option PeriodDto :=
  if period.stop ≤ startOfToday then
    none
  else
    some ⟨if period.start < startOfToday then startOfToday else period.start,
      period.stop⟩

/-- One pass of the subtraction loop: cut a booking out of the free periods. -/
def subtractBooking (startOfToday : Int) (freePeriods : List PeriodDto)
    (booking : Booking) : List PeriodDto :=
  if booking.period.stop ≤ startOfToday then
    freePeriods
  else
    Span.cutEach freePeriods
      ⟨if booking.period.start < startOfToday then startOfToday
        else booking.period.start, booking.period.stop⟩

namespace BookingsService

def checkListing (renterId : Nat) (listing : Listing) :
    Except HttpException Unit :=
  if listing.status ≠ .active then
    .error (.badRequest "Cannot book an inactive listing")
  else if renterId = listing.userId then
    .error (.badRequest "Cannot book owned listing")
  else
    .ok ()

def checkWholeMinute (zone : Zone) (startDate : Int) :
    Except HttpException Unit :=
  if zone.getSeconds startDate ≠ 0 ∨ zone.getMilliseconds startDate ≠ 0 then
    .error (.badRequest ("Start date must be a multiple of one minute " ++
      "(no seconds or milliseconds allowed)"))
  else
    .ok ()

def selectPricing (listing : Listing) (pricePeriod : ListingPeriodType) :
    Except HttpException ListingPricing :=
  match listing.pricings.find? fun pricing => pricing.pricePeriod == pricePeriod with
  | some pricing => .ok pricing
  | none =>
      .error (.badRequest
        ("Listing does not support " ++ pricePeriod.text ++ " pricing"))

/-- The first two checks of `validateBookingDates`: the clock, the order of
the dates, and containment in one availability slot. -/
def validateWithinSlots (now : Int) (period : PeriodDto)
    (availability : List PeriodDto) : Except HttpException Unit :=
  if period.start < now then
    .error (.badRequest "Start date cannot be in the past")
  else if period.stop ≤ period.start then
    .error (.badRequest "End date must be after start date")
  else if !availability.any (fun slot => decide (period.Within slot)) then
    .error (.badRequest ("Booking period must be completely within one of " ++
      "the listing's availability slots"))
  else
    .ok ()

/-- The third check of `validateBookingDates`: no other booking overlaps. -/
def validateNoOverlap (backend : Backend) (period : PeriodDto)
    (listingId : Nat) (excludeBookingId : Option Nat) :
    Except HttpException Unit :=
  if (backend.blockingBookings listingId excludeBookingId).any
      (fun booking => decide (booking.period.Overlaps period)) then
    .error (.conflict "Listing is not available for the selected period")
  else
    .ok ()

def validateBookingDates (backend : Backend) (now : Int) (period : PeriodDto)
    (listingId : Nat) (availability : List PeriodDto)
    (excludeBookingId : Option Nat) : Except HttpException Unit := do
  validateWithinSlots now period availability
  validateNoOverlap backend period listingId excludeBookingId

def getListingAvailability (zone : Zone) (environment : Environment)
    (backend : Backend) (listingId : Nat) (excludeBookingId : Option Nat) :
    Except HttpException (List PeriodDto) := do
  let listing ← backend.findByIdWithCache environment listingId
  let startOfToday := zone.startOfDay environment.now
  let freePeriods := listing.availability.filterMap (clipAtToday startOfToday)
  if freePeriods.isEmpty then
    return []
  let overlappingBookings := backend.blockingBookings listingId excludeBookingId
  return overlappingBookings.foldl (subtractBooking startOfToday) freePeriods

/-- The period a request asks for under a tariff. -/
def requestedPeriod (zone : Zone) (startDate : Int)
    (pricePeriod : ListingPeriodType) (periodsCount : PeriodsCount) : PeriodDto :=
  ⟨startDate, calculateEndDate zone startDate pricePeriod periodsCount.count⟩

/-- The entity `create` saves under the selected tariff. -/
def draftBooking (zone : Zone) (renterId : Nat) (dto : CreateBookingDto)
    (listing : Listing) (pricing : ListingPricing) : BookingDraft where
  listingId := listing.id
  renterId := renterId
  price := pricing.price
  pricePeriod := pricing.pricePeriod
  period := requestedPeriod zone dto.startDate dto.pricePeriod dto.periodsCount
  totalPrice := pricing.price * dto.periodsCount.count

/-- The tariff of an update: the price is read again from the listing only
when the tariff changes. -/
def changeTariff (loaded : LoadedBooking) (pricePeriod : ListingPeriodType) :
    Except HttpException Booking :=
  if loaded.booking.pricePeriod ≠ pricePeriod then
    match selectPricing loaded.listing pricePeriod with
    | .error error => .error error
    | .ok pricing =>
        .ok { loaded.booking with
          pricePeriod := pricing.pricePeriod
          price := pricing.price }
  else
    .ok loaded.booking

/-- The entity `updatePeriod` saves, from the entity with its tariff changed. -/
def changePeriod (zone : Zone) (dto : UpdateBookingPeriodDto)
    (booking : Booking) : Booking :=
  { booking with
    period := requestedPeriod zone dto.startDate booking.pricePeriod
      dto.periodsCount
    totalPrice := booking.price * dto.periodsCount.count }

def findById (bookingId : Nat) : Service LoadedBooking :=
  Fallible.reads fun backend => backend.findById bookingId

/-- `bookingRepository.save` of a new entity; the row's id comes back. -/
def insert (draft : BookingDraft) : Service Nat :=
  Fallible.updates fun backend =>
    match backend.insertBooking draft with
    | .error error => .error error
    | .ok after => .ok (backend.bookings.nextId, after)

/-- `bookingRepository.save` of a loaded entity. -/
def save (booking : Booking) : Service Unit :=
  Fallible.updates fun backend =>
    match backend.saveBooking booking with
    | .error error => .error error
    | .ok after => .ok ((), after)

def create (zone : Zone) (environment : Environment) (renterId : Nat)
    (dto : CreateBookingDto) : Service LoadedBooking := do
  let listing ← Fallible.reads fun backend =>
    backend.findByIdWithCache environment dto.listingId
  Fallible.lift (checkListing renterId listing)
  Fallible.lift (checkWholeMinute zone dto.startDate)
  let period := requestedPeriod zone dto.startDate dto.pricePeriod dto.periodsCount
  Fallible.reads fun backend => validateBookingDates backend environment.now
    period listing.id listing.availability none
  let pricing ← Fallible.lift (selectPricing listing dto.pricePeriod)
  let bookingId ← insert (draftBooking zone renterId dto listing pricing)
  findById bookingId

def updatePeriod (zone : Zone) (environment : Environment) (bookingId : Nat)
    (dto : UpdateBookingPeriodDto) : Service LoadedBooking := do
  Fallible.lift (checkWholeMinute zone dto.startDate)
  let loaded ← findById bookingId
  let booking ← Fallible.lift (changeTariff loaded dto.pricePeriod)
  let updated := changePeriod zone dto booking
  Fallible.reads fun backend => validateBookingDates backend environment.now
    updated.period loaded.listing.id loaded.listing.availability (some bookingId)
  save updated
  return ⟨updated, loaded.listing⟩

def updateStatus (bookingId : Nat) (newStatus : BookingStatus) :
    Service LoadedBooking := do
  let loaded ← findById bookingId
  save (loaded.withStatus newStatus).booking
  return loaded.withStatus newStatus

def delete (bookingId : Nat) : Service Unit :=
  Fallible.updates fun backend => .ok ((), backend.removeBooking bookingId)

end BookingsService

end SpareSpace
