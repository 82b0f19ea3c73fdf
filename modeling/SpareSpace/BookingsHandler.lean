import SpareSpace.BookingsService
import SpareSpace.DoublePrices

/-!
# The booking handler and its listener

The five requests on bookings: each checks who asks and the booking's state,
calls the booking service, moves money in a wallet transaction of its own and
emits an event.  The listener turns an event into a notification signal and
keeps the queue of start jobs.
-/

namespace SpareSpace

/-- The events of the handler, with the booking they carry. -/
inductive BookingEvent
  | created (loaded : LoadedBooking)
  | periodUpdated (loaded : LoadedBooking) (prevPeriod : PeriodDto)
  | confirmed (loaded : LoadedBooking)
  | cancelled (loaded : LoadedBooking)
  | rejected (loaded : LoadedBooking)
  deriving DecidableEq

/-- When a job added now with the delay `Math.max(0, date - now)` may run. -/
def scheduledAt (now date : Int) : Int :=
  now + max 0 (date - now)

theorem le_scheduledAt_date (now date : Int) : date ≤ scheduledAt now date := by
  unfold scheduledAt
  omega

namespace BookingsListener

variable (environment : Environment) (backend : Backend)

def handleBookingCreated (loaded : LoadedBooking) : Backend :=
  backend.signal loaded.listing.userId .bookingNew loaded.booking none

def handleBookingPeriodUpdated (loaded : LoadedBooking)
    (prevPeriod : PeriodDto) : Backend :=
  backend.signal loaded.listing.userId .bookingPeriodUpdated loaded.booking
    (some prevPeriod)

def handleBookingConfirmed (loaded : LoadedBooking) : Backend :=
  let signalled :=
    backend.signal loaded.booking.renterId .bookingConfirmed loaded.booking none
  signalled.withStartQueue (signalled.startQueue.add
    ⟨loaded.booking.id, scheduledAt environment.now loaded.booking.period.start⟩)

def handleBookingCancelled (loaded : LoadedBooking) : Backend :=
  let signalled :=
    backend.signal loaded.listing.userId .bookingCancelled loaded.booking none
  signalled.withStartQueue (signalled.startQueue.remove loaded.booking.id)

def handleBookingRejected (loaded : LoadedBooking) : Backend :=
  let signalled :=
    backend.signal loaded.booking.renterId .bookingRejected loaded.booking none
  signalled.withStartQueue (signalled.startQueue.remove loaded.booking.id)

/-- The handler registered for an event. -/
def handle : BookingEvent → Backend
  | .created loaded => handleBookingCreated backend loaded
  | .periodUpdated loaded prevPeriod =>
      handleBookingPeriodUpdated backend loaded prevPeriod
  | .confirmed loaded => handleBookingConfirmed environment backend loaded
  | .cancelled loaded => handleBookingCancelled backend loaded
  | .rejected loaded => handleBookingRejected backend loaded

variable {environment backend} in
/-- A handled event sends a signal and may change the queue of start jobs. -/
theorem handle_frame (event : BookingEvent) :
    (handle environment backend event).bookings = backend.bookings ∧
      (handle environment backend event).ledger = backend.ledger := by
  cases event <;> exact ⟨rfl, rfl⟩

end BookingsListener

/-- The three requests that resolve a pending booking. -/
inductive Resolution
  | cancel
  | confirm
  | reject
  deriving DecidableEq, Repr

namespace Resolution

/-- The only user who may make the request. -/
def party (loaded : LoadedBooking) : Resolution → Nat
  | cancel => loaded.booking.renterId
  | confirm | reject => loaded.listing.userId

def wrongUser : Resolution → String
  | cancel => "Only renter can cancel"
  | confirm => "Only landlord can confirm"
  | reject => "Only landlord can reject"

def notPending : Resolution → String
  | cancel => "Only pending booking can be cancelled"
  | confirm => "Only pending booking can be confirmed"
  | reject => "Only pending booking can be rejected"

def newStatus : Resolution → BookingStatus
  | cancel => .cancelled
  | confirm => .confirmed
  | reject => .rejected

/-- Whether the request pays the held price back to the renter. -/
def refunds : Resolution → Bool
  | cancel | reject => true
  | confirm => false

def event (loaded : LoadedBooking) : Resolution → BookingEvent
  | cancel => .cancelled loaded
  | confirm => .confirmed loaded
  | reject => .rejected loaded

/-- The guards of the request, in the order of the source. -/
def guard (resolution : Resolution) (userId : Nat) (now : Int)
    (loaded : LoadedBooking) : Except HttpException Unit :=
  if userId ≠ resolution.party loaded then
    .error (.unauthorized resolution.wrongUser)
  else if loaded.booking.status ≠ .pending then
    .error (.badRequest resolution.notPending)
  else if loaded.booking.period.start < now then
    .error (.badRequest "Booking start date cannot be in past")
  else
    .ok ()

theorem guard_ok_iff {resolution : Resolution} {userId : Nat} {now : Int}
    {loaded : LoadedBooking} :
    resolution.guard userId now loaded = .ok () ↔
      userId = resolution.party loaded ∧ loaded.booking.status = .pending ∧
        now ≤ loaded.booking.period.start := by
  unfold guard
  by_cases user : userId = resolution.party loaded
  · by_cases status : loaded.booking.status = .pending
    · by_cases start : loaded.booking.period.start < now
      · simp [user, status, start]
      · simp [user, status, start, not_lt.mp start]
    · simp [user, status]
  · simp [user]

end Resolution

/-- A wallet transaction as a service call. -/
def WalletsService.transact (environment : Environment)
    (operation : WalletOperation) : Service Unit :=
  Fallible.updates fun backend =>
    match backend.transact environment.walletAborts operation with
    | .error error => .error error
    | .ok after => .ok ((), after)

/-- `findWalletByUser` as a service call. -/
def WalletsService.findWalletByUser (environment : Environment) (userId : Nat) :
    Service Wallet :=
  Fallible.updates fun backend =>
    if (backend.ledger.findWallet userId).isNone && environment.walletAborts then
      .error (.database "save failed")
    else
      .ok ((backend.ledger.findWalletByUser userId).2, backend.withWallet userId)

namespace BookingsHandler

/-- A user may exclude only an own booking of the listing. -/
def checkExcluded (userId listingId : Nat) (excluded : LoadedBooking) :
    Except HttpException Unit :=
  if excluded.booking.renterId ≠ userId then
    .error (.unauthorized "You can only exclude your own booking")
  else if excluded.listing.id ≠ listingId then
    .error (.badRequest
      "Excluded booking does not belong to the specified listing")
  else
    .ok ()

/-- `excludeBookingId` is falsy when it is absent or zero. -/
def getListingAvailability (zone : Zone) (environment : Environment)
    (backend : Backend) (userId listingId : Nat)
    (excludeBookingId : Option Nat) : Except HttpException (List PeriodDto) := do
  match excludeBookingId with
  | none | some 0 => pure ()
  | some id =>
      let excluded ← backend.findById id
      checkExcluded userId listingId excluded
  BookingsService.getListingAvailability zone environment backend listingId
    excludeBookingId

def emit (environment : Environment) (event : BookingEvent) : Service Unit :=
  Fallible.updates fun backend =>
    .ok ((), BookingsListener.handle environment backend event)

def checkRole (backend : Backend) (userId : Nat) : Except HttpException Unit :=
  if backend.hasRole userId .renter then
    .ok ()
  else
    .error (.unauthorized "Only renters can create bookings")

def create (zone : Zone) (environment : Environment) (userId : Nat)
    (createDto : CreateBookingDto) : Service LoadedBooking := do
  Fallible.reads fun backend => checkRole backend userId
  let loaded ← BookingsService.create zone environment userId createDto
  tryCatch
    (WalletsService.transact environment
      (WalletsService.processBookingPayment userId loaded.booking.id
        loaded.booking.totalPrice))
    fun error => do
      BookingsService.delete loaded.booking.id
      throw error
  emit environment (.created loaded)
  return loaded

/-- The guards of `updatePeriod`. -/
def guardUpdate (userId : Nat) (loaded : LoadedBooking) :
    Except HttpException Unit :=
  if userId ≠ loaded.booking.renterId then
    .error (.unauthorized "Only renter can update period")
  else if loaded.booking.status ≠ .pending then
    .error (.badRequest "Only pending booking can be updated")
  else
    .ok ()

theorem guardUpdate_ok_iff {userId : Nat} {loaded : LoadedBooking} :
    guardUpdate userId loaded = .ok () ↔
      userId = loaded.booking.renterId ∧ loaded.booking.status = .pending := by
  unfold guardUpdate
  by_cases user : userId = loaded.booking.renterId
  · by_cases status : loaded.booking.status = .pending
    · simp [user, status]
    · simp [user, status]
  · simp [user]

/-- The difference of the new price and the old as the code computes it.  The old price is
read from its column, and the new one is a product that has not been stored. -/
def computedDiff (previous updated : Booking) : Int :=
  DoublePrices.minus
    (DoublePrices.times (DoublePrices.ofHundredths updated.price)
      (updated.totalPrice / updated.price))
    (DoublePrices.ofHundredths previous.totalPrice)

/-- Where that difference lies from the difference in hundredths. -/
def residue (previous updated : Booking) : Ordering :=
  compare (computedDiff previous updated)
    (DoublePrices.ofDifference ((updated.totalPrice : Int) - previous.totalPrice))

/-- The wallet call that settles a price difference, if any.  A residue beside
an equal price settles nothing in hundredths, but is a call all the same. -/
def settlement (userId bookingId : Nat) (priceDiff : Int) (residue : Ordering) :
    Option WalletOperation :=
  if priceDiff > 0 ∨ priceDiff = 0 ∧ residue = .gt then
    some { WalletsService.processBookingPayment userId bookingId priceDiff with
      excess := residue == .gt }
  else if priceDiff < 0 ∨ priceDiff = 0 ∧ residue = .lt then
    some (WalletsService.processRefund userId bookingId |priceDiff|)
  else
    none

section Settlement

variable {userId bookingId : Nat} {priceDiff : Int} {residue : Ordering}
  {operation : WalletOperation}

theorem settlement_eq_none
    (absent : settlement userId bookingId priceDiff residue = none) :
    priceDiff = 0 := by
  unfold settlement at absent
  split at absent
  · contradiction
  · split at absent
    · contradiction
    · next notDearer notCheaper =>
        rw [not_or] at notDearer notCheaper
        omega

/-- A settlement is a payment of a difference that is not negative, or a refund
of one that is not positive. -/
theorem settlement_cases
    (present : settlement userId bookingId priceDiff residue = some operation) :
    (0 ≤ priceDiff ∧ operation =
      { WalletsService.processBookingPayment userId bookingId priceDiff with
        excess := residue == .gt }) ∨
    (priceDiff ≤ 0 ∧
      operation = WalletsService.processRefund userId bookingId (-priceDiff)) := by
  unfold settlement at present
  split at present
  · next dearer =>
      refine Or.inl ⟨by omega, (Option.some.inj present).symm⟩
  · split at present
    · next cheaper =>
        have notPositive : priceDiff ≤ 0 := by omega
        rw [abs_of_nonpos notPositive] at present
        exact Or.inr ⟨notPositive, (Option.some.inj present).symm⟩
    · contradiction

/-- A settlement moves the price difference out of the user's wallet. -/
theorem of_mem_settlement
    (present : operation ∈ settlement userId bookingId priceDiff residue) :
    operation.Internal ∧ operation.bookingId = some bookingId ∧
      operation.delta = -priceDiff := by
  rcases settlement_cases present with ⟨_, rfl⟩ | ⟨_, rfl⟩
  · exact ⟨⟨nofun, nofun⟩, rfl, rfl⟩
  · exact ⟨⟨nofun, nofun⟩, rfl, rfl⟩

/-- A refund among the settlements is of an amount that is not negative. -/
theorem settlement_credit
    (present : operation ∈ settlement userId bookingId priceDiff residue)
    (credit : operation.insufficient = none) : 0 ≤ operation.amount := by
  rcases settlement_cases present with ⟨_, rfl⟩ | ⟨notPositive, rfl⟩
  · contradiction
  · exact neg_nonneg.mpr notPositive

theorem userId_of_mem_settlement
    (present : operation ∈ settlement userId bookingId priceDiff residue) :
    operation.userId = userId := by
  rcases settlement_cases present with ⟨_, rfl⟩ | ⟨_, rfl⟩ <;> rfl

end Settlement

/-- The prices are of ten digits, and the new one is for at most a hundred periods. -/
structure FewDigits (previous updated : Booking) : Prop where
  periods : ∃ count, count ≤ 100 ∧ updated.totalPrice = updated.price * count
  price : updated.price < 10 ^ 10
  total : updated.totalPrice < 10 ^ 10
  previous : previous.totalPrice < 10 ^ 10

section Doubles

variable {previous updated : Booking}

/-- The doubles that the code subtracts, with the hundredths that they show. -/
theorem FewDigits.shows (few : FewDigits previous updated) :
    DoublePrices.Shows (10100 * 2 ^ 38)
        (DoublePrices.times (DoublePrices.ofHundredths updated.price)
          (updated.totalPrice / updated.price)) updated.totalPrice ∧
      DoublePrices.Shows (100 * 2 ^ 38) (DoublePrices.ofHundredths previous.totalPrice)
        previous.totalPrice := by
  refine ⟨?_, DoublePrices.ofHundredths_shows few.previous⟩
  obtain ⟨count, atMost, total⟩ := few.periods
  have quotient : updated.totalPrice / updated.price ≤ 100 :=
    Nat.div_le_of_le_mul (total.trans_le (Nat.mul_le_mul_left _ atMost))
  have product : updated.price * (updated.totalPrice / updated.price) = updated.totalPrice :=
    Nat.mul_div_cancel' ⟨count, total⟩
  have shown := DoublePrices.times_shows (product.trans_lt few.total) quotient few.price
  rwa [product] at shown

/-- The payment or the refund that settles a change of price is chosen by the sign of the
difference as the code computes it. -/
theorem settlement_eq_computed (few : FewDigits previous updated) (userId bookingId : Nat) :
    settlement userId bookingId ((updated.totalPrice : Int) - previous.totalPrice)
        (residue previous updated) =
      if computedDiff previous updated > 0 then
        some { WalletsService.processBookingPayment userId bookingId
            ((updated.totalPrice : Int) - previous.totalPrice) with
          excess := residue previous updated == .gt }
      else if computedDiff previous updated < 0 then
        some (WalletsService.processRefund userId bookingId
          |(updated.totalPrice : Int) - previous.totalPrice|)
      else
        none := by
  obtain ⟨shows, less⟩ := few.shows
  have positive := DoublePrices.minus_pos_iff shows less few.total few.previous
  have negative := DoublePrices.minus_neg_iff shows less few.total few.previous
  unfold settlement
  exact if_congr positive.symm rfl (if_congr negative.symm rfl rfl)

/-- A balance is too small for the payment when its double is less than the difference as
the code computes it. -/
theorem exceeds_iff_computed (few : FewDigits previous updated) (userId bookingId : Nat)
    {balance : Nat} (bounded : balance < 10 ^ 10) :
    WalletOperation.exceeds { WalletsService.processBookingPayment userId bookingId
          ((updated.totalPrice : Int) - previous.totalPrice) with
        excess := residue previous updated == .gt } balance = true ↔
      (DoublePrices.ofHundredths balance : Int) < computedDiff previous updated := by
  obtain ⟨shows, less⟩ := few.shows
  unfold computedDiff
  rw [DoublePrices.lt_minus_iff shows less few.total few.previous bounded]
  unfold WalletOperation.exceeds
  rw [Bool.or_eq_true, decide_eq_true_eq, Bool.and_eq_true, beq_iff_eq]
  exact or_congr_right (and_comm.trans (and_congr (beq_iff_eq.trans eq_comm) Iff.rfl))

end Doubles

/-- A wallet transaction that may be absent. -/
def transactIfAny (environment : Environment) (backend : Backend) :
    Option WalletOperation → Except HttpException Backend
  | none => .ok backend
  | some operation => backend.transact environment.walletAborts operation

/-- A wallet transaction writes the ledger only. -/
theorem transactIfAny_frame {environment : Environment}
    {backend after : Backend} {operation : Option WalletOperation}
    (settled : transactIfAny environment backend operation = .ok after) :
    after.bookings = backend.bookings ∧ after.listings = backend.listings ∧
      after.startQueue = backend.startQueue ∧
        after.completionQueue = backend.completionQueue := by
  cases operation with
  | none =>
      obtain rfl := Except.ok.inj settled
      exact ⟨rfl, rfl, rfl, rfl⟩
  | some operation =>
      obtain ⟨_, _, known, rfl⟩ := Backend.transact_ok_iff.mp settled
      exact ⟨rfl, rfl, rfl, rfl⟩

def settle (environment : Environment) :
    Option WalletOperation → Service Unit
  | none => pure ()
  | some operation => WalletsService.transact environment operation

def updatePeriod (zone : Zone) (environment : Environment)
    (userId bookingId : Nat) (updateDto : UpdateBookingPeriodDto) :
    Service LoadedBooking := do
  let loaded ← BookingsService.findById bookingId
  Fallible.lift (guardUpdate userId loaded)
  let updated ← BookingsService.updatePeriod zone environment bookingId updateDto
  let priceDiff := (updated.booking.totalPrice : Int) - loaded.booking.totalPrice
  settle environment (settlement userId loaded.booking.id priceDiff
    (residue loaded.booking updated.booking))
  emit environment (.periodUpdated updated loaded.booking.period)
  return updated

/-- The refund a resolution makes, from the entity its status update saved. -/
def refund (resolution : Resolution) (saved : LoadedBooking) :
    Option WalletOperation :=
  if resolution.refunds then
    some (WalletsService.processRefund saved.booking.renterId saved.booking.id
      saved.booking.totalPrice)
  else
    none

/-- A refund pays the price of the saved booking to its renter. -/
theorem of_mem_refund {resolution : Resolution} {saved : LoadedBooking}
    {operation : WalletOperation}
    (present : operation ∈ refund resolution saved) :
    resolution.refunds = true ∧ operation = WalletsService.processRefund
      saved.booking.renterId saved.booking.id saved.booking.totalPrice := by
  unfold refund at present
  split at present
  · next refunds => exact ⟨refunds, (Option.some.inj present).symm⟩
  · contradiction

/-- The common body of `cancel`, `confirm` and `reject`. -/
def resolve (resolution : Resolution) (environment : Environment)
    (userId bookingId : Nat) : Service LoadedBooking := do
  let loaded ← BookingsService.findById bookingId
  Fallible.lift (resolution.guard userId environment.now loaded)
  let saved ← BookingsService.updateStatus bookingId resolution.newStatus
  settle environment (refund resolution saved)
  emit environment (resolution.event saved)
  return saved

def cancel : Environment → Nat → Nat → Service LoadedBooking :=
  resolve .cancel

def confirm : Environment → Nat → Nat → Service LoadedBooking :=
  resolve .confirm

def reject : Environment → Nat → Nat → Service LoadedBooking :=
  resolve .reject

theorem run_settle (environment : Environment)
    (operation : Option WalletOperation) (backend : Backend) :
    Fallible.run (settle environment operation) backend =
      match transactIfAny environment backend operation with
      | .ok after => (.ok (), after)
      | .error error => (.error error, backend) := by
  cases operation with
  | none => rfl
  | some operation =>
      simp only [settle, WalletsService.transact, Fallible.run_updates,
        transactIfAny]
      cases backend.transact environment.walletAborts operation <;> rfl

end BookingsHandler

/-- The five requests on bookings. -/
inductive BookingRequest
  | create (createDto : CreateBookingDto)
  | updatePeriod (bookingId : Nat) (updateDto : UpdateBookingPeriodDto)
  | resolve (resolution : Resolution) (bookingId : Nat)
  deriving DecidableEq

/-- The handler's method for a request. -/
def BookingRequest.handle (zone : Zone) (environment : Environment)
    (userId : Nat) : BookingRequest → Service LoadedBooking
  | create createDto => BookingsHandler.create zone environment userId createDto
  | updatePeriod bookingId updateDto =>
      BookingsHandler.updatePeriod zone environment userId bookingId updateDto
  | resolve .cancel bookingId =>
      BookingsHandler.cancel environment userId bookingId
  | resolve .confirm bookingId =>
      BookingsHandler.confirm environment userId bookingId
  | resolve .reject bookingId =>
      BookingsHandler.reject environment userId bookingId

/-- User 2 has looked at the wallet, deposited 300 and spent it on the first hour of
the listing. -/
def Backend.sampleBooked : Backend :=
  (Fallible.run (do
    let _ ← WalletsService.findWalletByUser (.at 0) 2
    WalletsService.transact (.at 0) (WalletsService.deposit 2 300)
    BookingsHandler.create .utc (.at 0) 2 ⟨1, .hour, 0, .one⟩)
    Backend.sample).2

end SpareSpace
