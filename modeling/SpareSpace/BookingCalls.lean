import SpareSpace.BookingJobs
import SpareSpace.InterleavedCalls

/-!
# Booking calls one repository call at a time

The requests and jobs on bookings as programs whose steps are the single
repository calls and the whole wallet transactions, so that any number of them
can interleave.  Each program point names the call about to be made and
carries the values the call has read so far; computations between two
repository calls belong to the step before them.  A call that runs without
interference computes what the handler or the processor computes.
-/

namespace SpareSpace

open InterleavedCalls

/-- The five writers of a booking's status. -/
inductive StatusChange
  | resolve (resolution : Resolution) (userId : Nat)
  | start
  | complete
  deriving DecidableEq, Repr

namespace StatusChange

/-- The status a change asks for before it proceeds. -/
def expected : StatusChange → BookingStatus
  | resolve _ _ => .pending
  | start => .confirmed
  | complete => .active

/-- The status a change writes. -/
def newStatus : StatusChange → BookingStatus
  | resolve resolution _ => resolution.newStatus
  | start => .active
  | complete => .completed

/-- The checks on the first read: a request throws, a job returns early. -/
def admits (change : StatusChange) (now : Int) (loaded : LoadedBooking) :
    Except HttpException Bool :=
  match change with
  | resolve resolution userId =>
      match resolution.guard userId now loaded with
      | .error error => .error error
      | .ok () => .ok true
  | start => .ok (decide (loaded.booking.status = .confirmed))
  | complete =>
      .ok (decide (loaded.booking.status = .active ∧
        loaded.booking.period.stop ≤ now))

/-- The wallet transaction after the status write: a refund of what the
status update saved, or a payout of what the first read returned. -/
def operation (change : StatusChange) (guard saved : LoadedBooking) :
    Option WalletOperation :=
  match change with
  | resolve resolution _ => BookingsHandler.refund resolution saved
  | start => none
  | complete =>
      some (WalletsService.processBookingPayout guard.listing.userId
        guard.booking.id guard.booking.totalPrice)

/-- What follows the wallet transaction: events, signals and queues. -/
def conclude (change : StatusChange) (environment : Environment)
    (guard saved : LoadedBooking) (backend : Backend) : Backend :=
  match change with
  | resolve resolution _ =>
      BookingsListener.handle environment backend (resolution.event saved)
  | start => backend.addCompletionJob environment guard.booking
  | complete =>
      (backend.signal guard.booking.renterId .bookingCompleted guard.booking
        none).signal guard.listing.userId .bookingCompleted guard.booking none

end StatusChange

/-- The program points of all calls. -/
inductive Call
  | createHasRole (userId : Nat) (dto : CreateBookingDto)
  | createFindListing (userId : Nat) (dto : CreateBookingDto)
  | createContained (userId : Nat) (dto : CreateBookingDto) (listing : Listing)
  | createExists (userId : Nat) (dto : CreateBookingDto) (listing : Listing)
  | createSave (draft : BookingDraft)
  | createReload (userId bookingId : Nat)
  | createPay (userId : Nat) (loaded : LoadedBooking)
  | createDelete (loaded : LoadedBooking) (error : HttpException)
  | createAnnounce (loaded : LoadedBooking)
  | updateGuard (userId bookingId : Nat) (dto : UpdateBookingPeriodDto)
  | updateFind (userId : Nat) (guard : LoadedBooking)
      (dto : UpdateBookingPeriodDto)
  | updateContained (userId : Nat) (guard loaded : LoadedBooking)
      (updated : Booking)
  | updateExists (userId : Nat) (guard loaded : LoadedBooking)
      (updated : Booking)
  | updateSave (userId : Nat) (guard loaded : LoadedBooking)
      (updated : Booking)
  | updateSettle (userId : Nat) (guard updated : LoadedBooking)
  | updateAnnounce (guard updated : LoadedBooking)
  | changeGuard (change : StatusChange) (bookingId : Nat)
  | changeFind (change : StatusChange) (guard : LoadedBooking)
  | changeSave (change : StatusChange) (guard loaded : LoadedBooking)
  | changeSettle (change : StatusChange) (guard saved : LoadedBooking)
  | changeAnnounce (change : StatusChange) (guard saved : LoadedBooking)
  | editListing (listing : Listing)
  | deposit (userId : Nat) (amount : Int)
  | withdraw (userId : Nat) (amount : Int)
  | finished (settled : Option (StatusChange × Nat))
  | failed (error : HttpException)
  deriving DecidableEq

namespace Call

/-- Calls begin at the first program point of a request, a job, a listing edit
or a wallet operation. -/
def begins : Call → Bool
  | createHasRole .. | updateGuard .. | changeGuard .. | editListing ..
  | deposit .. | withdraw .. => true
  | _ => false

/-- The price difference `updatePeriod` settles. -/
def priceDiff (guard updated : LoadedBooking) : Int :=
  (updated.booking.totalPrice : Int) - guard.booking.totalPrice

/-- Where that difference lies, as the call computes it. -/
def residue (guard updated : LoadedBooking) : Ordering :=
  BookingsHandler.residue guard.booking updated.booking

/-- Continue with the value of a check or read, or fail with its exception. -/
def proceed {α : Type} (backend : Backend) (result : Except HttpException α)
    (rest : α → Call) : Option (Backend × Call) :=
  match result with
  | .error error => some (backend, failed error)
  | .ok value => some (backend, rest value)

/-- Continue in the state a write left, or fail in the state before it. -/
def proceedIn (backend : Backend) (result : Except HttpException Backend)
    (rest : Call) : Option (Backend × Call) :=
  match result with
  | .error error => some (backend, failed error)
  | .ok after => some (after, rest)

/-- One atomic step of a call. -/
def next (zone : Zone) (environment : Environment) (backend : Backend) :
    Call → Option (Backend × Call)
  | createHasRole userId dto =>
      proceed backend (BookingsHandler.checkRole backend userId) fun _ =>
        createFindListing userId dto
  | createFindListing userId dto =>
      proceed backend
        (do
          let listing ← backend.findByIdWithCache environment dto.listingId
          BookingsService.checkListing userId listing
          BookingsService.checkWholeMinute zone dto.startDate
          return listing)
        (createContained userId dto)
  | createContained userId dto listing =>
      proceed backend
        (BookingsService.validateWithinSlots environment.now
          (BookingsService.requestedPeriod zone dto.startDate dto.pricePeriod
            dto.periodsCount) listing.availability)
        fun _ => createExists userId dto listing
  | createExists userId dto listing =>
      proceed backend
        (do
          BookingsService.validateNoOverlap backend
            (BookingsService.requestedPeriod zone dto.startDate dto.pricePeriod
              dto.periodsCount) listing.id none
          BookingsService.selectPricing listing dto.pricePeriod)
        fun pricing =>
          createSave (BookingsService.draftBooking zone userId dto listing pricing)
  | createSave draft =>
      proceedIn backend (backend.insertBooking draft)
        (createReload draft.renterId backend.bookings.nextId)
  | createReload userId bookingId =>
      proceed backend (backend.findById bookingId) (createPay userId)
  | createPay userId loaded =>
      match backend.transact environment.walletAborts
          (WalletsService.processBookingPayment userId loaded.booking.id
            loaded.booking.totalPrice) with
      | .error error => some (backend, createDelete loaded error)
      | .ok after => some (after, createAnnounce loaded)
  | createDelete loaded error =>
      some (backend.removeBooking loaded.booking.id, failed error)
  | createAnnounce loaded =>
      some (BookingsListener.handle environment backend (.created loaded),
        finished none)
  | updateGuard userId bookingId dto =>
      proceed backend
        (do
          let loaded ← backend.findById bookingId
          BookingsHandler.guardUpdate userId loaded
          BookingsService.checkWholeMinute zone dto.startDate
          return loaded)
        fun loaded => updateFind userId loaded dto
  | updateFind userId guard dto =>
      proceed backend
        (do
          let loaded ← backend.findById guard.booking.id
          let booking ← BookingsService.changeTariff loaded dto.pricePeriod
          return (loaded, BookingsService.changePeriod zone dto booking))
        fun (loaded, updated) => updateContained userId guard loaded updated
  | updateContained userId guard loaded updated =>
      proceed backend
        (BookingsService.validateWithinSlots environment.now updated.period
          loaded.listing.availability)
        fun _ => updateExists userId guard loaded updated
  | updateExists userId guard loaded updated =>
      proceed backend
        (BookingsService.validateNoOverlap backend updated.period
          loaded.listing.id (some guard.booking.id))
        fun _ => updateSave userId guard loaded updated
  | updateSave userId guard loaded updated =>
      proceedIn backend (backend.saveBooking updated)
        (updateSettle userId guard ⟨updated, loaded.listing⟩)
  | updateSettle userId guard updated =>
      proceedIn backend
        (BookingsHandler.transactIfAny environment backend
          (BookingsHandler.settlement userId guard.booking.id
            (priceDiff guard updated) (residue guard updated)))
        (updateAnnounce guard updated)
  | updateAnnounce guard updated =>
      some (BookingsListener.handle environment backend
        (.periodUpdated updated guard.booking.period), finished none)
  | changeGuard change bookingId =>
      match (do
          let loaded ← backend.findById bookingId
          let admitted ← change.admits environment.now loaded
          return (loaded, admitted)) with
      | .error error => some (backend, failed error)
      | .ok (_, false) => some (backend, finished none)
      | .ok (loaded, true) => some (backend, changeFind change loaded)
  | changeFind change guard =>
      proceed backend (backend.findById guard.booking.id)
        (changeSave change guard)
  | changeSave change guard loaded =>
      proceedIn backend
        (backend.saveBooking (loaded.withStatus change.newStatus).booking)
        (changeSettle change guard (loaded.withStatus change.newStatus))
  | changeSettle change guard saved =>
      proceedIn backend
        (BookingsHandler.transactIfAny environment backend
          (change.operation guard saved))
        (changeAnnounce change guard saved)
  | changeAnnounce change guard saved =>
      some (change.conclude environment guard saved backend,
        finished (some (change, guard.booking.id)))
  | editListing listing => some (backend.saveListing listing, finished none)
  | deposit userId amount =>
      proceedIn backend (backend.transact environment.walletAborts
        (WalletsService.deposit userId amount)) (finished none)
  | withdraw userId amount =>
      proceedIn backend (backend.transact environment.walletAborts
        (WalletsService.withdraw userId amount)) (finished none)
  | finished _ | failed _ => none

end Call

/-- All booking calls interleaved over one back end. -/
def bookingSystem (zone : Zone) : System Backend Call Environment where
  starts := Call.begins
  next environment backend call := call.next zone environment backend

end SpareSpace
