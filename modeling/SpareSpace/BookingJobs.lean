import SpareSpace.BookingsHandler

/-!
# The booking jobs and their attempts

The processors of the `booking-start` and `booking-completion` queues.  Every
call a processor makes may fail in an attempt; an attempt that throws is
followed by the next one, and an attempt that returns is the last.
-/

namespace SpareSpace

/-- A call that the environment may make fail before it takes effect. -/
def unlessFails {α : Type} (fails : Bool) (call : Service α) : Service α :=
  if fails then throw (.database "call failed") else call

@[simp]
theorem unlessFails_false {α : Type} (call : Service α) :
    unlessFails false call = call :=
  rfl

/-- The calls of `BookingStartProcessor.process` that fail in an attempt. -/
structure StartFaults where
  findById : Bool
  updateStatus : Bool
  add : Bool
  deriving DecidableEq, Repr

/-- The calls of `BookingCompletionProcessor.process` that fail in an
attempt; it emits one signal to the renter and one to the owner. -/
structure CompletionFaults where
  findById : Bool
  updateStatus : Bool
  processBookingPayout : Bool
  emitRenter : Bool
  emitOwner : Bool
  deriving DecidableEq, Repr

def StartFaults.none : StartFaults :=
  ⟨false, false, false⟩

def CompletionFaults.none : CompletionFaults :=
  ⟨false, false, false, false, false⟩

/-- `eventEmitter.emit('notification.signal', …)`. -/
def emitSignal (userId : Nat) (type : NotificationType) (booking : Booking) :
    Service Unit :=
  Fallible.updates fun backend => .ok ((), backend.signal userId type booking none)

/-- Schedule the completion job at the end of the booking's period. -/
def Backend.addCompletionJob (environment : Environment) (backend : Backend)
    (booking : Booking) : Backend :=
  backend.withCompletionQueue (backend.completionQueue.add
    ⟨booking.id, scheduledAt environment.now booking.period.stop⟩)

def addCompletionJob (environment : Environment) (booking : Booking) :
    Service Unit :=
  Fallible.updates fun backend =>
    .ok ((), backend.addCompletionJob environment booking)

def BookingStartProcessor.process (environment : Environment)
    (faults : StartFaults) (bookingId : Nat) : Service Unit := do
  let loaded ← unlessFails faults.findById (BookingsService.findById bookingId)
  if loaded.booking.status ≠ .confirmed then
    return ()
  let _ ← unlessFails faults.updateStatus
    (BookingsService.updateStatus bookingId .active)
  unlessFails faults.add (addCompletionJob environment loaded.booking)

def BookingCompletionProcessor.process (environment : Environment)
    (faults : CompletionFaults) (bookingId : Nat) : Service Unit := do
  let loaded ← unlessFails faults.findById (BookingsService.findById bookingId)
  if loaded.booking.status ≠ .active then
    return ()
  if loaded.booking.period.stop > environment.now then
    return ()
  let _ ← unlessFails faults.updateStatus
    (BookingsService.updateStatus bookingId .completed)
  unlessFails faults.processBookingPayout
    (WalletsService.transact environment
      (WalletsService.processBookingPayout loaded.listing.userId
        loaded.booking.id loaded.booking.totalPrice))
  unlessFails faults.emitRenter
    (emitSignal loaded.booking.renterId .bookingCompleted loaded.booking)
  unlessFails faults.emitOwner
    (emitSignal loaded.listing.userId .bookingCompleted loaded.booking)

/-- One attempt of a completion job: what it finds outside the tables, and the
calls that fail in it. -/
structure CompletionAttempt where
  environment : Environment
  faults : CompletionFaults

namespace CompletionAttempt

def process (bookingId : Nat) (attempt : CompletionAttempt) : Service Unit :=
  BookingCompletionProcessor.process attempt.environment attempt.faults bookingId

/-- The attempt gets past its read and its status update. -/
def Reaches (attempt : CompletionAttempt) : Prop :=
  attempt.faults.findById = false ∧ attempt.faults.updateStatus = false

instance (attempt : CompletionAttempt) : Decidable attempt.Reaches :=
  inferInstanceAs (Decidable (_ ∧ _))

/-- The payout call fails, or its transaction is aborted. -/
def PayoutFails (attempt : CompletionAttempt) : Prop :=
  attempt.faults.processBookingPayout = true ∨
    attempt.environment.walletAborts = true

/-- No call of the attempt fails. -/
def Faultless (attempt : CompletionAttempt) : Prop :=
  attempt.faults = .none ∧ attempt.environment.walletAborts = false

theorem Faultless.reaches {attempt : CompletionAttempt}
    (faultless : attempt.Faultless) : attempt.Reaches := by
  rw [Reaches, faultless.1]
  exact ⟨rfl, rfl⟩

end CompletionAttempt

/-- The booking of `Backend.sampleBooked`, confirmed and started. -/
def Backend.sampleActive : Backend :=
  (Fallible.run (do
    let _ ← BookingsHandler.confirm (.at 0) 1 1
    BookingStartProcessor.process (.at 0) .none 1) Backend.sampleBooked).2

def sampleActiveBooking : Booking where
  id := 1
  listingId := 1
  renterId := 2
  price := 300
  pricePeriod := .hour
  period := ⟨0, 3600000⟩
  totalPrice := 300
  status := .active

end SpareSpace
