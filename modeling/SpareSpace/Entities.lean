import SpareSpace.KeyedTable
import SpareSpace.HalfOpenSpans

/-!
# Entities, enumerations and requests

The rows of the listing, booking, wallet and transaction tables, the
enumerations they use, the request bodies of the booking endpoints and the
exceptions the services throw.  Columns that no modelled function reads
(titles, addresses, photographs, ratings, time stamps) are left out.

Dates are time values, that is milliseconds since the epoch.  Prices, balances
and amounts are exact decimals with two digits after the point, counted in
hundredths.
-/

namespace SpareSpace

/-- A `PeriodDto`, and the dates of a stored `tstzrange` with bounds `[)`. -/
abbrev PeriodDto := Span Int

inductive BookingStatus
  | pending
  | cancelled
  | rejected
  | confirmed
  | active
  | completed
  deriving DecidableEq, Repr

/-- The statuses named by `In([PENDING, CONFIRMED, ACTIVE])`: the booking
occupies its period and its price is held. -/
def BookingStatus.blocking : BookingStatus → Bool
  | .pending | .confirmed | .active => true
  | .cancelled | .rejected | .completed => false

inductive ListingStatus
  | draft
  | pendingApproval
  | active
  | rejected
  | inactive
  deriving DecidableEq, Repr

inductive ListingPeriodType
  | hour
  | day
  | week
  | month
  deriving DecidableEq, Repr

/-- The enumeration's text, as error messages show it. -/
def ListingPeriodType.text : ListingPeriodType → String
  | .hour => "HOUR"
  | .day => "DAY"
  | .week => "WEEK"
  | .month => "MONTH"

inductive UserRoleType
  | renter
  | landlord
  | admin
  deriving DecidableEq, Repr

inductive TransactionType
  | deposit
  | withdrawal
  | bookingPayment
  | bookingPayout
  | refund
  | commission
  deriving DecidableEq, Repr

inductive TransactionStatus
  | pending
  | success
  | failed
  deriving DecidableEq, Repr

/-- The notification types the booking events use. -/
inductive NotificationType
  | bookingNew
  | bookingCancelled
  | bookingConfirmed
  | bookingRejected
  | bookingCompleted
  | bookingPeriodUpdated
  deriving DecidableEq, Repr

/-- The exceptions of `@nestjs/common` that the services throw; `database`
stands for an error the database reports, such as a violated foreign key or a
transaction it aborts. -/
inductive HttpException
  | badRequest (message : String)
  | unauthorized (message : String)
  | notFound (message : String)
  | conflict (message : String)
  | database (message : String)
  deriving DecidableEq, Repr

/-- A tariff of a listing.  `PricingDto` admits no negative price. -/
structure ListingPricing where
  price : Nat
  pricePeriod : ListingPeriodType
  deriving DecidableEq, Repr

structure Listing where
  id : Nat
  userId : Nat
  pricings : List ListingPricing
  availability : List PeriodDto
  status : ListingStatus
  deriving DecidableEq, Repr

structure Booking where
  id : Nat
  listingId : Nat
  renterId : Nat
  price : Nat
  pricePeriod : ListingPeriodType
  period : PeriodDto
  totalPrice : Nat
  status : BookingStatus
  deriving DecidableEq, Repr

/-- A booking with the relation `listing` joined in, as `findById` loads it. -/
structure LoadedBooking where
  booking : Booking
  listing : Listing
  deriving DecidableEq, Repr

/-- The loaded entity with another status. -/
def LoadedBooking.withStatus (loaded : LoadedBooking)
    (newStatus : BookingStatus) : LoadedBooking :=
  { loaded with booking := { loaded.booking with status := newStatus } }

structure Wallet where
  id : Nat
  userId : Nat
  balance : Int
  deriving DecidableEq, Repr

structure Transaction where
  id : Nat
  userId : Nat
  bookingId : Option Nat
  type : TransactionType
  amount : Int
  status : TransactionStatus
  description : String
  deriving DecidableEq, Repr

/-- The number of rented periods a request may name. -/
structure PeriodsCount where
  count : Nat
  positive : 1 ≤ count
  bounded : count ≤ 100
  deriving DecidableEq

def PeriodsCount.one : PeriodsCount :=
  ⟨1, by decide, by decide⟩

def PeriodsCount.two : PeriodsCount :=
  ⟨2, by decide, by decide⟩

structure CreateBookingDto where
  listingId : Nat
  pricePeriod : ListingPeriodType
  startDate : Int
  periodsCount : PeriodsCount
  deriving DecidableEq

structure UpdateBookingPeriodDto where
  pricePeriod : ListingPeriodType
  startDate : Int
  periodsCount : PeriodsCount
  deriving DecidableEq

/-- What a listener asks the notification service to send: the user to be
told, the type, and what the payload says about the booking. -/
structure NotificationSignal where
  userId : Nat
  type : NotificationType
  referenceId : Nat
  listingId : Nat
  period : PeriodDto
  price : Nat
  prevPeriod : Option PeriodDto
  deriving DecidableEq, Repr

/-- A job of the booking queues.  The job id is `start-{id}` or `complete-{id}`
by queue, so the booking id identifies it within its queue. -/
structure Job where
  bookingId : Nat
  runAt : Int
  deriving DecidableEq, Repr

/-- The jobs waiting in a queue. -/
abbrev JobQueue := List Job

/-- Adding a job whose id is already in the queue has no effect. -/
def JobQueue.add (queue : JobQueue) (job : Job) : JobQueue :=
  if queue.any (fun waiting => waiting.bookingId == job.bookingId) then
    queue
  else
    queue ++ [job]

def JobQueue.remove (queue : JobQueue) (bookingId : Nat) : JobQueue :=
  queue.filter fun waiting => waiting.bookingId != bookingId

/-- Some waiting job is the booking's. -/
def JobQueue.Holds (queue : JobQueue) (bookingId : Nat) : Prop :=
  ∃ job ∈ queue, job.bookingId = bookingId

namespace JobQueue

variable {queue : JobQueue} {job waiting : Job} {bookingId other : Nat}

theorem any_iff_holds :
    queue.any (fun waiting => waiting.bookingId == bookingId) = true ↔
      queue.Holds bookingId := by
  simp [Holds]

theorem mem_add (present : waiting ∈ queue.add job) :
    waiting ∈ queue ∨ (waiting = job ∧ ¬ queue.Holds job.bookingId) := by
  unfold add at present
  split at present
  · exact Or.inl present
  · next absent =>
      rw [any_iff_holds] at absent
      rcases List.mem_append.mp present with old | new
      · exact Or.inl old
      · exact Or.inr ⟨List.mem_singleton.mp new, absent⟩

theorem holds_add :
    (queue.add job).Holds bookingId ↔
      queue.Holds bookingId ∨ job.bookingId = bookingId := by
  unfold add
  split
  · next present =>
      rw [any_iff_holds] at present
      constructor
      · exact Or.inl
      · rintro (held | rfl)
        · exact held
        · exact present
  · simp [Holds, or_and_right, exists_or]

theorem mem_remove :
    waiting ∈ queue.remove bookingId ↔
      waiting ∈ queue ∧ waiting.bookingId ≠ bookingId := by
  simp [remove]

theorem holds_remove (different : other ≠ bookingId) :
    (queue.remove bookingId).Holds other ↔ queue.Holds other := by
  unfold Holds
  simp only [mem_remove]
  constructor
  · rintro ⟨waiting, ⟨present, _⟩, named⟩
    exact ⟨waiting, present, named⟩
  · rintro ⟨waiting, present, rfl⟩
    exact ⟨waiting, ⟨present, different⟩, rfl⟩

end JobQueue

end SpareSpace
