import SpareSpace.BookingOutcomes
import SpareSpace.MoneyConservation
import Mathlib.Algebra.BigOperators.Group.List.Basic

/-!
# The escrow of one booking

The ledger rows of a booking say what was paid into its escrow and what was
returned, its row says what the escrow holds.  A creation that returns leaves
an escrow that holds no more than what was paid and not returned.
-/

namespace SpareSpace

namespace Transaction

/-- What a ledger row has paid into the escrow of a booking. -/
def paidInto (bookingId : Nat) (transaction : Transaction) : Int :=
  if transaction.bookingId = some bookingId ∧
      transaction.type = .bookingPayment then
    transaction.amount
  else
    0

/-- What a ledger row has returned from the escrow of a booking. -/
def returnedFrom (bookingId : Nat) (transaction : Transaction) : Int :=
  if transaction.bookingId = some bookingId ∧
      (transaction.type = .refund ∨ transaction.type = .bookingPayout) then
    transaction.amount
  else
    0

end Transaction

namespace WalletOperation

def paysInto (bookingId : Nat) (operation : WalletOperation) : Int :=
  (operation.entry 0).paidInto bookingId

def returnsFrom (bookingId : Nat) (operation : WalletOperation) : Int :=
  (operation.entry 0).returnedFrom bookingId

variable {bookingId : Nat} {operation : WalletOperation}

theorem moves_nothing_of_ne (elsewhere : operation.bookingId ≠ some bookingId) :
    operation.paysInto bookingId = 0 ∧ operation.returnsFrom bookingId = 0 := by
  simp [paysInto, returnsFrom, Transaction.paidInto, Transaction.returnedFrom,
    entry, elsewhere]

/-- An operation that returns money from a booking's escrow pays none in. -/
theorem of_returnsFrom_ne_zero (returning : operation.returnsFrom bookingId ≠ 0) :
    operation.bookingId = some bookingId ∧
      operation.type ≠ .bookingPayment ∧ operation.paysInto bookingId = 0 := by
  have both : operation.bookingId = some bookingId ∧
      (operation.type = .refund ∨ operation.type = .bookingPayout) := by
    by_contra neither
    exact returning (if_neg neither)
  obtain ⟨named, refund | payout⟩ := both
  · simp [named, refund, paysInto, Transaction.paidInto, entry]
  · simp [named, payout, paysInto, Transaction.paidInto, entry]

end WalletOperation

namespace Ledger

/-- The total of the `BOOKING_PAYMENT` rows of a booking. -/
def paidInto (ledger : Ledger) (bookingId : Nat) : Int :=
  ledger.transactions.total (Transaction.paidInto bookingId)

/-- The total of the `REFUND` and `BOOKING_PAYOUT` rows of a booking. -/
def returnedFrom (ledger : Ledger) (bookingId : Nat) : Int :=
  ledger.transactions.total (Transaction.returnedFrom bookingId)

variable {ledger : Ledger} {found : Option Wallet}
  {operation : WalletOperation} {bookingId : Nat}

theorem paidInto_posted :
    (ledger.posted found operation).paidInto bookingId =
      ledger.paidInto bookingId + operation.paysInto bookingId :=
  ledger.transactions.total_insert _ operation.entry operation.entry_id

theorem returnedFrom_posted :
    (ledger.posted found operation).returnedFrom bookingId =
      ledger.returnedFrom bookingId + operation.returnsFrom bookingId :=
  ledger.transactions.total_insert _ operation.entry operation.entry_id

end Ledger

namespace Backend

variable {backend after : Backend} {bookingId : Nat}

/-- The ledger of a booking's escrow after a step that pays and returns. -/
def LedgerMoves (backend after : Backend) (bookingId : Nat) (pays returns : Int) :
    Prop :=
  after.ledger.paidInto bookingId = backend.ledger.paidInto bookingId + pays ∧
    after.ledger.returnedFrom bookingId =
      backend.ledger.returnedFrom bookingId + returns

theorem LedgerMoves.of_ledger (same : after.ledger = backend.ledger) :
    LedgerMoves backend after bookingId 0 0 := by
  simp [LedgerMoves, same]

theorem moves_transact (bookingId : Nat) {aborts : Bool}
    {operation : WalletOperation}
    (committed : backend.transact aborts operation = .ok after) :
    LedgerMoves backend after bookingId (operation.paysInto bookingId)
      (operation.returnsFrom bookingId) := by
  obtain ⟨_, _, known, rfl⟩ := transact_ok_iff.mp committed
  exact ⟨Ledger.paidInto_posted, Ledger.returnedFrom_posted⟩

theorem moves_transact_elsewhere {aborts : Bool} {operation : WalletOperation}
    (committed : backend.transact aborts operation = .ok after)
    (elsewhere : operation.bookingId ≠ some bookingId) :
    LedgerMoves backend after bookingId 0 0 := by
  obtain ⟨pays, returns⟩ :=
    WalletOperation.moves_nothing_of_ne elsewhere
  simpa [pays, returns] using moves_transact bookingId committed

/-- Deleting another booking leaves the ledger rows of this one. -/
theorem moves_removeBooking {other : Nat} (different : other ≠ bookingId) :
    LedgerMoves backend (backend.removeBooking other) bookingId 0 0 := by
  have kept (weight : Transaction → Int)
      (blind : ∀ row, weight (forget other row) = weight row) :
      (backend.removeBooking other).ledger.transactions.total weight =
        backend.ledger.transactions.total weight := by
    simp only [KeyedTable.total, removeBooking, KeyedTable.mapRows,
      List.map_map]
    exact congrArg List.sum (List.map_congr_left fun row _ => blind row)
  constructor
  · rw [add_zero]
    refine kept _ fun row => ?_
    unfold forget
    split
    · next named => simp [Transaction.paidInto, named, different]
    · rfl
  · rw [add_zero]
    refine kept _ fun row => ?_
    unfold forget
    split
    · next named => simp [Transaction.returnedFrom, named, different]
    · rfl

/-- What the escrow of a booking holds according to its row. -/
def heldFor (backend : Backend) (bookingId : Nat) : Int :=
  (backend.bookings.find? bookingId).elim 0 Booking.held

/-- Whether the row of a booking occupies its listing. -/
def occupied (backend : Backend) (bookingId : Nat) : Bool :=
  (backend.bookings.find? bookingId).any fun row => row.status.blocking

theorem find?_withSaved_isSome (backend : Backend) (booking : Booking) (known) :
    ((backend.withSaved booking known).bookings.find? booking.id).isSome := by
  simp [withSaved]

theorem heldFor_withSaved (booking : Booking) (known) :
    (backend.withSaved booking known).heldFor booking.id = booking.held := by
  simp [heldFor, withSaved]

theorem occupied_withSaved (booking : Booking) (known) :
    (backend.withSaved booking known).occupied booking.id =
      booking.status.blocking := by
  simp [occupied, withSaved]

/-- No ledger row names a booking that is not stored. -/
theorem unmoved_of_absent (absent : backend.bookings.find? bookingId = none) :
    backend.ledger.paidInto bookingId = 0 ∧
      backend.ledger.returnedFrom bookingId = 0 := by
  have unnamed : ∀ row ∈ backend.ledger.transactions.rows,
      row.bookingId ≠ some bookingId := fun row rowMem named => by
    have stored := backend.booking_stored row rowMem bookingId named
    simp [absent] at stored
  constructor
  · refine List.sum_eq_zero fun amount present => ?_
    obtain ⟨row, rowMem, rfl⟩ := List.mem_map.mp present
    simp [Transaction.paidInto, unnamed row rowMem]
  · refine List.sum_eq_zero fun amount present => ?_
    obtain ⟨row, rowMem, rfl⟩ := List.mem_map.mp present
    simp [Transaction.returnedFrom, unnamed row rowMem]

end Backend

theorem Booking.held_nonneg (booking : Booking) : 0 ≤ booking.held := by
  unfold Booking.held
  split <;> omega

theorem Booking.held_le (booking : Booking) :
    booking.held ≤ booking.totalPrice := by
  unfold Booking.held
  split <;> omega

theorem Backend.heldFor_nonneg (backend : Backend) (bookingId : Nat) :
    0 ≤ backend.heldFor bookingId := by
  unfold heldFor
  cases backend.bookings.find? bookingId with
  | none => exact le_rfl
  | some row => exact row.held_nonneg

/-- What the escrow of a stored booking holds has been paid and not
returned. -/
structure Funded (bookingId : Nat) (backend : Backend) : Prop where
  stored : (backend.bookings.find? bookingId).isSome
  held : backend.heldFor bookingId ≤
    backend.ledger.paidInto bookingId - backend.ledger.returnedFrom bookingId
  returned : backend.ledger.returnedFrom bookingId ≤
    backend.ledger.paidInto bookingId

/-- A creation that returns leaves the escrow of its booking funded. -/
theorem Funded.of_create {zone : Zone} {environment : Environment}
    {backend after : Backend} {userId : Nat} {createDto : CreateBookingDto}
    {loaded : LoadedBooking}
    (created : Fallible.run (BookingsHandler.create zone environment userId
      createDto) backend = (.ok loaded, after)) :
    Funded loaded.booking.id after := by
  rcases BookingsHandler.create_cases zone environment backend
    userId createDto with ⟨error, ran⟩ | ⟨draft, known, made, _, row, ran⟩
  · simp [ran] at created
  · rw [ran] at created
    split at created
    · next paid settled =>
        obtain ⟨same, rfl⟩ := Prod.mk.inj created
        obtain rfl := Except.ok.inj same
        obtain ⟨pays, returns⟩ :=
          Backend.moves_transact backend.bookings.nextId settled
        obtain ⟨unpaid, unreturned⟩ :=
          Backend.unmoved_of_absent backend.bookings.find?_nextId
        have payment : (WalletsService.processBookingPayment userId
            backend.bookings.nextId draft.totalPrice).paysInto
              backend.bookings.nextId = draft.totalPrice :=
          if_pos ⟨rfl, rfl⟩
        have refund : (WalletsService.processBookingPayment userId
            backend.bookings.nextId draft.totalPrice).returnsFrom
              backend.bookings.nextId = 0 :=
          if_neg (by rintro ⟨_, both | both⟩ <;> cases both)
        have stored : paid.bookings.find? backend.bookings.nextId =
            some (draft.row backend.bookings.nextId) := by
          obtain ⟨_, _, _, rfl⟩ := Backend.transact_ok_iff.mp settled
          exact (backend.bookings.find?_insert _ draft.row_id _).trans (if_pos rfl)
        have held : paid.heldFor backend.bookings.nextId = draft.totalPrice := by
          simp [Backend.heldFor, stored, BookingDraft.row, Booking.held,
            BookingStatus.blocking]
        have before : (backend.withInserted draft known).ledger =
            backend.ledger :=
          rfl
        rw [before, unpaid, payment] at pays
        rw [before, unreturned, refund] at returns
        have named : made.booking.id = backend.bookings.nextId := by
          rw [row]
          rfl
        rw [named]
        have funded : Funded backend.bookings.nextId paid := by
          refine ⟨by simp [stored], ?_, ?_⟩
          · rw [held, pays, returns]
            omega
          · rw [pays, returns]
            omega
        exact ⟨funded.stored, funded.held, funded.returned⟩
    · simp at created

end SpareSpace
