import SpareSpace.BookingOperations
import SpareSpace.EscrowBooks

/-!
# Conservation of money

The wallets, the prices of occupying bookings and the deposit and withdrawal
entries are the books of an escrow.  Every operation that returns is a move of
these books or leaves them as they are: the price a booking holds changes by
exactly the amount its wallet transaction moves.
-/

namespace SpareSpace

open Fallible EscrowBooks TransitionRuns

/-- What a booking holds in escrow. -/
def Booking.held (booking : Booking) : Int :=
  if booking.status.blocking then booking.totalPrice else 0

/-- The total of the ledger entries of one type. -/
def Ledger.totalOf (ledger : Ledger) (type : TransactionType) : Int :=
  ledger.transactions.total fun row => if row.type = type then row.amount else 0

namespace Backend

variable (backend : Backend)

/-- The books the tables keep. -/
def books : Books Int where
  accounts := backend.ledger.wallets.total Wallet.balance
  held := backend.bookings.total Booking.held
  deposited := backend.ledger.totalOf .deposit
  withdrawn := backend.ledger.totalOf .withdrawal

theorem books_opening (listings : KeyedTable Listing Listing.id)
    (roles : List (Nat × UserRoleType)) :
    (opening listings roles).books = ⟨0, 0, 0, 0⟩ :=
  rfl

variable {backend}

/-- A posting moves the balance of one user and adds one ledger entry. -/
theorem books_withPosted {operation : WalletOperation} (known) :
    (backend.withPosted (backend.ledger.findWallet operation.userId) operation
        known).books =
      { backend.books with
        accounts := backend.books.accounts + operation.delta
        deposited := backend.books.deposited +
          if operation.type = .deposit then operation.amount else 0
        withdrawn := backend.books.withdrawn +
          if operation.type = .withdrawal then operation.amount else 0 } := by
  have accounts := Ledger.total_posted (fun _ => 1)
    (backend.ledger.locks_findWallet operation.userId)
  simp only [one_mul] at accounts
  ext
  · exact accounts
  · rfl
  · exact backend.ledger.transactions.total_insert _ operation.entry
      operation.entry_id
  · exact backend.ledger.transactions.total_insert _ operation.entry
      operation.entry_id

theorem books_withWallet (userId : Nat) :
    (backend.withWallet userId).books = backend.books := by
  have accounts := @Ledger.total_findWalletByUser backend.ledger (fun _ => 1) userId
  simp only [one_mul] at accounts
  ext
  · exact accounts
  · rfl
  · rfl
  · rfl

theorem books_withSaved {loaded : LoadedBooking} {updated : Booking}
    {bookingId : Nat} {known} (found : backend.findById bookingId = .ok loaded)
    (named : updated.id = loaded.booking.id) :
    (backend.withSaved updated known).books =
      { backend.books with
        held := backend.books.held - loaded.booking.held + updated.held } := by
  have stored := (findById_ok_iff.mp found).1
  rw [← backend.bookings.key_of_find? stored, ← named] at stored
  ext
  · rfl
  · exact backend.bookings.total_save_of_find? Booking.held stored
  · rfl
  · rfl

theorem books_withInserted {draft : BookingDraft} {known} :
    (backend.withInserted draft known).books =
      { backend.books with
        held := backend.books.held + draft.totalPrice } := by
  ext
  · rfl
  · exact backend.bookings.total_insert Booking.held draft.row draft.row_id
  · rfl
  · rfl

@[simp]
theorem books_handle (environment : Environment) (event : BookingEvent) :
    (BookingsListener.handle environment backend event).books =
      backend.books := by
  cases event <;> rfl

/-- A wallet transaction that commits posts its operation. -/
theorem books_transact {aborts : Bool} {operation : WalletOperation}
    {after : Backend} (committed : backend.transact aborts operation = .ok after) :
    after.books =
      { backend.books with
        accounts := backend.books.accounts + operation.delta
        deposited := backend.books.deposited +
          if operation.type = .deposit then operation.amount else 0
        withdrawn := backend.books.withdrawn +
          if operation.type = .withdrawal then operation.amount else 0 } := by
  obtain ⟨_, _, known, rfl⟩ := transact_ok_iff.mp committed
  exact books_withPosted known

end Backend

namespace Operation

variable {zone : Zone} {environment : Environment} {backend after : Backend}
  {userId bookingId : Nat}

theorem leads_transact_internal {aborts : Bool} {operation : WalletOperation}
    {before : Backend} (change : Int)
    (committed : backend.transact aborts operation = .ok after)
    (internal : operation.Internal) (moves : operation.delta = -change)
    (held : backend.books =
      { before.books with held := before.books.held + change }) :
    before.books.Leads after.books := by
  refine Books.Leads.of_apply (.hold change) ?_
  rw [Backend.books_transact committed, held]
  simp [Books.apply, internal.1, internal.2, moves, sub_eq_add_neg]

/-- A booking write followed by the wallet transaction that moves what the
booking holds more or less. -/
theorem leads_save_settle {loaded : LoadedBooking} {updated : Booking} {known}
    {operation : Option WalletOperation}
    (found : backend.findById bookingId = .ok loaded)
    (named : updated.id = loaded.booking.id)
    (settled : BookingsHandler.transactIfAny environment
      (backend.withSaved updated known) operation = .ok after)
    (still : operation = none → updated.held = loaded.booking.held)
    (moves : ∀ made ∈ operation, made.Internal ∧
      made.delta = loaded.booking.held - updated.held) :
    backend.books.Leads after.books := by
  have saved : (backend.withSaved updated known).books = _ :=
    Backend.books_withSaved found named
  cases operation with
  | none =>
      obtain rfl := Except.ok.inj settled
      rw [saved, still rfl, sub_add_cancel]
      exact Books.Leads.refl _
  | some operation =>
      obtain ⟨internal, delta⟩ := moves operation rfl
      refine leads_transact_internal
        (updated.held - loaded.booking.held) settled internal
        (by rw [delta, neg_sub]) ?_
      rw [saved, sub_add_eq_add_sub, add_sub_assoc]

/-- Opening a wallet moves no money. -/
theorem leads_findWallet {wallet : Wallet}
    (returned : run (WalletsService.findWalletByUser environment userId) backend =
      (.ok wallet, after)) : backend.books.Leads after.books := by
  rcases WalletsService.findWalletByUser_cases environment backend userId with
    ⟨error, ran⟩ | ⟨opened, ran⟩
  · simp [ran] at returned
  · rw [ran] at returned
    obtain ⟨_, rfl⟩ := Prod.mk.inj returned
    rw [Backend.books_withWallet]
    exact Books.Leads.refl _

theorem leads_deposit {amount : Int}
    (returned : run (WalletsService.transact environment
      (WalletsService.deposit userId amount)) backend = (.ok (), after)) :
    backend.books.Leads after.books := by
  refine Books.Leads.of_apply (.deposit amount) ?_
  rw [Backend.books_transact (WalletsService.transact_ok returned)]
  simp [Books.apply, WalletsService.deposit, WalletOperation.delta]

theorem leads_withdraw {amount : Int}
    (returned : run (WalletsService.transact environment
      (WalletsService.withdraw userId amount)) backend = (.ok (), after)) :
    backend.books.Leads after.books := by
  refine Books.Leads.of_apply (.withdraw amount) ?_
  rw [Backend.books_transact (WalletsService.transact_ok returned)]
  simp [Books.apply, WalletsService.withdraw, WalletOperation.delta, sub_eq_add_neg]

theorem leads_create {createDto : CreateBookingDto} {loaded : LoadedBooking}
    (returned : run (BookingsHandler.create zone environment userId createDto)
      backend = (.ok loaded, after)) :
    backend.books.Leads after.books := by
  rcases BookingsHandler.create_cases zone environment backend
    userId createDto with ⟨error, ran⟩ | ⟨draft, known, made, _, _, ran⟩
  · simp [ran] at returned
  · rw [ran] at returned
    split at returned
    · next paid settled =>
        obtain ⟨_, rfl⟩ := Prod.mk.inj returned
        rw [Backend.books_handle]
        exact leads_transact_internal (draft.totalPrice : Int)
          settled ⟨nofun, nofun⟩ rfl Backend.books_withInserted
    · simp at returned

/-- What an update adds to the price a pending booking holds is what its
settlement moves. -/
theorem leads_updatePeriod {updateDto : UpdateBookingPeriodDto}
    {loaded : LoadedBooking}
    (returned : run (BookingsHandler.updatePeriod zone environment userId
      bookingId updateDto) backend = (.ok loaded, after)) :
    backend.books.Leads after.books := by
  rcases BookingsHandler.updatePeriod_cases zone environment
    backend userId bookingId updateDto with
    ⟨error, _, ran⟩ | ⟨found, updated, known, updates, ran⟩
  · simp [ran] at returned
  · rw [ran] at returned
    split at returned
    · next settled paid =>
        obtain ⟨_, rfl⟩ := Prod.mk.inj returned
        rw [Backend.books_handle]
        have pending := (BookingsHandler.guardUpdate_ok_iff.mp updates.guarded).2
        have heldBefore : found.booking.held = found.booking.totalPrice := by
          simp [Booking.held, pending, BookingStatus.blocking]
        have heldAfter : updated.held = updated.totalPrice := by
          simp [Booking.held, updates.identity.2.2.2, pending,
            BookingStatus.blocking]
        refine leads_save_settle updates.found updates.identity.1 paid ?_ ?_
        · intro same
          have equal := BookingsHandler.settlement_eq_none same
          rw [heldBefore, heldAfter]
          unfold BookingsHandler.priceDiff at equal
          omega
        · intro made present
          obtain ⟨internal, _, delta⟩ :=
            BookingsHandler.of_mem_settlement present
          rw [delta, heldBefore, heldAfter, BookingsHandler.priceDiff, neg_sub]
          exact ⟨internal, rfl⟩
    · simp at returned

theorem leads_resolve {resolution : Resolution} {loaded : LoadedBooking}
    (returned : run (BookingsHandler.resolve resolution environment userId
      bookingId) backend = (.ok loaded, after)) :
    backend.books.Leads after.books := by
  rcases BookingsHandler.resolve_cases environment backend userId
    bookingId resolution with ⟨error, _, ran⟩ | ⟨found, known, passes, ran⟩
  · simp [ran] at returned
  · rw [ran] at returned
    split at returned
    · next settled paid =>
        obtain ⟨_, rfl⟩ := Prod.mk.inj returned
        rw [Backend.books_handle]
        have pending := (Resolution.guard_ok_iff.mp passes.2).2.1
        have named : (found.withStatus resolution.newStatus).booking.id =
            found.booking.id :=
          rfl
        have heldBefore : found.booking.held = found.booking.totalPrice := by
          simp [Booking.held, pending, BookingStatus.blocking]
        refine leads_save_settle passes.1 named paid ?_ ?_
        · intro kept
          rw [heldBefore]
          cases resolution with
          | cancel => contradiction
          | confirm => rfl
          | reject => contradiction
        · intro made present
          obtain ⟨refunds, rfl⟩ := BookingsHandler.of_mem_refund present
          rw [heldBefore]
          refine ⟨⟨nofun, nofun⟩, ?_⟩
          cases resolution with
          | cancel => exact (sub_zero _).symm
          | confirm => contradiction
          | reject => exact (sub_zero _).symm
    · simp at returned

theorem leads_startJob
    (returned : run (BookingStartProcessor.process environment .none bookingId)
      backend = (.ok (), after)) :
    backend.books.Leads after.books := by
  rcases BookingStartProcessor.process_cases environment backend bookingId with
    ⟨error, _, ran⟩ | ⟨loaded, _, _, ran⟩ | ⟨loaded, known, found, confirmed, ran⟩
  · simp [ran] at returned
  · rw [ran] at returned
    obtain ⟨_, rfl⟩ := Prod.mk.inj returned
    exact Books.Leads.refl _
  · rw [ran] at returned
    obtain ⟨_, rfl⟩ := Prod.mk.inj returned
    have still : (loaded.withStatus .active).booking.held =
        loaded.booking.held := by
      simp [Booking.held, LoadedBooking.withStatus, confirmed,
        BookingStatus.blocking]
    have settled : BookingsHandler.transactIfAny environment
        (backend.withSaved (loaded.withStatus .active).booking known) none =
          .ok _ :=
      rfl
    have named : (loaded.withStatus .active).booking.id = loaded.booking.id :=
      rfl
    have leads := leads_save_settle found named settled (fun _ => still) nofun
    exact leads

theorem leads_completionJob
    (returned : run (BookingCompletionProcessor.process environment .none
      bookingId) backend = (.ok (), after)) :
    backend.books.Leads after.books := by
  rcases BookingCompletionProcessor.process_cases environment backend bookingId with
    ⟨error, _, ran⟩ | ⟨loaded, _, _, ran⟩ | ⟨loaded, known, found, due, ran⟩
  · simp [ran] at returned
  · rw [ran] at returned
    obtain ⟨_, rfl⟩ := Prod.mk.inj returned
    exact Books.Leads.refl _
  · rw [ran] at returned
    split at returned
    · next settled paid =>
        obtain ⟨_, rfl⟩ := Prod.mk.inj returned
        have heldBefore : loaded.booking.held = loaded.booking.totalPrice := by
          simp [Booking.held, due.1, BookingStatus.blocking]
        have payout : BookingsHandler.transactIfAny environment
            (backend.withSaved (loaded.withStatus .completed).booking known)
            (some (WalletsService.processBookingPayout loaded.listing.userId
              loaded.booking.id loaded.booking.totalPrice)) = .ok settled :=
          paid
        have named : (loaded.withStatus .completed).booking.id =
            loaded.booking.id :=
          rfl
        have leads := leads_save_settle found named payout nofun
        apply leads
        rintro made ⟨⟩
        rw [heldBefore]
        exact ⟨⟨nofun, nofun⟩, (sub_zero _).symm⟩
    · simp at returned

/-- Every operation that returns makes moves of the books. -/
theorem books_leads {operation : Operation}
    (returned : run (operation.call zone environment) backend =
      (.ok (), after)) : backend.books.Leads after.books := by
  cases operation with
  | findWallet userId =>
      obtain ⟨wallet, next, ran, rest⟩ := bind_ok returned
      obtain ⟨_, rfl⟩ := Prod.mk.inj rest
      exact leads_findWallet ran
  | deposit userId amount => exact leads_deposit returned
  | withdraw userId amount => exact leads_withdraw returned
  | request userId made =>
      obtain ⟨loaded, next, ran, rest⟩ := bind_ok returned
      obtain ⟨_, rfl⟩ := Prod.mk.inj rest
      cases made with
      | create createDto => exact leads_create ran
      | updatePeriod bookingId updateDto => exact leads_updatePeriod ran
      | resolve resolution bookingId =>
          cases resolution with
          | cancel => exact leads_resolve ran
          | confirm => exact leads_resolve ran
          | reject => exact leads_resolve ran
  | startJob bookingId => exact leads_startJob returned
  | completionJob bookingId => exact leads_completionJob returned
  | editListing listing =>
      obtain ⟨_, rfl⟩ := Prod.mk.inj returned
      exact Books.Leads.refl _

/-- Conservation of money: after every sequence of operations that return,
from empty tables, the wallets and the prices of the occupying bookings add up
to what was deposited and not withdrawn. -/
theorem money_conserved (listings : KeyedTable Listing Listing.id)
    (roles : List (Nat × UserRoleType)) {last : Backend}
    (reached : Reachable (returns zone) (.opening listings roles) last) :
    last.ledger.wallets.total Wallet.balance +
        last.bookings.total Booking.held =
      last.ledger.totalOf .deposit - last.ledger.totalOf .withdrawal := by
  refine Run.invariant (fun backend => backend.books.Balanced) ?_ ?_ reached
  · rw [Backend.books_opening]
    simp [Books.Balanced]
  · rintro before ⟨environment, operation⟩ after balanced _ taken
    exact (books_leads (returns_some_iff.mp taken)).balanced balanced

/-- A deposit and a booking paid from it. -/
theorem money_conserved_sample :
    Backend.sampleBooked.ledger.wallets.total Wallet.balance +
        Backend.sampleBooked.bookings.total Booking.held =
      Backend.sampleBooked.ledger.totalOf .deposit -
        Backend.sampleBooked.ledger.totalOf .withdrawal :=
  money_conserved
    (KeyedTable.empty.insert sampleListing sampleListing_id)
    [(2, .renter), (3, .renter)]
    (reachable_of_execute (returns .utc) _ [(.at 0, .findWallet 2),
      (.at 0, .deposit 2 300),
      (.at 0, .request 2 (.create ⟨1, .hour, 0, .one⟩))] rfl)

end Operation

end SpareSpace
