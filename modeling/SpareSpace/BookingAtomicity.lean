import SpareSpace.BookingOutcomes

/-!
# Requests that end in an exception

A request writes its booking row and its wallet row in separate transactions.
Creation deletes its row again when the payment throws; the other requests
leave the booking row written when the wallet transaction after it throws, and
that is the only way a failed request changes a table.
-/

namespace SpareSpace

open Fallible

variable {zone : Zone} {environment : Environment} {backend : Backend}
  {userId bookingId : Nat}

/-- The bookings, wallets and transactions tables hold the same rows. -/
def Backend.SameTables (before after : Backend) : Prop :=
  after.bookings.rows = before.bookings.rows ∧
    after.ledger.wallets.rows = before.ledger.wallets.rows ∧
      after.ledger.transactions.rows = before.ledger.transactions.rows

/-- Deleting the row just inserted restores the tables: no ledger row names
an id that the sequence has not handed out. -/
theorem Backend.sameTables_removeBooking {draft : BookingDraft}
    (known : (backend.listings.find? draft.listingId).isSome) :
    backend.SameTables ((backend.withInserted draft known).removeBooking
      backend.bookings.nextId) := by
  refine ⟨KeyedTable.rows_remove_insert _ _ draft.row_id, rfl, ?_⟩
  simp only [removeBooking, withInserted, KeyedTable.mapRows]
  conv_rhs => rw [← List.map_id backend.ledger.transactions.rows]
  apply List.map_congr_left
  intro transaction transactionMem
  have older : transaction.bookingId ≠ some backend.bookings.nextId := by
    intro names
    have stored := backend.booking_stored transaction transactionMem _ names
    simp [KeyedTable.find?_nextId] at stored
  simp [forget, older]

/-- A save leaves the tables as they were exactly when it writes the row that is
stored. -/
theorem Backend.sameTables_withSaved_iff {loaded : LoadedBooking}
    {updated : Booking} {known}
    (found : backend.findById bookingId = .ok loaded)
    (named : updated.id = loaded.booking.id) :
    backend.SameTables (backend.withSaved updated known) ↔
      updated = loaded.booking := by
  have stored := backend.bookings.mem_of_find? (findById_ok_iff.mp found).1
  constructor
  · rintro ⟨sameBookings, _⟩
    have written : updated ∈ backend.bookings.rows := by
      rw [← sameBookings]
      exact (KeyedTable.mem_save_iff _).mpr (Or.inl rfl)
    exact backend.bookings.eq_of_key_eq written stored named
  · rintro rfl
    exact ⟨congrArg KeyedTable.rows (backend.bookings.save_of_mem stored), rfl, rfl⟩

/-- The request passes its checks, changes the booking and has money to move, and
the wallet transaction cannot be made: the database aborts it, or the difference to
the new price, as the code computes it, exceeds the renter's balance. -/
def BookingRequest.SettlementFails (zone : Zone) (environment : Environment)
    (backend : Backend) (userId : Nat) : BookingRequest → Prop
  | create _ => False
  | updatePeriod bookingId updateDto =>
      ∃ loaded updated, BookingsHandler.Updates zone environment backend userId
        bookingId updateDto loaded updated ∧ updated ≠ loaded.booking ∧
        BookingsHandler.Unsettled environment backend userId bookingId loaded updated
  | resolve resolution bookingId =>
      ∃ loaded, BookingsHandler.Resolves resolution environment backend userId
        bookingId loaded ∧ resolution.refunds = true ∧
          environment.walletAborts = true

namespace BookingRequest

theorem create_unchanged (createDto : CreateBookingDto)
    {error : HttpException} {after : Backend}
    (failed : run (BookingsHandler.create zone environment userId createDto)
      backend = (.error error, after)) : backend.SameTables after := by
  rcases BookingsHandler.create_cases zone environment backend
    userId createDto with ⟨other, ran⟩ | ⟨draft, known, loaded, _, _, ran⟩
  · rw [ran] at failed
    obtain ⟨_, rfl⟩ := Prod.mk.inj failed
    exact ⟨rfl, rfl, rfl⟩
  · rw [ran] at failed
    split at failed
    · simp at failed
    · obtain ⟨_, rfl⟩ := Prod.mk.inj failed
      exact Backend.sameTables_removeBooking known

/-- The shape shared by the requests that do not insert a row: an exception
before the write changes nothing, and after the write the row is changed if what
was written differs. -/
theorem unchanged_iff_of_write {call : Service LoadedBooking}
    {loaded : LoadedBooking} {updated : Booking} {known}
    {operation : Option WalletOperation} {event : BookingEvent}
    (found : backend.findById bookingId = .ok loaded)
    (named : updated.id = loaded.booking.id)
    (ran : run call backend =
      match BookingsHandler.transactIfAny environment
          (backend.withSaved updated known) operation with
      | .ok after => (.ok ⟨updated, loaded.listing⟩,
          BookingsListener.handle environment after event)
      | .error error => (.error error, backend.withSaved updated known)) :
    (∀ error after, run call backend = (.error error, after) →
        backend.SameTables after) ↔
      ¬ (updated ≠ loaded.booking ∧
        ∃ error, BookingsHandler.transactIfAny environment
          (backend.withSaved updated known) operation = .error error) := by
  rw [ran]
  cases settled : BookingsHandler.transactIfAny environment
      (backend.withSaved updated known) operation with
  | ok after => simp
  | error error =>
      simp only [Except.error.injEq, exists_eq', and_true, not_not]
      rw [← Backend.sameTables_withSaved_iff found named]
      constructor
      · exact fun unchanged => unchanged error _ rfl
      · rintro same other after failed
        obtain ⟨_, rfl⟩ := Prod.mk.inj failed
        exact same

/-- The refund of a resolution fails only when the database aborts it. -/
theorem refund_fails_iff {resolution : Resolution} {saved : LoadedBooking}
    {known} :
    (∃ error, BookingsHandler.transactIfAny environment
        (backend.withSaved saved.booking known)
        (BookingsHandler.refund resolution saved) = .error error) ↔
      resolution.refunds = true ∧ environment.walletAborts = true := by
  rw [BookingsHandler.transactIfAny_error_iff]
  · cases refunds : resolution.refunds <;>
      simp [BookingsHandler.refund, refunds, Ledger.Short,
        WalletsService.processRefund]
  · intro made present
    rw [(BookingsHandler.of_mem_refund present).2]
    rfl

theorem resolve_unchanged_iff (resolution : Resolution) :
    (∀ error after, run (BookingsHandler.resolve resolution environment userId
        bookingId) backend = (.error error, after) →
        backend.SameTables after) ↔
      ¬ SettlementFails zone environment backend userId
        (.resolve resolution bookingId) := by
  rcases BookingsHandler.resolve_cases environment backend userId
    bookingId resolution with ⟨other, refused, ran⟩ | ⟨loaded, known, passes, ran⟩
  · have never : ¬ SettlementFails zone environment backend userId
        (.resolve resolution bookingId) :=
      fun ⟨loaded, passes, _⟩ => refused ⟨loaded, passes⟩
    simp only [never, not_false_iff, iff_true, ran]
    rintro error after failed
    obtain ⟨_, rfl⟩ := Prod.mk.inj failed
    exact ⟨rfl, rfl, rfl⟩
  · have pending := (Resolution.guard_ok_iff.mp passes.2).2.1
    have changed : (loaded.withStatus resolution.newStatus).booking ≠
        loaded.booking := by
      intro same
      have status := congrArg Booking.status same
      rw [pending] at status
      cases resolution <;> contradiction
    have named : (loaded.withStatus resolution.newStatus).booking.id =
        loaded.booking.id :=
      rfl
    rw [unchanged_iff_of_write passes.1 named ran, refund_fails_iff]
    refine not_congr ⟨fun fails => ⟨loaded, passes, fails.2⟩, ?_⟩
    rintro ⟨_, _, fails⟩
    exact ⟨changed, fails⟩

theorem updatePeriod_unchanged_iff (updateDto : UpdateBookingPeriodDto) :
    (∀ error after, run (BookingsHandler.updatePeriod zone environment userId
        bookingId updateDto) backend = (.error error, after) →
        backend.SameTables after) ↔
      ¬ SettlementFails zone environment backend userId
        (.updatePeriod bookingId updateDto) := by
  rcases BookingsHandler.updatePeriod_cases zone environment
    backend userId bookingId updateDto with
    ⟨other, refused, ran⟩ | ⟨loaded, updated, known, updates, ran⟩
  · have never : ¬ SettlementFails zone environment backend userId
        (.updatePeriod bookingId updateDto) :=
      fun ⟨loaded, updated, updates, _⟩ => refused ⟨loaded, updated, updates⟩
    simp only [never, not_false_iff, iff_true, ran]
    rintro error after failed
    obtain ⟨_, rfl⟩ := Prod.mk.inj failed
    exact ⟨rfl, rfl, rfl⟩
  · have named : updated.id = bookingId :=
      updates.identity.1.trans (Backend.id_of_findById updates.found)
    rw [unchanged_iff_of_write updates.found updates.identity.1 ran,
      BookingsHandler.settlement_error_iff named]
    refine not_congr ⟨fun fails => ⟨loaded, updated, updates, fails⟩, ?_⟩
    rintro ⟨second, again, others, fails⟩
    obtain ⟨rfl, rfl⟩ := updates.unique others
    exact fails

end BookingRequest

end SpareSpace
