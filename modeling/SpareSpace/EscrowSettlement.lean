import SpareSpace.BookingEscrow
import SpareSpace.BookingSteps
import Mathlib.Algebra.Order.BigOperators.Group.List

/-!
# Settlement under concurrency

A call that has saved a booking and not yet made its wallet transaction still
owes a payment or is about to return money.  What the escrow holds and what
calls are about to return stay covered by what was paid and is owed, in each
run whose saves find the row occupying and no cheaper than the price they rely
on, whose payments are made, and whose returns wait for owed payments.
-/

namespace SpareSpace

open InterleavedCalls TransitionRuns

/-- The changes that end a booking: they return its price. -/
def StatusChange.settles (change : StatusChange) : Bool :=
  !change.newStatus.blocking

/-- The price a change settles, or writes back if it settles nothing: a
completion pays what its first read returned. -/
def StatusChange.price (change : StatusChange) (guard loaded : LoadedBooking) :
    Nat :=
  match change with
  | complete => guard.booking.totalPrice
  | _ => loaded.booking.totalPrice

theorem StatusChange.price_withStatus (change : StatusChange)
    (guard loaded : LoadedBooking) (status : BookingStatus) :
    change.price guard (loaded.withStatus status) =
      change.price guard loaded := by
  cases change <;> rfl

/-- What the row holds once the change is saved, and what the change then
returns, add up to the price it settles. -/
theorem StatusChange.held_add_price (change : StatusChange)
    (guard loaded : LoadedBooking) :
    (loaded.withStatus change.newStatus).booking.held +
        (if change.settles then (change.price guard loaded : Int) else 0) =
      change.price guard loaded := by
  cases change with
  | resolve resolution userId =>
      cases resolution <;>
        simp [settles, newStatus, Resolution.newStatus, BookingStatus.blocking,
          Booking.held, LoadedBooking.withStatus, price]
  | start =>
      simp [settles, newStatus, BookingStatus.blocking, Booking.held,
        LoadedBooking.withStatus, price]
  | complete =>
      simp [settles, newStatus, BookingStatus.blocking, Booking.held,
        LoadedBooking.withStatus]

namespace Call

/-- The wallet transaction a call that has saved its booking makes next. -/
def operation : Call → Option WalletOperation
  | updateSettle userId guard updated =>
      BookingsHandler.settlement userId guard.booking.id
        (priceDiff guard updated) (residue guard updated)
  | changeSettle change guard saved => change.operation guard saved
  | _ => none

/-- What a call still has to pay into the escrow of a booking. -/
def owes (bookingId : Nat) (call : Call) : Int :=
  call.operation.elim 0 (WalletOperation.paysInto bookingId)

/-- What a call is about to return from the escrow of a booking. -/
def returns (bookingId : Nat) (call : Call) : Int :=
  call.operation.elim 0 (WalletOperation.returnsFrom bookingId)

/-- The booking a call is about to save and the price it relies on. -/
def reliesOn : Call → Option (Nat × Nat)
  | updateSave _ guard _ updated => some (updated.id, guard.booking.totalPrice)
  | changeSave change guard loaded =>
      some (loaded.booking.id, change.price guard loaded)
  | _ => none

/-- A cancellation, rejection or completion of the booking that has made its
refund or payout. -/
def hasSettled (bookingId : Nat) : Call → Bool
  | changeAnnounce change guard _ =>
      change.settles && guard.booking.id == bookingId
  | finished (some (change, id)) => change.settles && id == bookingId
  | _ => false

/-- A cancellation, rejection or completion of the booking that has written
its status. -/
def hasEnded (bookingId : Nat) : Call → Bool
  | changeSettle change guard _ =>
      change.settles && guard.booking.id == bookingId
  | call => call.hasSettled bookingId

/-- A call names one booking throughout, and creates none that was stored
before. -/
def Names (bookingId : Nat) : Call → Prop
  | createReload _ id => id ≠ bookingId
  | createPay _ loaded | createDelete loaded _ => loaded.booking.id ≠ bookingId
  | updateContained _ guard _ updated | updateExists _ guard _ updated
  | updateSave _ guard _ updated => updated.id = guard.booking.id
  | changeSave _ guard loaded => loaded.booking.id = guard.booking.id
  | changeSettle _ guard saved => saved.booking.id = guard.booking.id
  | _ => True

end Call

/-- When the next step of a call is safe for the escrow of a booking. -/
structure SettlesInOrder (bookingId : Nat) (config : Config Backend Call)
    (index : Nat) (environment : Environment) (call : Call) : Prop where
  /-- A save finds the row occupying, at a price no lower than it relies on. -/
  fresh : ∀ price, call.reliesOn = some (bookingId, price) →
    ∃ row, config.store.bookings.find? bookingId = some row ∧
      row.status.blocking = true ∧ price ≤ row.totalPrice
  /-- A payment is neither aborted nor refused for want of funds. -/
  paid : ∀ operation, call.operation = some operation →
    operation.bookingId = some bookingId → operation.type = .bookingPayment →
      0 < operation.amount → environment.walletAborts = false ∧
        ¬ Ledger.Short (config.store.ledger.findWallet operation.userId)
          operation
  /-- A return waits for the payments that other calls owe. -/
  ordered : ∀ operation, call.operation = some operation →
    operation.bookingId = some bookingId → operation.type ≠ .bookingPayment →
      ∀ j other, j ≠ index → config.calls[j]? = some other →
        other.owes bookingId = 0

/-- Every step of the run is safe for the escrow of the booking. -/
def InOrder (bookingId : Nat) (config : Config Backend Call) :
    Move Call Environment → Prop
  | .spawn _ => True
  | .act index environment => ∀ call, config.calls[index]? = some call →
      SettlesInOrder bookingId config index environment call

namespace Call

variable {zone : Zone} {environment : Environment} {backend after : Backend}
  {call moved : Call} {bookingId : Nat}

/-- Calls go on naming the booking they have read. -/
theorem names_of_steps (steps : Steps zone environment backend call after moved)
    (issued : bookingId < backend.bookings.nextId)
    (names : call.Names bookingId) : moved.Names bookingId := by
  cases steps with
  | createSave known => exact issued.ne'
  | @createReload userId id loaded found =>
      have named := Backend.id_of_findById found
      exact fun same => names (named.symm.trans same)
  | createPayFails => exact names
  | @updateFind _ guard loaded _ booking found tariff =>
      have named := Backend.id_of_findById found
      exact (BookingsHandler.changeTariff_identity tariff).1.trans named
  | updateContained => exact names
  | updateExists => exact names
  | changeFind found => exact Backend.id_of_findById found
  | changeSave => exact names
  | _ => trivial

theorem Writes.le_nextId {bookings written : KeyedTable Booking Booking.id}
    (writes : Writes bookings call written) :
    bookings.nextId ≤ written.nextId := by
  cases writes with
  | nothing => exact le_rfl
  | insert => exact Nat.le_succ _
  | remove => exact le_rfl
  | update => exact bookings.le_nextId_save _
  | change => exact bookings.le_nextId_save _

/-- In every run, calls name the bookings they have read, and none creates a
booking that was stored at the start. -/
theorem names_of_run {start : Backend} {config : Config Backend Call}
    {allowed : Config Backend Call → Move Call Environment → Prop}
    (issued : bookingId < start.bookings.nextId)
    (run : Run (bookingSystem zone).step allowed ⟨start, []⟩ config) :
    bookingId < config.store.bookings.nextId ∧
      ∀ call ∈ config.calls, call.Names bookingId := by
  refine InterleavedCalls.invariant (bookingSystem zone)
    (fun backend => bookingId < backend.bookings.nextId)
    (fun _ call => call.Names bookingId) issued
    (fun call present => absurd present List.not_mem_nil) ?_ ?_ run
  · rintro backend call _ starts
    cases call <;> first | contradiction | trivial
  · intro config index environment call after moved _ found moves issued own
    have steps := Call.steps_of_next moves
    exact ⟨lt_of_lt_of_le issued steps.writes.le_nextId,
      names_of_steps steps issued (own call (mem_of_index found)),
      fun j other _ stood => own other (mem_of_index stood)⟩

theorem owes_updateSettle (userId : Nat) (guard updated : LoadedBooking) :
    (updateSettle userId guard updated).owes bookingId =
      if guard.booking.id = bookingId then max (priceDiff guard updated) 0
      else 0 := by
  simp only [owes, operation]
  cases made : BookingsHandler.settlement userId guard.booking.id
      (priceDiff guard updated) (residue guard updated) with
  | none => simp [BookingsHandler.settlement_eq_none made]
  | some operation =>
      rcases BookingsHandler.settlement_cases made with
        ⟨notCheaper, rfl⟩ | ⟨notDearer, rfl⟩
      · rw [max_eq_left notCheaper]
        simp [WalletOperation.paysInto, Transaction.paidInto,
          WalletOperation.entry, WalletsService.processBookingPayment]
      · rw [max_eq_right notDearer]
        simp [WalletOperation.paysInto, Transaction.paidInto,
          WalletOperation.entry, WalletsService.processRefund]

theorem returns_updateSettle (userId : Nat) (guard updated : LoadedBooking) :
    (updateSettle userId guard updated).returns bookingId =
      if guard.booking.id = bookingId then max (-priceDiff guard updated) 0
      else 0 := by
  simp only [returns, operation]
  cases made : BookingsHandler.settlement userId guard.booking.id
      (priceDiff guard updated) (residue guard updated) with
  | none => simp [BookingsHandler.settlement_eq_none made]
  | some operation =>
      rcases BookingsHandler.settlement_cases made with
        ⟨notCheaper, rfl⟩ | ⟨notDearer, rfl⟩
      · rw [max_eq_right (neg_nonpos.mpr notCheaper)]
        simp [WalletOperation.returnsFrom, Transaction.returnedFrom,
          WalletOperation.entry, WalletsService.processBookingPayment]
      · rw [max_eq_left (neg_nonneg.mpr notDearer)]
        simp [WalletOperation.returnsFrom, Transaction.returnedFrom,
          WalletOperation.entry, WalletsService.processRefund]

theorem owes_changeSettle (change : StatusChange)
    (guard saved : LoadedBooking) :
    (changeSettle change guard saved).owes bookingId = 0 := by
  cases change with
  | resolve resolution userId =>
      cases resolution <;>
        simp [owes, operation, StatusChange.operation, BookingsHandler.refund,
          Resolution.refunds, WalletOperation.paysInto, Transaction.paidInto,
          WalletOperation.entry, WalletsService.processRefund]
  | start => rfl
  | complete =>
      simp [owes, operation, StatusChange.operation, WalletOperation.paysInto,
        Transaction.paidInto, WalletOperation.entry,
        WalletsService.processBookingPayout]

theorem returns_changeSettle (change : StatusChange)
    (guard saved : LoadedBooking)
    (names : saved.booking.id = guard.booking.id) :
    (changeSettle change guard saved).returns bookingId =
      if change.settles ∧ guard.booking.id = bookingId then
        (change.price guard saved : Int)
      else 0 := by
  cases change with
  | resolve resolution userId =>
      cases resolution <;>
        simp [returns, operation, StatusChange.operation,
          BookingsHandler.refund, Resolution.refunds,
          WalletOperation.returnsFrom, Transaction.returnedFrom,
          WalletOperation.entry, WalletsService.processRefund,
          StatusChange.settles, StatusChange.newStatus, Resolution.newStatus,
          BookingStatus.blocking, StatusChange.price, names]
  | start => rfl
  | complete =>
      simp [returns, operation, StatusChange.operation,
        WalletOperation.returnsFrom, Transaction.returnedFrom,
        WalletOperation.entry, WalletsService.processBookingPayout,
        StatusChange.settles, StatusChange.newStatus, BookingStatus.blocking,
        StatusChange.price]

/-- What a change that has just been saved returns. -/
theorem returns_of_saved (change : StatusChange) {guard loaded : LoadedBooking}
    (names : loaded.booking.id = guard.booking.id) :
    (changeSettle change guard (loaded.withStatus change.newStatus)).returns
        bookingId =
      if change.settles ∧ guard.booking.id = bookingId then
        (change.price guard loaded : Int)
      else 0 := by
  rw [← change.price_withStatus guard loaded change.newStatus]
  exact returns_changeSettle change guard _ names

theorem owes_nonneg (bookingId : Nat) (call : Call) :
    0 ≤ call.owes bookingId := by
  cases call with
  | updateSettle userId guard updated =>
      rw [owes_updateSettle]
      split <;> omega
  | changeSettle change guard saved => rw [owes_changeSettle]
  | _ => exact le_rfl

theorem returns_nonneg (names : call.Names bookingId) :
    0 ≤ call.returns bookingId := by
  cases call with
  | updateSettle userId guard updated =>
      rw [returns_updateSettle]
      split <;> omega
  | changeSettle change guard saved =>
      rw [returns_changeSettle _ _ _ names]
      split <;> omega
  | _ => exact le_rfl

/-- A write of another booking leaves the row of this one. -/
theorem Writes.find?_of_elsewhere
    {bookings written : KeyedTable Booking Booking.id}
    (writes : Writes bookings call written)
    (issued : bookingId < bookings.nextId) (names : call.Names bookingId)
    (elsewhere : ∀ price, call.reliesOn ≠ some (bookingId, price)) :
    written.find? bookingId = bookings.find? bookingId := by
  cases writes with
  | nothing => rfl
  | insert => rw [KeyedTable.find?_insert, if_neg issued.ne]
  | remove => rw [KeyedTable.find?_remove, if_neg (Ne.symm names)]
  | @update _ _ _ updated =>
      have other : bookingId ≠ updated.id :=
        fun same => elsewhere _ (by rw [same]; rfl)
      rw [KeyedTable.find?_save, if_neg other]
  | @change _ _ loaded =>
      have other : bookingId ≠ loaded.booking.id :=
        fun same => elsewhere _ (by rw [same]; rfl)
      rw [KeyedTable.find?_save]
      exact if_neg other

private theorem ledgerMoves_transactIfAny {operation : Option WalletOperation}
    (settled : BookingsHandler.transactIfAny environment backend operation =
      .ok after) :
    Backend.LedgerMoves backend after bookingId
      (operation.elim 0 (WalletOperation.paysInto bookingId))
      (operation.elim 0 (WalletOperation.returnsFrom bookingId)) := by
  cases operation with
  | none =>
      obtain rfl := Except.ok.inj settled
      exact .of_ledger rfl
  | some operation => exact Backend.moves_transact bookingId settled

/-- A step that does not fail makes the wallet transaction of its call. -/
theorem ledgerMoves_of_steps
    (steps : Steps zone environment backend call after moved)
    (names : call.Names bookingId) :
    (∃ error, moved = failed error ∧ after = backend) ∨
      Backend.LedgerMoves backend after bookingId (call.owes bookingId)
        (call.returns bookingId) := by
  cases steps with
  | fails => exact Or.inl ⟨_, rfl, rfl⟩
  | createPay paid =>
      refine Or.inr (Backend.moves_transact_elsewhere paid fun same => ?_)
      exact names (Option.some.inj same)
  | createDelete => exact Or.inr (Backend.moves_removeBooking names)
  | createAnnounce => exact Or.inr (.of_ledger (BookingsListener.handle_frame _).2)
  | updateSettle settled => exact Or.inr (ledgerMoves_transactIfAny settled)
  | updateAnnounce => exact Or.inr (.of_ledger (BookingsListener.handle_frame _).2)
  | changeSettle settled => exact Or.inr (ledgerMoves_transactIfAny settled)
  | changeAnnounce => exact Or.inr (.of_ledger (conclude_frame _ _ _).2)
  | deposit paid => exact Or.inr (Backend.moves_transact_elsewhere paid nofun)
  | withdraw paid => exact Or.inr (Backend.moves_transact_elsewhere paid nofun)
  | _ => exact Or.inr (.of_ledger rfl)

/-- A step that saves another booking or none leaves nothing to settle for
this one. -/
theorem settles_nothing (steps : Steps zone environment backend call after moved)
    (names : call.Names bookingId)
    (elsewhere : ∀ price, call.reliesOn ≠ some (bookingId, price)) :
    moved.owes bookingId = 0 ∧ moved.returns bookingId = 0 ∧
      (moved.hasEnded bookingId = true → call.hasEnded bookingId = true) := by
  cases steps with
  | @updateSave _ guard loaded updated known =>
      have sameId : updated.id = guard.booking.id := names
      have other : guard.booking.id ≠ bookingId := fun same =>
        elsewhere _ (by rw [← same, ← sameId]; rfl)
      rw [owes_updateSettle, returns_updateSettle, if_neg other, if_neg other]
      exact ⟨rfl, rfl, nofun⟩
  | @changeSave change guard loaded known =>
      have sameId : loaded.booking.id = guard.booking.id := names
      have other : guard.booking.id ≠ bookingId := fun same =>
        elsewhere _ (by rw [← same, ← sameId]; rfl)
      rw [owes_changeSettle, returns_of_saved change sameId,
        if_neg fun both => other both.2]
      exact ⟨rfl, rfl, by simp [hasEnded, other]⟩
  | changeSettle => exact ⟨rfl, rfl, id⟩
  | changeAnnounce => exact ⟨rfl, rfl, id⟩
  | _ => exact ⟨rfl, rfl, nofun⟩

/-- A save over an occupying row that is no cheaper than the call relies on
adds no more to what the row holds than the call will pay, and a call that
ends the booking leaves it no longer occupying. -/
theorem settles_save (steps : Steps zone environment backend call after moved)
    (names : call.Names bookingId) {price : Nat} {row : Booking}
    (relies : call.reliesOn = some (bookingId, price))
    (found : backend.bookings.find? bookingId = some row)
    (blocking : row.status.blocking = true) (enough : price ≤ row.totalPrice) :
    (after.bookings.find? bookingId).isSome ∧
      after.heldFor bookingId + moved.returns bookingId ≤
        backend.heldFor bookingId + moved.owes bookingId ∧
        (moved.hasEnded bookingId).toNat + (after.occupied bookingId).toNat ≤
          (backend.occupied bookingId).toNat := by
  have held : backend.heldFor bookingId = row.totalPrice := by
    simp [Backend.heldFor, found, Booking.held, blocking]
  have occupies : backend.occupied bookingId = true := by
    simp [Backend.occupied, found, blocking]
  cases steps with
  | fails => exact ⟨by simp [found], le_rfl, by simp [hasEnded, hasSettled]⟩
  | @updateSave userId guard loaded updated known =>
      obtain ⟨rfl, rfl⟩ := Prod.mk.inj (Option.some.inj relies)
      have sameId : guard.booking.id = updated.id := Eq.symm names
      refine ⟨backend.find?_withSaved_isSome updated known, ?_, ?_⟩
      · rw [owes_updateSettle, returns_updateSettle, if_pos sameId,
          if_pos sameId, Backend.heldFor_withSaved, held, priceDiff]
        have heldAfter := updated.held_le
        dsimp only
        omega
      · rw [occupies]
        simpa [hasEnded, hasSettled] using Bool.toNat_le _
  | @changeSave change guard loaded known =>
      obtain ⟨rfl, rfl⟩ := Prod.mk.inj (Option.some.inj relies)
      refine ⟨backend.find?_withSaved_isSome _ known, ?_, ?_⟩
      · have sameId : loaded.booking.id = guard.booking.id := names
        have heldAfter := backend.heldFor_withSaved
          (loaded.withStatus change.newStatus).booking known
        have settled := change.held_add_price guard loaded
        have heldSaved : (backend.withSaved
            (loaded.withStatus change.newStatus).booking known).heldFor
              loaded.booking.id =
            (loaded.withStatus change.newStatus).booking.held := heldAfter
        rw [owes_changeSettle, returns_of_saved change sameId, heldSaved, held]
        simp only [← sameId, and_true]
        omega
      · have occupiesAfter := backend.occupied_withSaved
          (loaded.withStatus change.newStatus).booking known
        have occupiesSaved : (backend.withSaved
            (loaded.withStatus change.newStatus).booking known).occupied
              loaded.booking.id = change.newStatus.blocking := occupiesAfter
        have sameId : guard.booking.id = loaded.booking.id := Eq.symm names
        rw [occupies, occupiesSaved]
        simp only [hasEnded, StatusChange.settles, sameId, beq_self_eq_true,
          Bool.and_true]
        cases change.newStatus.blocking <;> decide
  | _ => contradiction

/-- What a step does to what the row holds and to the number of calls that
have ended the booking. -/
theorem holds_of_steps (steps : Steps zone environment backend call after moved)
    (issued : bookingId < backend.bookings.nextId)
    (stored : (backend.bookings.find? bookingId).isSome)
    (names : call.Names bookingId)
    (fresh : ∀ price, call.reliesOn = some (bookingId, price) →
      ∃ row, backend.bookings.find? bookingId = some row ∧
        row.status.blocking = true ∧ price ≤ row.totalPrice) :
    (after.bookings.find? bookingId).isSome ∧
      after.heldFor bookingId + moved.returns bookingId ≤
        backend.heldFor bookingId + moved.owes bookingId ∧
        (moved.hasEnded bookingId).toNat + (after.occupied bookingId).toNat ≤
          (call.hasEnded bookingId).toNat +
            (backend.occupied bookingId).toNat := by
  by_cases saves : ∃ price, call.reliesOn = some (bookingId, price)
  · obtain ⟨price, relies⟩ := saves
    obtain ⟨row, found, blocking, enough⟩ := fresh price relies
    obtain ⟨storedAfter, held, once⟩ :=
      settles_save steps names relies found blocking enough
    exact ⟨storedAfter, held, le_add_left once⟩
  · have elsewhere : ∀ price, call.reliesOn ≠ some (bookingId, price) :=
      fun price relies => saves ⟨price, relies⟩
    have same := steps.writes.find?_of_elsewhere issued names elsewhere
    obtain ⟨owes, returns, ended⟩ := settles_nothing steps names elsewhere
    refine ⟨same ▸ stored, ?_, ?_⟩
    · simp [Backend.heldFor, same, owes, returns]
    · simp only [Backend.occupied, same]
      exact Nat.add_le_add_right (Bool.toNat_le_toNat ended) _

/-- A call that fails owed nothing if its payment was neither aborted nor
short of funds. -/
theorem owes_eq_zero_of_failed {config : Config Backend Call} {index : Nat}
    {error : HttpException}
    (moves : call.next zone environment config.store =
      some (after, failed error))
    (stored : (config.store.bookings.find? bookingId).isSome)
    (safe : SettlesInOrder bookingId config index environment call) :
    call.owes bookingId = 0 := by
  cases call with
  | updateSettle userId guard updated =>
      rw [owes_updateSettle]
      split
      · next same =>
          subst same
          by_contra owing
          have dearer : priceDiff guard updated > 0 := by omega
          cases made : BookingsHandler.settlement userId guard.booking.id
              (priceDiff guard updated) (residue guard updated) with
          | none => exact dearer.ne' (BookingsHandler.settlement_eq_none made)
          | some payment =>
              obtain ⟨_, pays⟩ : 0 ≤ priceDiff guard updated ∧ payment = _ :=
                (BookingsHandler.settlement_cases made).resolve_right
                  fun refunds => not_lt.mpr refunds.1 dearer
              have named : payment.bookingId = some guard.booking.id :=
                (BookingsHandler.of_mem_settlement made).2.1
              obtain ⟨commits, funds⟩ := safe.paid payment made named
                (by rw [pays]; rfl) (by rw [pays]; exact dearer)
              have known : config.store.Names payment := by
                intro id names
                rw [named, Option.some.injEq] at names
                exact names ▸ stored
              have committed : config.store.transact environment.walletAborts
                  payment = .ok _ :=
                Backend.transact_ok_iff.mpr ⟨commits, funds, known, rfl⟩
              simp [next, made, BookingsHandler.transactIfAny, committed,
                proceedIn] at moves
      · rfl
  | changeSettle change guard saved => exact owes_changeSettle change guard saved
  | _ => rfl

end Call

/-- What the escrow holds and calls are about to return is covered by what was
paid and is owed, and the booking has been ended by at most one call, after
which its row no longer occupies. -/
structure EscrowKept (bookingId : Nat) (config : Config Backend Call) :
    Prop where
  stored : (config.store.bookings.find? bookingId).isSome
  covered : config.store.heldFor bookingId +
      (config.calls.map (Call.returns bookingId)).sum ≤
    config.store.ledger.paidInto bookingId -
      config.store.ledger.returnedFrom bookingId +
        (config.calls.map (Call.owes bookingId)).sum
  bounded : config.store.ledger.returnedFrom bookingId ≤
    config.store.ledger.paidInto bookingId
  once : config.calls.countP (Call.hasEnded bookingId) +
    (config.store.occupied bookingId).toNat ≤ 1

namespace EscrowKept

variable {zone : Zone} {environment : Environment} {backend : Backend}
  {config : Config Backend Call} {bookingId index : Nat} {call moved : Call}

theorem of_funded (funded : Funded bookingId backend) :
    EscrowKept bookingId ⟨backend, []⟩ where
  stored := funded.stored
  covered := by simpa using funded.held
  bounded := funded.returned
  once := by simpa using Bool.toNat_le _

/-- A call that arrives owes and returns nothing. -/
theorem spawn (kept : EscrowKept bookingId config)
    (begins : call.begins = true) :
    EscrowKept bookingId ⟨config.store, config.calls ++ [call]⟩ := by
  have arrives : call.returns bookingId = 0 ∧ call.owes bookingId = 0 ∧
      call.hasEnded bookingId = false := by
    cases call <;> first | contradiction | exact ⟨rfl, rfl, rfl⟩
  obtain ⟨returns, owes, ended⟩ := arrives
  refine ⟨kept.stored, ?_, kept.bounded, ?_⟩
  · simpa [returns, owes] using kept.covered
  · simpa [ended] using kept.once

theorem returns_le_sum {calls : List Call}
    (names : ∀ call ∈ calls, call.Names bookingId)
    (found : calls[index]? = some call) :
    call.returns bookingId ≤ (calls.map (Call.returns bookingId)).sum := by
  refine List.single_le_sum (fun amount present => ?_) _
    (List.mem_map_of_mem (mem_of_index found))
  obtain ⟨other, otherMem, rfl⟩ := List.mem_map.mp present
  exact Call.returns_nonneg (names other otherMem)

/-- While a call returns money, no call owes any. -/
theorem sum_owes_eq_zero (found : config.calls[index]? = some call)
    (safe : SettlesInOrder bookingId config index environment call)
    (returning : call.returns bookingId ≠ 0) :
    (config.calls.map (Call.owes bookingId)).sum = 0 := by
  cases made : call.operation with
  | none => simp [Call.returns, made] at returning
  | some operation =>
      have returnsFrom : operation.returnsFrom bookingId ≠ 0 := by
        simpa [Call.returns, made] using returning
      obtain ⟨named, notPayment, paysNothing⟩ :=
        WalletOperation.of_returnsFrom_ne_zero returnsFrom
      refine List.sum_eq_zero fun amount present => ?_
      obtain ⟨other, otherMem, rfl⟩ := List.mem_map.mp present
      obtain ⟨j, stood⟩ := List.mem_iff_getElem?.mp otherMem
      by_cases same : j = index
      · obtain rfl : other = call := Option.some.inj (by rw [← stood, same, found])
        simpa [Call.owes, made] using paysNothing
      · exact safe.ordered operation made named notPayment j other same stood

/-- A call that returns money waits until nobody owes any, so it returns no
more than what was paid and not returned. -/
theorem returned_le_paid (kept : EscrowKept bookingId config)
    (names : ∀ call ∈ config.calls, call.Names bookingId)
    (found : config.calls[index]? = some call)
    (safe : SettlesInOrder bookingId config index environment call) :
    config.store.ledger.returnedFrom bookingId + call.returns bookingId ≤
      config.store.ledger.paidInto bookingId + call.owes bookingId := by
  have owes := Call.owes_nonneg bookingId call
  by_cases nothing : call.returns bookingId = 0
  · have bounded := kept.bounded
    omega
  · have nobody := sum_owes_eq_zero found safe nothing
    have covered := kept.covered
    have held := config.store.heldFor_nonneg bookingId
    have share := returns_le_sum names found
    omega

/-- A step that is safe for the escrow keeps it. -/
theorem act {after : Backend} (kept : EscrowKept bookingId config)
    (issued : bookingId < config.store.bookings.nextId)
    (names : ∀ call ∈ config.calls, call.Names bookingId)
    (found : config.calls[index]? = some call)
    (safe : SettlesInOrder bookingId config index environment call)
    (moves : call.next zone environment config.store = some (after, moved)) :
    EscrowKept bookingId ⟨after, config.calls.set index moved⟩ := by
  have steps := Call.steps_of_next moves
  have named := names call (mem_of_index found)
  obtain ⟨stored, held, once⟩ :=
    Call.holds_of_steps steps issued kept.stored named safe.fresh
  have covered := kept.covered
  have bounded := returned_le_paid kept names found safe
  have owes := sum_map_set (Call.owes bookingId) moved found
  have returns := sum_map_set (Call.returns bookingId) moved found
  have ended := countP_set_add (Call.hasEnded bookingId) moved found
  have onceBefore := kept.once
  have ledger : (∃ error, moved = .failed error ∧ after = config.store) ∨
      Backend.LedgerMoves config.store after bookingId (call.owes bookingId)
        (call.returns bookingId) :=
    Call.ledgerMoves_of_steps steps named
  refine ⟨stored, ?_, ?_, ?_⟩
  · rcases ledger with ⟨error, rfl, rfl⟩ | ⟨paid, returned⟩
    · have owed := Call.owes_eq_zero_of_failed moves kept.stored safe
      have returnsBefore := Call.returns_nonneg named
      simp only [owes, returns]
      omega
    · simp only [owes, returns, paid, returned]
      omega
  · rcases ledger with ⟨_, _, rfl⟩ | ⟨paid, returned⟩
    · exact kept.bounded
    · simp only [paid, returned]
      exact bounded
  · simp only
    omega

end EscrowKept

/-- From any state in which the booking's escrow is funded, and in any
interleaving whose steps are safe for it, refunds and payouts never exceed
payments, and at most one call has made a cancellation refund, a rejection
refund or a completion payout. -/
theorem escrow_settled_once {zone : Zone} {start : Backend} {bookingId : Nat}
    {config : Config Backend Call} (funded : Funded bookingId start)
    (run : Run (bookingSystem zone).step (InOrder bookingId) ⟨start, []⟩
      config) :
    config.store.ledger.returnedFrom bookingId ≤
        config.store.ledger.paidInto bookingId ∧
      config.calls.countP (Call.hasSettled bookingId) ≤ 1 := by
  obtain ⟨row, found⟩ := Option.isSome_iff_exists.mp funded.stored
  have issued := start.bookings.lt_of_find? found
  have kept : EscrowKept bookingId config := by
    refine (Run.invariant (fun config => Run (bookingSystem zone).step
      (InOrder bookingId) ⟨start, []⟩ config ∧ EscrowKept bookingId config)
      ⟨.start, .of_funded funded⟩ ?_ run).2
    rintro before move after ⟨reached, kept⟩ permitted taken
    refine ⟨reached.step move permitted taken, ?_⟩
    obtain ⟨known, names⟩ := Call.names_of_run issued reached
    cases move with
    | spawn call =>
        obtain ⟨begins, rfl⟩ := System.step_spawn taken
        exact kept.spawn begins
    | act index environment =>
        obtain ⟨call, store, moved, stood, moves, rfl⟩ :=
          System.step_act taken
        exact kept.act known names stood (permitted call stood) moves
  have settled : config.calls.countP (Call.hasSettled bookingId) ≤
      config.calls.countP (Call.hasEnded bookingId) := by
    refine List.countP_mono_left fun call _ ended => ?_
    cases call <;> first | exact ended | contradiction
  have once := kept.once
  exact ⟨kept.bounded, by omega⟩

private theorem funded_sampleBooked : Funded 1 Backend.sampleBooked where
  stored := rfl
  held := by decide
  returned := by decide

private def savesFresh (bookingId : Nat) (store : Backend) (call : Call) : Bool :=
  call.reliesOn.all fun (named, price) => named != bookingId ||
    (store.bookings.find? bookingId).any fun row =>
      row.status.blocking && decide (price ≤ row.totalPrice)

private def transactsInOrder (bookingId : Nat) (store : Backend) (environment : Environment)
    (call : Call) (others : List Call) : Bool :=
  call.operation.all fun operation => operation.bookingId != some bookingId ||
    if operation.type = .bookingPayment then
      !environment.walletAborts &&
        !decide (Ledger.Short (store.ledger.findWallet operation.userId) operation)
    else
      others.all fun other => other.owes bookingId == 0

private def movesInOrder (bookingId : Nat) (config : Config Backend Call) :
    Move Call Environment → Bool
  | .spawn _ => true
  | .act index environment =>
      (config.calls[index]?).all fun call =>
        savesFresh bookingId config.store call &&
          transactsInOrder bookingId config.store environment call (config.others index)

private theorem inOrder_of_movesInOrder (bookingId : Nat) (config : Config Backend Call)
    (label : Move Call Environment) (checked : movesInOrder bookingId config label = true) :
    InOrder bookingId config label := by
  cases label with
  | spawn => trivial
  | act index environment =>
      intro call found
      simp only [movesInOrder, found, Option.all_some, Bool.and_eq_true] at checked
      obtain ⟨fresh, transacts⟩ := checked
      constructor
      · intro price relies
        simp only [savesFresh, relies, Option.all_some, bne_self_eq_false, Bool.false_or,
          Option.any_eq_true, Bool.and_eq_true, decide_eq_true_eq] at fresh
        exact fresh
      · intro operation made named payment _
        simpa [transactsInOrder, made, named, payment] using transacts
      · intro operation made named others j other different stood
        have waits : ∀ other ∈ config.others index, other.owes bookingId = 0 := by
          simpa [transactsInOrder, made, named, others] using transacts
        exact waits other (Config.mem_others different stood)

/-- The renter deposits money and adds an hour while the landlord rejects the booking; the
rejection is saved after the longer period and refunded after the payment for it. -/
private def rejectsLonger : List (Move Call Environment) :=
  [.spawn (.deposit 2 300), .act 0 (.at 0),
    .spawn (.updateGuard 2 1 ⟨.hour, 0, .two⟩), .spawn (.changeGuard (.resolve .reject 1) 1),
    .act 1 (.at 0), .act 2 (.at 0), .act 1 (.at 0), .act 1 (.at 0), .act 1 (.at 0),
    .act 1 (.at 0), .act 2 (.at 0), .act 2 (.at 0), .act 1 (.at 0), .act 2 (.at 0)]

theorem escrow_settled_once_sample :
    ∃ config, Run (bookingSystem .utc).step (InOrder 1)
        ⟨Backend.sampleBooked, []⟩ config ∧
      config.store.ledger.returnedFrom 1 = 600 ∧
        config.store.ledger.returnedFrom 1 ≤ config.store.ledger.paidInto 1 ∧
          config.calls.countP (Call.hasSettled 1) ≤ 1 := by
  have reached : Run (bookingSystem .utc).step (InOrder 1) ⟨Backend.sampleBooked, []⟩ _ :=
    Run.start.executeChecked (movesInOrder 1) (inOrder_of_movesInOrder 1) rejectsLonger rfl
  exact ⟨_, reached, by decide, escrow_settled_once funded_sampleBooked reached⟩

/-- The renter's cancellation, sent twice: both requests pass their checks
before either writes the status, and both refund the whole price. -/
theorem two_cancellations_refund_twice :
    ¬ ∀ (zone : Zone) (start : Backend) (bookingId : Nat)
        (config : Config Backend Call), Funded bookingId start →
        Reachable (bookingSystem zone).step ⟨start, []⟩ config →
        config.store.ledger.returnedFrom bookingId ≤
            config.store.ledger.paidInto bookingId ∧
          config.calls.countP (Call.hasSettled bookingId) ≤ 1 := by
  intro settled
  have reached := reachable_of_execute
    (bookingSystem .utc).step ⟨Backend.sampleBooked, []⟩
    [.spawn (.changeGuard (.resolve .cancel 2) 1),
      .spawn (.changeGuard (.resolve .cancel 2) 1),
      .act 0 (.at 0), .act 1 (.at 0), .act 0 (.at 0), .act 1 (.at 0),
      .act 0 (.at 0), .act 1 (.at 0), .act 0 (.at 0), .act 1 (.at 0)] rfl
  have once := settled .utc .sampleBooked 1 _ funded_sampleBooked reached
  exact absurd once.1 (by decide)

end SpareSpace
