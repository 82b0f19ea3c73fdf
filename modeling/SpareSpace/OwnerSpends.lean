import SpareSpace.EntryPoints
import SpareSpace.BookingAtomicity
import SpareSpace.WalletCalls
import Mathlib.Logic.Relation

/-!
# Only the owner of a wallet spends from it

Every entry is a sequence of deeds: a booking row is written without changing
its parties, or a wallet transaction is committed.  A deed that takes money
out of a wallet is made for the user who issues the entry, a refund names a
booking of the user it is made to, and a payout names a booking of a listing
of its user.  What each deed keeps, a whole run keeps.
-/

namespace SpareSpace

open Fallible Relation TransitionRuns

namespace Backend

/-- The user to whom a ledger entry of a type that pays back or pays out is
due: the renter of the booking it names, or the owner of its listing. -/
def Due (backend : Backend) (type : TransactionType)
    (bookingId : Option Nat) (userId : Nat) : Prop :=
  (type = .refund → ∃ booking, bookingId = some booking.id ∧
    backend.bookings.find? booking.id = some booking ∧
      userId = booking.renterId) ∧
  (type = .bookingPayout → ∃ booking listing, bookingId = some booking.id ∧
    backend.bookings.find? booking.id = some booking ∧
      backend.listings.find? booking.listingId = some listing ∧
        userId = listing.userId)

/-- Later states store at least the bookings of earlier ones, between the same
parties. -/
structure KeepsParties (before after : Backend) : Prop where
  listings : after.listings = before.listings
  bookings : ∀ booking, before.bookings.find? booking.id = some booking →
    ∃ later, after.bookings.find? later.id = some later ∧
      later.id = booking.id ∧ later.listingId = booking.listingId ∧
        later.renterId = booking.renterId

variable {before after : Backend}

theorem Due.later {type : TransactionType} {bookingId : Option Nat}
    {userId : Nat} (due : before.Due type bookingId userId)
    (keeps : before.KeepsParties after) : after.Due type bookingId userId := by
  constructor
  · intro refund
    obtain ⟨booking, named, stored, renter⟩ := due.1 refund
    obtain ⟨later, found, sameId, _, sameRenter⟩ := keeps.bookings booking stored
    exact ⟨later, by rw [sameId]; exact named, found, by rw [sameRenter]; exact renter⟩
  · intro payout
    obtain ⟨booking, listing, named, stored, joined, owner⟩ := due.2 payout
    obtain ⟨later, found, sameId, sameListing, _⟩ := keeps.bookings booking stored
    refine ⟨later, listing, by rw [sameId]; exact named, found, ?_, owner⟩
    rw [keeps.listings, sameListing]
    exact joined

/-- One thing an entry does to the tables.  A wallet transaction that lowers
a balance is the issuer's own. -/
inductive Deed (issuer : Option Nat) (before : Backend) : Backend → Prop
  | leave {after : Backend} (listings : after.listings = before.listings)
      (bookings : after.bookings.rows = before.bookings.rows)
      (wallets : after.ledger.wallets.rows = before.ledger.wallets.rows)
      (transactions :
        after.ledger.transactions.rows = before.ledger.transactions.rows) :
      Deed issuer before after
  | insert (draft : BookingDraft)
      (known : (before.listings.find? draft.listingId).isSome) :
      Deed issuer before (before.withInserted draft known)
  | save {bookingId : Nat} {loaded : LoadedBooking} {updated : Booking} (known)
      (found : before.findById bookingId = .ok loaded)
      (sameId : updated.id = loaded.booking.id)
      (sameListing : updated.listingId = loaded.booking.listingId)
      (sameRenter : updated.renterId = loaded.booking.renterId) :
      Deed issuer before (before.withSaved updated known)
  | opens (userId : Nat) : Deed issuer before (before.withWallet userId)
  | transact {aborts : Bool} {operation : WalletOperation} {after : Backend}
      (committed : before.transact aborts operation = .ok after)
      (balanced : operation.Balanced)
      (own : operation.delta < 0 → issuer = some operation.userId)
      (due : before.Due operation.type operation.bookingId operation.userId) :
      Deed issuer before after

/-- What an entry does: deed after deed. -/
abbrev Deeds (issuer : Option Nat) : Backend → Backend → Prop :=
  ReflTransGen (Deed issuer)

/-- What the ledger records: every user's balance adds up to the user's
entries, and refunds and payouts are made to the users they are due to. -/
structure Attributed (backend : Backend) : Prop where
  accounted : ∀ userId,
    backend.ledger.balanceOf userId = backend.ledger.netOf userId
  due : ∀ row ∈ backend.ledger.transactions.rows,
    backend.Due row.type row.bookingId row.userId

theorem attributed_opening (listings : KeyedTable Listing Listing.id)
    (roles : List (Nat × UserRoleType)) :
    (opening listings roles).Attributed :=
  ⟨fun _ => rfl, nofun⟩

namespace Deed

variable {issuer : Option Nat}

theorem keepsParties (deed : Deed issuer before after) :
    before.KeepsParties after := by
  cases deed with
  | leave listings bookings _ _ =>
      refine ⟨listings, fun booking stored => ⟨booking, ?_, rfl, rfl, rfl⟩⟩
      rw [KeyedTable.find?, bookings]
      exact stored
  | insert draft known =>
      refine ⟨rfl, fun booking stored => ⟨booking, ?_, rfl, rfl, rfl⟩⟩
      have older := before.bookings.lt_of_find? stored
      rw [withInserted, KeyedTable.find?_insert, if_neg older.ne]
      exact stored
  | @save bookingId loaded updated known found sameId sameListing sameRenter =>
      refine ⟨rfl, fun booking stored => ?_⟩
      have loadedStored := (findById_ok_iff.mp found).1
      have loadedId := before.bookings.key_of_find? loadedStored
      by_cases same : booking.id = updated.id
      · obtain rfl : loaded.booking = booking := by
          rw [same, sameId, loadedId, loadedStored] at stored
          exact Option.some.inj stored
        exact ⟨updated, by simp [withSaved], sameId, sameListing, sameRenter⟩
      · exact ⟨booking, by simp [withSaved, same, stored], rfl, rfl, rfl⟩
  | opens userId => exact ⟨rfl, fun booking stored => ⟨booking, stored, rfl, rfl, rfl⟩⟩
  | transact committed _ _ _ =>
      obtain ⟨_, _, known, rfl⟩ := transact_ok_iff.mp committed
      exact ⟨rfl, fun booking stored => ⟨booking, stored, rfl, rfl, rfl⟩⟩

/-- A deed changes the balance of one user at most, and lowers only the
issuer's. -/
theorem balanceOf_le (deed : Deed issuer before after) {userId : Nat}
    (other : issuer ≠ some userId) :
    before.ledger.balanceOf userId ≤ after.ledger.balanceOf userId := by
  cases deed with
  | leave _ _ wallets _ =>
      rw [Ledger.balanceOf, Ledger.balanceOf, KeyedTable.total,
        KeyedTable.total, wallets]
  | insert draft known => exact le_rfl
  | save known found sameId sameListing sameRenter => exact le_rfl
  | opens opener => exact (Ledger.balanceOf_findWalletByUser opener userId).ge
  | @transact aborts operation _ committed _ own _ =>
      obtain ⟨_, _, known, rfl⟩ := transact_ok_iff.mp committed
      have posted := Ledger.balanceOf_posted userId
        (before.ledger.locks_findWallet operation.userId)
      simp only [withPosted]
      rw [posted]
      split
      · next named =>
          have gains : ¬ operation.delta < 0 := fun lowers =>
            other (by rw [own lowers, named])
          omega
      · omega

theorem attributed (deed : Deed issuer before after)
    (kept : before.Attributed) : after.Attributed := by
  have parties := deed.keepsParties
  cases deed with
  | leave _ _ wallets transactions =>
      refine ⟨fun userId => ?_, fun row present => ?_⟩
      · have accounted := kept.accounted userId
        rw [Ledger.balanceOf, Ledger.netOf, KeyedTable.total,
          KeyedTable.total] at accounted ⊢
        rw [wallets, transactions]
        exact accounted
      · rw [transactions] at present
        exact (kept.due row present).later parties
  | insert draft known =>
      exact ⟨kept.accounted, fun row present =>
        (kept.due row present).later parties⟩
  | save known found sameId sameListing sameRenter =>
      exact ⟨kept.accounted, fun row present =>
        (kept.due row present).later parties⟩
  | opens opener =>
      refine ⟨fun userId => ?_, fun row present => (kept.due row present).later parties⟩
      exact (Ledger.balanceOf_findWalletByUser opener userId).trans
        (kept.accounted userId)
  | @transact aborts operation _ committed balanced own due =>
      obtain ⟨_, _, known, rfl⟩ := transact_ok_iff.mp committed
      refine ⟨fun userId => ?_, fun row present => ?_⟩
      · have posted := Ledger.balanceOf_posted userId
          (before.ledger.locks_findWallet operation.userId)
        simp only [withPosted]
        rw [posted, kept.accounted userId]
        simp only [Ledger.netOf, Ledger.posted_transactions,
          KeyedTable.total_insert]
        rw [balanced]
        rfl
      · rcases (before.ledger.transactions.mem_insert_iff operation.entry
          operation.entry_id).mp present with old | rfl
        · exact (kept.due row old).later parties
        · exact due.later parties

end Deed

variable {issuer : Option Nat}

/-- Whoever is not the issuer has at least the old balance after any number
of deeds. -/
theorem Deeds.balanceOf_le (deeds : Deeds issuer before after) {userId : Nat}
    (other : issuer ≠ some userId) :
    before.ledger.balanceOf userId ≤ after.ledger.balanceOf userId := by
  induction deeds with
  | refl => exact le_rfl
  | tail _ deed ih => exact ih.trans (deed.balanceOf_le other)

theorem Deeds.attributed (deeds : Deeds issuer before after)
    (kept : before.Attributed) : after.Attributed := by
  induction deeds with
  | refl => exact kept
  | tail _ deed ih => exact deed.attributed ih

/-- A handled event sends signals and moves jobs only. -/
theorem Deeds.handle (issuer : Option Nat) (environment : Environment)
    (backend : Backend) (event : BookingEvent) :
    Deeds issuer backend (BookingsListener.handle environment backend event) := by
  apply ReflTransGen.single
  cases event <;> exact .leave rfl rfl rfl rfl

/-- A wallet transaction that commits or throws, for a user the issuer may
charge and to whom what it pays is due. -/
theorem Deeds.transact {environment : Environment} {backend : Backend}
    {operation : WalletOperation} (balanced : operation.Balanced)
    (own : operation.delta < 0 → issuer = some operation.userId)
    (due : backend.Due operation.type operation.bookingId operation.userId) :
    Deeds issuer backend
      (run (WalletsService.transact environment operation) backend).2 := by
  rcases WalletsService.transact_cases environment backend operation with
    ⟨error, ran⟩ | ⟨after, committed, ran⟩
  · rw [ran]
  · rw [ran]
    exact .single (.transact committed balanced own due)

theorem Deeds.findWalletByUser {environment : Environment} {backend : Backend}
    {userId : Nat} :
    Deeds issuer backend
      (run (WalletsService.findWalletByUser environment userId) backend).2 := by
  rcases WalletsService.findWalletByUser_cases environment backend userId with
    ⟨error, ran⟩ | ⟨wallet, ran⟩
  · rw [ran]
  · rw [ran]
    exact .single (.opens userId)

/-- Nothing is due for the types that neither refund nor pay out. -/
theorem due_of_type {backend : Backend} (operation : WalletOperation)
    (notRefund : operation.type ≠ .refund)
    (notPayout : operation.type ≠ .bookingPayout) :
    backend.Due operation.type operation.bookingId operation.userId :=
  ⟨fun refund => absurd refund notRefund, fun payout => absurd payout notPayout⟩

/-- The booking just saved is stored with its new columns. -/
theorem find?_withSaved {backend : Backend} {updated : Booking} {known} :
    (backend.withSaved updated known).bookings.find? updated.id =
      some updated := by
  simp [withSaved]

theorem due_refund {backend : Backend} {updated : Booking} {known} :
    (backend.withSaved updated known).Due .refund (some updated.id)
      updated.renterId :=
  ⟨fun _ => ⟨updated, rfl, find?_withSaved, rfl⟩, nofun⟩

end Backend

open Backend

variable {zone : Zone} {environment : Environment} {backend : Backend}
  {userId bookingId : Nat}

namespace BookingsHandler

theorem deeds_transactIfAny {issuer : Option Nat} {after : Backend}
    {operation : Option WalletOperation}
    (settled : transactIfAny environment backend operation = .ok after)
    (balanced : ∀ made ∈ operation, made.Balanced)
    (own : ∀ made ∈ operation, made.delta < 0 → issuer = some made.userId)
    (due : ∀ made ∈ operation,
      backend.Due made.type made.bookingId made.userId) :
    Deeds issuer backend after := by
  cases operation with
  | none =>
      obtain rfl := Except.ok.inj settled
      exact .refl
  | some operation =>
      exact .single (.transact settled (balanced operation rfl)
        (own operation rfl) (due operation rfl))

/-- A resolution refunds the renter of the booking it has saved. -/
theorem deeds_resolve (resolution : Resolution) :
    Deeds (some userId) backend
      (run (resolve resolution environment userId bookingId) backend).2 := by
  rcases resolve_cases environment backend userId bookingId resolution with
    ⟨error, _, ran⟩ | ⟨loaded, known, passes, ran⟩
  · rw [ran]
  · rw [ran]
    have saved : Deeds (some userId) backend (backend.withSaved
        (loaded.withStatus resolution.newStatus).booking known) :=
      .single (.save known passes.1 rfl rfl rfl)
    split
    · next after settled =>
        refine saved.trans (.trans ?_ (Deeds.handle _ _ _ _))
        refine deeds_transactIfAny settled ?_ ?_ ?_
        · intro made present
          obtain ⟨_, rfl⟩ := of_mem_refund present
          exact WalletOperation.balanced_processRefund _ _ _
        · intro made present lowers
          obtain ⟨_, rfl⟩ := of_mem_refund present
          simp only [WalletOperation.delta, WalletsService.processRefund]
            at lowers
          omega
        · intro made present
          obtain ⟨_, rfl⟩ := of_mem_refund present
          exact due_refund
    · exact saved

/-- A period update charges or refunds the renter, who is the caller. -/
theorem deeds_updatePeriod (updateDto : UpdateBookingPeriodDto) :
    Deeds (some userId) backend
      (run (updatePeriod zone environment userId bookingId updateDto)
        backend).2 := by
  rcases updatePeriod_cases zone environment backend userId bookingId
    updateDto with ⟨error, _, ran⟩ | ⟨loaded, updated, known, updates, ran⟩
  · rw [ran]
  · rw [ran]
    obtain ⟨sameId, sameListing, sameRenter, _⟩ := updates.identity
    have caller : updated.renterId = userId := by
      rw [sameRenter, (guardUpdate_ok_iff.mp updates.guarded).1]
    have named : updated.id = bookingId := by
      rw [sameId, Backend.id_of_findById updates.found]
    have saved : Deeds (some userId) backend
        (backend.withSaved updated known) :=
      .single (.save known updates.found sameId sameListing sameRenter)
    split
    · next after settled =>
        have heard := Deeds.handle (some userId) environment after
          (.periodUpdated ⟨updated, loaded.listing⟩ loaded.booking.period)
        refine saved.trans (.trans ?_ heard)
        refine deeds_transactIfAny settled ?_ ?_ ?_
        · intro made present
          rcases settlement_cases present with ⟨_, rfl⟩ | ⟨_, rfl⟩
          · exact WalletOperation.balanced_processBookingPayment userId bookingId
              (priceDiff loaded updated)
          · exact WalletOperation.balanced_processRefund _ _ _
        · intro made present _
          rw [userId_of_mem_settlement present]
        · intro made present
          rcases settlement_cases present with ⟨_, rfl⟩ | ⟨_, rfl⟩
          · exact due_of_type (WalletsService.processBookingPayment userId
              bookingId (priceDiff loaded updated)) (by rintro ⟨⟩)
              (by rintro ⟨⟩)
          · simp only [WalletsService.processRefund]
            rw [← named, ← caller]
            exact due_refund
    · exact saved

/-- A creation charges its caller; without the payment it leaves no row. -/
theorem deeds_create (createDto : CreateBookingDto) :
    Deeds (some userId) backend
      (run (create zone environment userId createDto) backend).2 := by
  rcases create_cases zone environment backend userId createDto with
    ⟨error, ran⟩ | ⟨draft, known, loaded, _, _, ran⟩
  · rw [ran]
  · rw [ran]
    split
    · next after paid =>
        have heard := Deeds.handle (some userId) environment after
          (.created loaded)
        refine ReflTransGen.trans (.single (.insert draft known))
          (.trans (.single ?_) heard)
        exact .transact paid
          (WalletOperation.balanced_processBookingPayment _ _ _)
          (fun _ => rfl) (due_of_type (WalletsService.processBookingPayment
            userId backend.bookings.nextId draft.totalPrice) nofun nofun)
    · obtain ⟨bookings, wallets, transactions⟩ :=
        @Backend.sameTables_removeBooking backend draft known
      exact .single (.leave rfl bookings wallets transactions)

theorem deeds_handle (made : BookingRequest) :
    Deeds (some userId) backend
      (run (made.handle zone environment userId) backend).2 := by
  cases made with
  | create createDto => exact deeds_create createDto
  | updatePeriod bookingId updateDto => exact deeds_updatePeriod updateDto
  | resolve resolution bookingId =>
      cases resolution with
      | cancel => exact deeds_resolve .cancel
      | confirm => exact deeds_resolve .confirm
      | reject => exact deeds_resolve .reject

end BookingsHandler

/-- A status update by a job, and a call that may fail after it. -/
theorem deeds_updateStatus {issuer : Option Nat} {newStatus : BookingStatus} :
    Deeds issuer backend
      (run (BookingsService.updateStatus bookingId newStatus) backend).2 := by
  rcases BookingsService.run_updateStatus backend bookingId newStatus with
    ⟨error, _, ran⟩ | ⟨loaded, known, found, ran⟩
  · rw [ran]
  · rw [ran]
    exact .single (.save known found rfl rfl rfl)

theorem deeds_unlessFails {α : Type} {issuer : Option Nat} (fails : Bool)
    {call : Service α} (deeds : Deeds issuer backend (run call backend).2) :
    Deeds issuer backend (run (unlessFails fails call) backend).2 := by
  cases fails with
  | true => exact .refl
  | false => exact deeds

/-- A call that may fail has returned only if the call itself has. -/
theorem unlessFails_ok {α : Type} {fails : Bool} {call : Service α}
    {value : α} {after : Backend}
    (returned : run (unlessFails fails call) backend = (.ok value, after)) :
    run call backend = (.ok value, after) := by
  cases fails with
  | true => simp [unlessFails] at returned
  | false => exact returned

theorem deeds_startJob (faults : StartFaults) :
    Deeds none backend
      (run (BookingStartProcessor.process environment faults bookingId)
        backend).2 := by
  refine related_bind ReflTransGen.trans (deeds_unlessFails _ .refl) ?_
  intro loaded same _
  split
  · exact .refl
  · refine related_bind ReflTransGen.trans
      (deeds_unlessFails _ deeds_updateStatus) ?_
    intro _ saved _
    exact deeds_unlessFails _ (.single (.leave rfl rfl rfl rfl))

/-- A completion job pays the owner of the completed booking's listing. -/
theorem deeds_completionJob (faults : CompletionFaults) :
    Deeds none backend
      (run (BookingCompletionProcessor.process environment faults bookingId)
        backend).2 := by
  refine related_bind ReflTransGen.trans (deeds_unlessFails _ .refl) ?_
  intro loaded same returned
  have read := unlessFails_ok returned
  rw [BookingsService.run_findById] at read
  obtain ⟨found, rfl⟩ := Prod.mk.inj read
  split
  · exact .refl
  split
  · exact .refl
  refine related_bind ReflTransGen.trans
    (deeds_unlessFails _ deeds_updateStatus) ?_
  intro _ saved updated
  obtain ⟨known, rfl⟩ : ∃ known, saved =
      backend.withSaved (loaded.withStatus .completed).booking known := by
    have ran := unlessFails_ok updated
    rcases BookingsService.run_updateStatus backend bookingId .completed with
      ⟨error, _, failed⟩ | ⟨again, known, second, wrote⟩
    · simp [failed] at ran
    · obtain rfl : again = loaded := by
        rw [found] at second
        exact (Except.ok.inj second).symm
      rw [wrote] at ran
      exact ⟨known, (Prod.mk.inj ran).2.symm⟩
  have joined := (findById_ok_iff.mp found).2
  refine related_bind ReflTransGen.trans (deeds_unlessFails _ ?_) ?_
  · refine Deeds.transact (WalletOperation.balanced_processBookingPayout _ _ _)
      ?_ ⟨nofun, fun _ => ?_⟩
    · intro lowers
      simp only [WalletOperation.delta, WalletsService.processBookingPayout]
        at lowers
      omega
    · exact ⟨(loaded.withStatus .completed).booking, loaded.listing, rfl,
        find?_withSaved, joined, rfl⟩
  · intro _ paid _
    refine related_bind ReflTransGen.trans
      (deeds_unlessFails _ (.single (.leave rfl rfl rfl rfl))) ?_
    intro _ told _
    exact deeds_unlessFails _ (.single (.leave rfl rfl rfl rfl))

/-- A press acts for the user linked to the Telegram account, or not at all. -/
theorem deeds_callbackQuery {number : String → Option Nat}
    {circumstances : Circumstances} (query : TelegramCallbackQuery) :
    Deeds (circumstances.findByTelegramId query.fromId) backend
      (run (TelegramService.handleCallbackQuery number circumstances query)
        backend).2 := by
  unfold TelegramService.handleCallbackQuery
  split
  · exact .refl
  split
  · exact .refl
  · next userId linked =>
    split
    · next action rest named =>
      unfold TelegramBookingsHandlerService.handleBookingStatusUpdate
      have lookedUp (text : Option String) : Deeds (some userId) backend
          (run (TelegramBookingsHandlerService.bookingIdOf number text)
            backend).2 := by
        unfold TelegramBookingsHandlerService.bookingIdOf
        split <;> exact .refl
      have kept {text : Option String} {bookingId : Nat} {after : Backend}
          (returned : run (TelegramBookingsHandlerService.bookingIdOf number
            text) backend = (.ok bookingId, after)) : after = backend := by
        unfold TelegramBookingsHandlerService.bookingIdOf at returned
        split at returned
        · exact (Prod.mk.inj returned).2.symm
        · simp at returned
      rw [linked]
      split
      · refine related_bind ReflTransGen.trans (lookedUp _) ?_
        intro bookingId same returned
        obtain rfl := kept returned
        rw [run_botCall]
        exact BookingsHandler.deeds_resolve .confirm
      split
      · refine related_bind ReflTransGen.trans (lookedUp _) ?_
        intro bookingId same returned
        obtain rfl := kept returned
        rw [run_botCall]
        exact BookingsHandler.deeds_resolve .reject
      · exact .refl
    · exact .refl

namespace EntryPoint

/-- Every entry is a sequence of deeds of its issuer. -/
theorem deeds_of_step {number : String → Option Nat}
    {circumstances : Circumstances} {entry : EntryPoint} {after : Backend}
    (taken : step zone number backend (circumstances, entry) = some after) :
    Deeds (entry.issuer circumstances) backend after := by
  obtain rfl := Option.some.inj taken
  cases entry with
  | findWallet userId => exact Deeds.findWalletByUser
  | deposit userId amount =>
      exact Deeds.transact (WalletOperation.balanced_deposit _ _)
        (fun _ => rfl)
        (due_of_type (WalletsService.deposit userId amount) nofun nofun)
  | withdraw userId amount =>
      exact Deeds.transact (WalletOperation.balanced_withdraw _ _)
        (fun _ => rfl)
        (due_of_type (WalletsService.withdraw userId amount) nofun nofun)
  | request userId made => exact BookingsHandler.deeds_handle made
  | callbackQuery query => exact deeds_callbackQuery query
  | startJob bookingId faults => exact deeds_startJob faults
  | completionJob bookingId faults => exact deeds_completionJob faults

end EntryPoint

/-- Only the owner spends: after every run of entries, and for every next
entry, a user's balance goes down only when the user has issued the entry;
each ledger entry is credited to the user it names, refunds to the renter of
their booking and payouts to the owner of their booking's listing. -/
theorem only_owner_spends {number : String → Option Nat}
    (listings : KeyedTable Listing Listing.id)
    (roles : List (Nat × UserRoleType)) {before : Backend}
    (reached : Reachable (EntryPoint.step zone number)
      (.opening listings roles) before) :
    (∀ circumstances entry after,
      EntryPoint.step zone number before (circumstances, entry) = some after →
      ∀ userId, after.ledger.balanceOf userId <
          before.ledger.balanceOf userId →
        entry.issuer circumstances = some userId) ∧
    (∀ userId, before.ledger.balanceOf userId = before.ledger.netOf userId) ∧
    (∀ row ∈ before.ledger.transactions.rows, row.type = .refund →
      ∃ booking, row.bookingId = some booking.id ∧
        before.bookings.find? booking.id = some booking ∧
          row.userId = booking.renterId) ∧
    (∀ row ∈ before.ledger.transactions.rows, row.type = .bookingPayout →
      ∃ booking listing, row.bookingId = some booking.id ∧
        before.bookings.find? booking.id = some booking ∧
          before.listings.find? booking.listingId = some listing ∧
            row.userId = listing.userId) := by
  have attributed : before.Attributed := by
    refine Run.invariant Attributed (attributed_opening listings roles) ?_
      reached
    rintro earlier ⟨circumstances, entry⟩ later kept _ taken
    exact (EntryPoint.deeds_of_step taken).attributed kept
  refine ⟨?_, attributed.accounted,
    fun row present => (attributed.due row present).1,
    fun row present => (attributed.due row present).2⟩
  intro circumstances entry after taken userId lowered
  by_contra other
  have gained := (EntryPoint.deeds_of_step taken).balanceOf_le other
  omega

/-- A wallet opened, a deposit, a booking paid from it, and its rejection by a press
of the owner, whose Telegram account is 77. -/
def ownerSpendsLabels : List (Circumstances × EntryPoint) :=
  [(⟨.at 0, fun _ => none⟩, .findWallet 2),
    (⟨.at 0, fun _ => none⟩, .deposit 2 300),
    (⟨.at 0, fun _ => none⟩, .request 2 (.create ⟨1, .hour, 0, .one⟩)),
    (⟨.at 0, fun id => if id = 77 then some 1 else none⟩,
      .callbackQuery ⟨77, some 5, some 6, some ["booking", "reject", "1"]⟩)]

def ownerSpendsState : Backend :=
  (execute (EntryPoint.step .utc fun text => if text = "1" then some 1 else none)
    .sample ownerSpendsLabels).getD .sample

theorem only_owner_spends_sample :
    (∀ circumstances entry after,
      EntryPoint.step .utc (fun text => if text = "1" then some 1 else none)
        ownerSpendsState (circumstances, entry) = some after →
      ∀ userId, after.ledger.balanceOf userId <
          ownerSpendsState.ledger.balanceOf userId →
        entry.issuer circumstances = some userId) ∧
    (∀ userId, ownerSpendsState.ledger.balanceOf userId =
      ownerSpendsState.ledger.netOf userId) ∧
    (∀ row ∈ ownerSpendsState.ledger.transactions.rows, row.type = .refund →
      ∃ booking, row.bookingId = some booking.id ∧
        ownerSpendsState.bookings.find? booking.id = some booking ∧
          row.userId = booking.renterId) ∧
    (∀ row ∈ ownerSpendsState.ledger.transactions.rows,
      row.type = .bookingPayout →
      ∃ booking listing, row.bookingId = some booking.id ∧
        ownerSpendsState.bookings.find? booking.id = some booking ∧
          ownerSpendsState.listings.find? booking.listingId = some listing ∧
            row.userId = listing.userId) :=
  only_owner_spends
    (KeyedTable.empty.insert sampleListing sampleListing_id)
    [(2, .renter), (3, .renter)]
    (reachable_of_execute _ _ ownerSpendsLabels rfl)

/-- The rejection has paid the renter back. -/
example : ownerSpendsState.ledger.balanceOf 2 = 300 := by decide

end SpareSpace
