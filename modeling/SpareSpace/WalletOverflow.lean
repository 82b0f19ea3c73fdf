import SpareSpace.BookingOperations
import Mathlib.Algebra.Order.BigOperators.Group.List

/-!
# The bound of the balance column

Balances and prices are kept in columns of ten digits, two of them decimals, and a
write above the bound fails.  The room that a user's wallet must have is its balance
with the prices that may still come back to it: those of the pending bookings the user
has made and of the active bookings of the user's listings.  Payments, refunds and
payouts leave the sum as it is or lower it; deposits, starting bookings and price
rises that are not paid raise it, and nothing bounds the sum.
-/

namespace SpareSpace

open Fallible TransitionRuns

/-- The greatest value of a `DECIMAL(10,2)`, in hundredths. -/
def maxDecimal : Int :=
  9999999999

namespace Backend

variable (backend : Backend)

/-- The prices of all bookings fit in their columns. -/
def PricesFit : Prop :=
  ∀ booking ∈ backend.bookings.rows,
    (booking.price : Int) ≤ maxDecimal ∧ (booking.totalPrice : Int) ≤ maxDecimal

instance : Decidable backend.PricesFit :=
  inferInstanceAs (Decidable (∀ booking ∈ backend.bookings.rows,
    (booking.price : Int) ≤ maxDecimal ∧ (booking.totalPrice : Int) ≤ maxDecimal))

/-- The balances of all wallets fit in their columns. -/
def BalancesFit : Prop :=
  ∀ wallet ∈ backend.ledger.wallets.rows, wallet.balance ≤ maxDecimal

instance : Decidable backend.BalancesFit :=
  inferInstanceAs (Decidable (∀ wallet ∈ backend.ledger.wallets.rows,
    wallet.balance ≤ maxDecimal))

/-- The refund of every pending booking and the payout of every active one fit in the
wallets that receive them. -/
def SettlementsFit : Prop :=
  ∀ bookingId loaded, backend.findById bookingId = .ok loaded →
    (loaded.booking.status = .pending →
      backend.ledger.walletBalance loaded.booking.renterId +
        loaded.booking.totalPrice ≤ maxDecimal) ∧
    (loaded.booking.status = .active →
      backend.ledger.walletBalance loaded.listing.userId +
        loaded.booking.totalPrice ≤ maxDecimal)

/-- What a booking may still bring into the wallet of a user. -/
def claim (userId : Nat) (booking : Booking) : Int :=
  if booking.status = .pending ∧ booking.renterId = userId ∨
      booking.status = .active ∧
        (backend.listings.find? booking.listingId).map Listing.userId = some userId then
    booking.totalPrice
  else
    0

/-- The balance of a user with all that may still come into the wallet. -/
def room (userId : Nat) : Int :=
  backend.ledger.walletBalance userId + backend.bookings.total (backend.claim userId)

end Backend

namespace Operation

/-- An operation as it happens with these columns.  A booking whose price does not fit
is not written, and its request ends there; a wallet transaction whose balance does not
fit is aborted. -/
def decimalHappens (zone : Zone) (backend : Backend)
    (label : Environment × Operation) : Option Backend :=
  match happens zone backend label with
  | none => none
  | some after =>
      if ¬ after.PricesFit then
        some backend
      else if after.BalancesFit then
        some after
      else
        happens zone backend ({ label.1 with walletAborts := true }, label.2)

/-- The operations in question: deposits and withdrawals of amounts that
`WalletOperationDto` accepts, booking requests and jobs. -/
def Accepted : Operation → Prop
  | deposit _ amount | withdraw _ amount => 0 < amount ∧ amount ≤ maxDecimal
  | editListing _ => False
  | _ => True

/-- The wallet has room for what the operation brings: the amount of a deposit that is
written, the price of a booking that starts, and a price rise that is saved and not
paid. -/
def HasRoom (zone : Zone) (backend : Backend) (environment : Environment) :
    Operation → Prop
  | deposit userId amount =>
      environment.walletAborts = false →
        backend.ledger.walletBalance userId + amount ≤ maxDecimal →
          backend.room userId + amount ≤ maxDecimal
  | startJob bookingId => ∀ loaded, backend.findById bookingId = .ok loaded →
      loaded.booking.status = .confirmed →
        backend.room loaded.listing.userId + loaded.booking.totalPrice ≤ maxDecimal
  | request userId (.updatePeriod bookingId dto) => ∀ loaded updated,
      BookingsHandler.Updates zone environment backend userId bookingId dto loaded
        updated →
      (updated.totalPrice : Int) ≤ maxDecimal →
      BookingsHandler.Unsettled environment backend userId bookingId loaded updated →
        backend.room userId + BookingsHandler.priceDiff loaded updated ≤ maxDecimal
  | _ => True

end Operation

namespace Backend

variable {backend : Backend}

theorem room_withPosted {operation : WalletOperation} {known} (userId : Nat) :
    (backend.withPosted (backend.ledger.findWallet operation.userId) operation
        known).room userId =
      backend.room userId +
        if operation.userId = userId ∧ (backend.ledger.findWallet userId).isSome then
          operation.delta
        else 0 := by
  have balance := @Ledger.walletBalance_posted backend.ledger operation userId
  change _ + backend.bookings.total (backend.claim userId) = _ + _ + _
  rw [add_right_comm]
  exact congrArg (· + _) balance

theorem room_withSaved {loaded : LoadedBooking} {updated : Booking} {bookingId : Nat}
    {known} (found : backend.findById bookingId = .ok loaded)
    (named : updated.id = loaded.booking.id) (userId : Nat) :
    (backend.withSaved updated known).room userId =
      backend.room userId - backend.claim userId loaded.booking +
        backend.claim userId updated := by
  have stored := (findById_ok_iff.mp found).1
  rw [← backend.bookings.key_of_find? stored, ← named] at stored
  have total := backend.bookings.total_save_of_find? (backend.claim userId) stored
  change backend.ledger.walletBalance userId +
      (backend.bookings.save updated).total (backend.claim userId) =
    backend.ledger.walletBalance userId + _ - _ + _
  rw [total]
  ring

theorem room_withInserted {draft : BookingDraft} {known} (userId : Nat) :
    (backend.withInserted draft known).room userId =
      backend.room userId +
        if draft.renterId = userId then (draft.totalPrice : Int) else 0 := by
  have claimed : backend.claim userId (draft.row backend.bookings.nextId) =
      if draft.renterId = userId then (draft.totalPrice : Int) else 0 := by
    simp [claim, BookingDraft.row]
  have total := backend.bookings.total_insert (backend.claim userId) draft.row draft.row_id
  change backend.ledger.walletBalance userId +
      (backend.bookings.insert draft.row draft.row_id).total (backend.claim userId) =
    backend.ledger.walletBalance userId + _ + _
  rw [total, claimed, add_assoc]

theorem claim_nonneg (backend : Backend) (userId : Nat) (booking : Booking) :
    0 ≤ backend.claim userId booking := by
  unfold claim
  split <;> omega

theorem claim_of_pending {booking : Booking} (pending : booking.status = .pending)
    (userId : Nat) :
    backend.claim userId booking =
      if booking.renterId = userId then (booking.totalPrice : Int) else 0 := by
  simp [claim, pending]

theorem claim_of_active {booking : Booking} {listing : Listing}
    (active : booking.status = .active)
    (joined : backend.listings.find? booking.listingId = some listing) (userId : Nat) :
    backend.claim userId booking =
      if listing.userId = userId then (booking.totalPrice : Int) else 0 := by
  simp [claim, active, joined]

theorem claim_of_settled {booking : Booking} (notPending : booking.status ≠ .pending)
    (notActive : booking.status ≠ .active) (userId : Nat) :
    backend.claim userId booking = 0 := by
  simp [claim, notPending, notActive]

theorem walletBalance_le_room (userId : Nat) :
    backend.ledger.walletBalance userId ≤ backend.room userId := by
  refine le_add_of_nonneg_right (List.sum_nonneg fun amount present => ?_)
  obtain ⟨booking, _, rfl⟩ := List.mem_map.mp present
  exact backend.claim_nonneg userId booking

/-- The room of a user counts each booking of the tables. -/
theorem balance_add_claim_le_room {booking : Booking}
    (stored : booking ∈ backend.bookings.rows) (userId : Nat) :
    backend.ledger.walletBalance userId + backend.claim userId booking ≤
      backend.room userId := by
  refine add_le_add_right (List.single_le_sum ?_ _ (List.mem_map_of_mem stored)) _
  intro amount present
  obtain ⟨other, _, rfl⟩ := List.mem_map.mp present
  exact backend.claim_nonneg userId other

theorem BalancesFit.walletBalance_le (fits : backend.BalancesFit) (userId : Nat) :
    backend.ledger.walletBalance userId ≤ maxDecimal := by
  unfold Ledger.walletBalance
  cases found : backend.ledger.findWallet userId with
  | none => decide
  | some wallet => exact fits wallet (backend.ledger.locks_findWallet userId wallet found).1

/-- All that may come into a wallet fits in it. -/
structure Roomy (backend : Backend) : Prop where
  room : ∀ userId, backend.room userId ≤ maxDecimal
  balances : backend.BalancesFit

namespace Roomy

/-- Refunds and payouts are among what may come into a wallet. -/
theorem settlementsFit (roomy : backend.Roomy) : backend.SettlementsFit := by
  intro bookingId loaded found
  obtain ⟨located, joined⟩ := findById_ok_iff.mp found
  have counted (userId : Nat) :=
    balance_add_claim_le_room (backend.bookings.mem_of_find? located) userId
  constructor
  · intro pending
    have fits := (counted loaded.booking.renterId).trans (roomy.room _)
    rwa [claim_of_pending pending, if_pos rfl] at fits
  · intro active
    have fits := (counted loaded.listing.userId).trans (roomy.room _)
    rwa [claim_of_active active joined, if_pos rfl] at fits

/-- A posting after which the room of its user fits. -/
theorem withPosted {operation : WalletOperation} {known} (balances : backend.BalancesFit)
    (funds : ¬ Ledger.Short (backend.ledger.findWallet operation.userId) operation)
    (credit : operation.insufficient = none → 0 ≤ operation.amount)
    (own : backend.room operation.userId + operation.delta ≤ maxDecimal)
    (others : ∀ userId, operation.userId ≠ userId → backend.room userId ≤ maxDecimal) :
    (backend.withPosted (backend.ledger.findWallet operation.userId) operation
      known).Roomy where
  room userId := by
    rw [room_withPosted]
    by_cases same : operation.userId = userId
    · subst same
      cases found : backend.ledger.findWallet operation.userId with
      | some wallet => simpa [found] using own
      | none =>
          -- The balance that is read stays at zero, and nothing is taken out.
          have gains := Ledger.delta_nonneg_of_opening (found ▸ funds) credit
          simp only [Option.isSome_none, Bool.false_eq_true, and_false, if_false, add_zero]
          omega
    · simpa [same] using others userId same
  balances wallet written := by
    have least := @walletBalance_le_room backend operation.userId
    have before := balances.walletBalance_le operation.userId
    rw [Ledger.walletBalance] at least before
    rcases Ledger.mem_posted_wallets
      (backend.ledger.locks_findWallet operation.userId) written with
      ⟨_, balance | balance⟩ | old
    · omega
    · omega
    · exact balances wallet old

/-- A write of a booking after which the room of all users fits. -/
theorem withSaved {loaded : LoadedBooking} {updated : Booking} {bookingId : Nat} {known}
    (balances : backend.BalancesFit) (found : backend.findById bookingId = .ok loaded)
    (named : updated.id = loaded.booking.id)
    (fits : ∀ userId, backend.room userId - backend.claim userId loaded.booking +
      backend.claim userId updated ≤ maxDecimal) :
    (backend.withSaved updated known).Roomy where
  room userId := by
    rw [room_withSaved found named]
    exact fits userId
  balances := balances

/-- What a listener does touches neither bookings nor wallets. -/
theorem handle (roomy : backend.Roomy) (environment : Environment) (event : BookingEvent) :
    (BookingsListener.handle environment backend event).Roomy := by
  cases event <;> exact ⟨roomy.room, roomy.balances⟩

/-- A write of a booking with its wallet transaction, which together bring nothing new
into any wallet. -/
theorem settled {environment : Environment} {loaded : LoadedBooking} {updated : Booking}
    {bookingId : Nat} {known} {operation : Option WalletOperation} {after : Backend}
    (roomy : backend.Roomy) (found : backend.findById bookingId = .ok loaded)
    (named : updated.id = loaded.booking.id)
    (settled : BookingsHandler.transactIfAny environment
      (backend.withSaved updated known) operation = .ok after)
    (credit : ∀ made ∈ operation, made.insufficient = none → 0 ≤ made.amount)
    (covered : ∀ userId, backend.claim userId updated +
        operation.elim 0 (fun made => if made.userId = userId then made.delta else 0) ≤
      backend.claim userId loaded.booking) : after.Roomy := by
  cases operation with
  | none =>
      obtain rfl := Except.ok.inj settled
      refine withSaved roomy.balances found named fun userId => ?_
      have fits := roomy.room userId
      have less := covered userId
      simp only [Option.elim_none] at less
      omega
  | some operation =>
      obtain ⟨_, funds, names, rfl⟩ := transact_ok_iff.mp settled
      refine @withPosted (backend.withSaved updated known) _ _ roomy.balances funds
        (credit operation rfl) ?_ fun userId other => ?_
      · have fits := roomy.room operation.userId
        have less := covered operation.userId
        simp only [Option.elim_some, if_true] at less
        rw [room_withSaved found named]
        omega
      · have fits := roomy.room userId
        have less := covered userId
        simp only [Option.elim_some, other, if_false] at less
        rw [room_withSaved found named]
        omega

end Roomy

end Backend

namespace BookingsHandler

variable {userId bookingId : Nat} {priceDiff : Int} {residue : Ordering}

/-- A settlement moves the price difference out of the wallet of its user. -/
theorem settlement_moves (owner : Nat) :
    (settlement userId bookingId priceDiff residue).elim 0
        (fun made => if made.userId = owner then made.delta else 0) =
      if userId = owner then -priceDiff else 0 := by
  cases made : settlement userId bookingId priceDiff residue with
  | none => simp [settlement_eq_none made]
  | some operation =>
      simp only [Option.elim_some, userId_of_mem_settlement made,
        (of_mem_settlement made).2.2]

end BookingsHandler

namespace Operation

variable {zone : Zone} {environment : Environment} {backend after : Backend}
  {userId bookingId : Nat}

open Backend

theorem roomy_create (roomy : backend.Roomy) (createDto : CreateBookingDto) :
    (run (BookingsHandler.create zone environment userId createDto) backend).2.Roomy := by
  rcases BookingsHandler.create_cases zone environment backend userId createDto with
    ⟨error, ran⟩ | ⟨draft, known, loaded, creates, _, ran⟩
  · rw [ran]
    exact roomy
  · rw [ran]
    split
    · next settled paid =>
        obtain ⟨_, funds, names, rfl⟩ := transact_ok_iff.mp paid
        dsimp only
        have renter : draft.renterId = userId := by
          obtain ⟨listing, pricing, _, _, _, _, _, rfl⟩ := creates.passes
          rfl
        refine Roomy.handle (@Roomy.withPosted (backend.withInserted draft known) _ names
          roomy.balances funds nofun ?_ fun owner other => ?_) environment _
        · rw [room_withInserted, renter]
          simpa [WalletsService.processBookingPayment, WalletOperation.delta] using
            roomy.room userId
        · have elsewhere : userId ≠ owner := other
          rw [room_withInserted, renter, if_neg elsewhere, add_zero]
          exact roomy.room owner
    · refine ⟨fun owner => ?_, roomy.balances⟩
      have rows := backend.bookings.rows_remove_insert draft.row draft.row_id
      change backend.ledger.walletBalance owner + List.sum (List.map (backend.claim owner)
        ((backend.bookings.insert draft.row draft.row_id).remove _).rows) ≤ _
      rw [rows]
      exact roomy.room owner

theorem roomy_updatePeriod (roomy : backend.Roomy) (dto : UpdateBookingPeriodDto)
    (hasRoom : HasRoom zone backend environment (.request userId (.updatePeriod bookingId dto)))
    (fits : (run (BookingsHandler.updatePeriod zone environment userId bookingId dto)
      backend).2.PricesFit) :
    (run (BookingsHandler.updatePeriod zone environment userId bookingId dto)
      backend).2.Roomy := by
  rcases BookingsHandler.updatePeriod_cases zone environment backend userId bookingId
    dto with ⟨error, _, ran⟩ | ⟨loaded, updated, known, updates, ran⟩
  · rw [ran]
    exact roomy
  · obtain ⟨named, _, renter, status⟩ := updates.identity
    obtain ⟨rfl, pending⟩ := BookingsHandler.guardUpdate_ok_iff.mp updates.guarded
    have before := @claim_of_pending backend loaded.booking pending
    have later := @claim_of_pending backend updated (status.trans pending)
    simp only [renter] at later
    rw [ran] at fits ⊢
    split
    · next settled paid =>
        dsimp only
        refine Roomy.handle (roomy.settled updates.found named paid
          (fun made present => BookingsHandler.settlement_credit present)
          fun owner => ?_) environment _
        rw [BookingsHandler.settlement_moves, before, later, BookingsHandler.priceDiff]
        split <;> omega
    · next error failed =>
        rw [failed] at fits
        have priced : (updated.totalPrice : Int) ≤ maxDecimal :=
          (fits updated (backend.bookings.mem_save_iff.mpr (Or.inl rfl))).2
        have unsettled := (BookingsHandler.settlement_error_iff
          (named.trans (id_of_findById updates.found))).mp ⟨error, failed⟩
        have unpaid := hasRoom loaded updated updates priced unsettled
        refine @Roomy.withSaved _ _ _ _ known roomy.balances updates.found named fun owner => ?_
        have room := roomy.room owner
        rw [before, later]
        unfold BookingsHandler.priceDiff at unpaid
        split
        · next same =>
            subst same
            omega
        · omega

theorem roomy_resolve (roomy : backend.Roomy) (resolution : Resolution) :
    (run (BookingsHandler.resolve resolution environment userId bookingId)
      backend).2.Roomy := by
  rcases BookingsHandler.resolve_cases environment backend userId bookingId resolution with
    ⟨error, _, ran⟩ | ⟨loaded, known, passes, ran⟩
  · rw [ran]
    exact roomy
  · have pending := (Resolution.guard_ok_iff.mp passes.2).2.1
    have before := @claim_of_pending backend loaded.booking pending
    have later := @claim_of_settled backend
      (loaded.withStatus resolution.newStatus).booking (by cases resolution <;> nofun)
      (by cases resolution <;> nofun)
    rw [ran]
    split
    · next settled paid =>
        have named : (loaded.withStatus resolution.newStatus).booking.id =
            loaded.booking.id :=
          rfl
        dsimp only
        refine Roomy.handle (roomy.settled passes.1 named paid (fun made present _ => ?_)
          fun owner => ?_) environment _
        · rw [(BookingsHandler.of_mem_refund present).2]
          exact Int.natCast_nonneg _
        rw [later, before, BookingsHandler.refund]
        cases resolution <;> simp [Resolution.refunds, WalletsService.processRefund,
          WalletOperation.delta, LoadedBooking.withStatus]
        split <;> omega
    · refine @Roomy.withSaved _ _ _ _ known roomy.balances passes.1 rfl fun owner => ?_
      have room := roomy.room owner
      have nonneg := backend.claim_nonneg owner loaded.booking
      rw [later]
      omega

theorem roomy_runStartJob (roomy : backend.Roomy)
    (hasRoom : HasRoom zone backend environment (.startJob bookingId)) :
    (runStartJob environment bookingId backend).Roomy := by
  unfold runStartJob
  rcases BookingStartProcessor.process_cases environment backend bookingId with
    ⟨error, _, ran⟩ | ⟨loaded, _, _, ran⟩ | ⟨loaded, known, found, confirmed, ran⟩
  · rw [ran]
    exact roomy
  · rw [ran]
    exact ⟨roomy.room, roomy.balances⟩
  · have started : (backend.withSaved (loaded.withStatus .active).booking known).Roomy := by
      refine Roomy.withSaved roomy.balances found rfl fun owner => ?_
      have room := roomy.room owner
      have brought := hasRoom loaded found confirmed
      have before := @claim_of_settled backend loaded.booking (by simp [confirmed])
        (by simp [confirmed]) owner
      have later := @claim_of_active backend (loaded.withStatus .active).booking _ rfl
        (findById_ok_iff.mp found).2 owner
      rw [before, later]
      simp only [LoadedBooking.withStatus]
      split
      · next same =>
          subst same
          omega
      · omega
    rw [ran]
    exact ⟨started.room, started.balances⟩

theorem roomy_runCompletionJob (roomy : backend.Roomy) :
    (runCompletionJob environment bookingId backend).Roomy := by
  unfold runCompletionJob
  rcases BookingCompletionProcessor.process_cases environment backend bookingId with
    ⟨error, _, ran⟩ | ⟨loaded, _, _, ran⟩ | ⟨loaded, known, found, due, ran⟩
  · rw [ran]
    exact roomy
  · rw [ran]
    exact ⟨roomy.room, roomy.balances⟩
  · have before := claim_of_active due.1 (findById_ok_iff.mp found).2
    have later := @claim_of_settled backend (loaded.withStatus .completed).booking nofun nofun
    rw [ran]
    cases paid : (backend.withSaved (loaded.withStatus .completed).booking known).transact
        environment.walletAborts (WalletsService.processBookingPayout loaded.listing.userId
          loaded.booking.id loaded.booking.totalPrice) with
    | error error =>
        refine @Roomy.withSaved _ _ _ _ known roomy.balances found rfl fun owner => ?_
        have room := roomy.room owner
        have nonneg := backend.claim_nonneg owner loaded.booking
        rw [later]
        omega
    | ok settled =>
        have payout : BookingsHandler.transactIfAny environment
            (backend.withSaved (loaded.withStatus .completed).booking known)
            (some (WalletsService.processBookingPayout loaded.listing.userId
              loaded.booking.id loaded.booking.totalPrice)) = .ok settled :=
          paid
        have named : (loaded.withStatus .completed).booking.id = loaded.booking.id := rfl
        have done : settled.Roomy := by
          refine roomy.settled found named payout ?_ fun owner => ?_
          · rintro made ⟨⟩ _
            exact Int.natCast_nonneg _
          · rw [later, before]
            simp [WalletsService.processBookingPayout, WalletOperation.delta]
        exact ⟨done.room, done.balances⟩

theorem roomy_withdraw (roomy : backend.Roomy) {amount : Int} (positive : 0 < amount) :
    (run (WalletsService.transact environment (WalletsService.withdraw userId amount))
      backend).2.Roomy := by
  rcases WalletsService.transact_cases environment backend
    (WalletsService.withdraw userId amount) with ⟨error, ran⟩ | ⟨posted, paid, ran⟩
  · rw [ran]
    exact roomy
  · obtain ⟨_, funds, known, rfl⟩ := transact_ok_iff.mp paid
    rw [ran]
    refine @Roomy.withPosted _ _ known roomy.balances funds nofun ?_
      fun owner _ => roomy.room owner
    have room := roomy.room userId
    change backend.room userId + -amount ≤ maxDecimal
    omega

/-- A deposit is written when the balance it leaves fits. -/
theorem roomy_deposit (roomy : backend.Roomy) {amount : Int} (positive : 0 < amount)
    (hasRoom : HasRoom zone backend environment (.deposit userId amount))
    (fits : (run (WalletsService.transact environment (WalletsService.deposit userId amount))
      backend).2.BalancesFit) :
    (run (WalletsService.transact environment (WalletsService.deposit userId amount))
      backend).2.Roomy := by
  rcases WalletsService.transact_cases environment backend
    (WalletsService.deposit userId amount) with ⟨error, ran⟩ | ⟨posted, paid, ran⟩
  · rw [ran]
    exact roomy
  · obtain ⟨commits, funds, known, rfl⟩ := transact_ok_iff.mp paid
    rw [ran] at fits ⊢
    obtain ⟨wallet, written, balance⟩ := @Ledger.exists_posted_balance backend.ledger
      (backend.ledger.findWallet userId) (WalletsService.deposit userId amount)
    have brought := hasRoom commits (balance ▸ fits wallet written)
    exact @Roomy.withPosted _ _ known roomy.balances funds (fun _ => positive.le) brought
      fun owner _ => roomy.room owner

/-- A wallet that is opened is empty. -/
theorem roomy_findWallet (roomy : backend.Roomy) :
    (run (WalletsService.findWalletByUser environment userId) backend).2.Roomy := by
  rcases WalletsService.findWalletByUser_cases environment backend userId with
    ⟨error, ran⟩ | ⟨wallet, ran⟩
  · rw [ran]
    exact roomy
  · rw [ran]
    refine ⟨fun owner => ?_, fun row present => ?_⟩
    · have balance := @Ledger.walletBalance_findWalletByUser backend.ledger userId owner
      refine le_of_eq_of_le ?_ (roomy.room owner)
      exact congrArg (· + backend.bookings.total (backend.claim owner)) balance
    · rcases Ledger.mem_findWalletByUser present with old | rfl
      · exact roomy.balances row old
      · exact show (0 : Int) ≤ maxDecimal by decide

/-- An aborted wallet transaction leaves the tables as they were. -/
theorem run_transact_of_aborts (aborts : environment.walletAborts = true)
    (operation : WalletOperation) :
    (run (WalletsService.transact environment operation) backend).2 = backend := by
  rcases WalletsService.transact_cases environment backend operation with
    ⟨error, ran⟩ | ⟨posted, paid, _⟩
  · rw [ran]
  · have commits := (transact_ok_iff.mp paid).1
    rw [aborts] at commits
    contradiction

/-- An operation leaves room the prices it writes fit, and so does the balance
that a deposit leaves. -/
theorem roomy_happens {operation : Operation} (roomy : backend.Roomy)
    (accepted : operation.Accepted) (hasRoom : operation.HasRoom zone backend environment)
    (taken : happens zone backend (environment, operation) = some after)
    (priced : after.PricesFit)
    (deposited : ∀ userId amount, operation = .deposit userId amount → after.BalancesFit) :
    after.Roomy := by
  cases operation with
  | findWallet userId =>
      obtain rfl := Option.some.inj taken
      simp only [call, run_dropped]
      exact roomy_findWallet roomy
  | deposit userId amount =>
      obtain rfl := Option.some.inj taken
      exact roomy_deposit roomy accepted.1 hasRoom (deposited userId amount rfl)
  | withdraw userId amount =>
      obtain rfl := Option.some.inj taken
      exact roomy_withdraw roomy accepted.1
  | request userId made =>
      obtain rfl := Option.some.inj taken
      simp only [call, run_dropped] at priced ⊢
      cases made with
      | create createDto => exact roomy_create roomy createDto
      | updatePeriod bookingId dto => exact roomy_updatePeriod roomy dto hasRoom priced
      | resolve resolution bookingId =>
          cases resolution with
          | cancel => exact roomy_resolve roomy .cancel
          | confirm => exact roomy_resolve roomy .confirm
          | reject => exact roomy_resolve roomy .reject
  | startJob bookingId =>
      obtain ⟨_, rfl⟩ := happens_startJob taken
      exact roomy_runStartJob roomy hasRoom
  | completionJob bookingId =>
      obtain ⟨_, rfl⟩ := happens_completionJob taken
      exact roomy_runCompletionJob roomy
  | editListing listing => exact accepted.elim

/-- One operation with these columns leaves room if what it brings has room. -/
theorem roomy_decimalHappens {operation : Operation} (roomy : backend.Roomy)
    (accepted : operation.Accepted) (hasRoom : operation.HasRoom zone backend environment)
    (taken : decimalHappens zone backend (environment, operation) = some after) :
    after.Roomy := by
  unfold decimalHappens at taken
  split at taken
  · contradiction
  · next ran happened =>
      split at taken
      · exact Option.some.inj taken ▸ roomy
      · next priced =>
          rw [not_not] at priced
          split at taken
          · next balances =>
              exact Option.some.inj taken ▸
                roomy_happens roomy accepted hasRoom happened priced fun _ _ _ => balances
          · next overflows =>
              -- Only a deposit can raise a balance above the bound.
              by_cases deposits : ∃ userId amount, operation = .deposit userId amount
              · obtain ⟨userId, amount, rfl⟩ := deposits
                obtain rfl := Option.some.inj taken
                rw [call, run_transact_of_aborts rfl]
                exact roomy
              · exact absurd (roomy_happens roomy accepted hasRoom happened priced
                  fun userId amount same => absurd ⟨userId, amount, same⟩ deposits).balances
                  overflows

end Operation

end SpareSpace
