import SpareSpace.BookingOutcomes

/-!
# The payout across the attempts of a completion job

An attempt that gets past its status update takes the booking out of ACTIVE,
and every later attempt skips a booking that is not ACTIVE.  The payout is
therefore made by the first attempt that gets that far or by none.
-/

namespace SpareSpace

open Fallible

variable {backend : Backend} {bookingId : Nat} {loaded : LoadedBooking}

/-- The payouts of a booking, in the order they were made. -/
def Backend.payouts (backend : Backend) (bookingId : Nat) : List Transaction :=
  backend.ledger.transactions.rows.filter fun row =>
    row.type == .bookingPayout && row.bookingId == some bookingId

/-- The booking is completed, and its price has been paid out to the owner of
its listing once since the earlier state. -/
structure PaidOnce (before after : Backend) (loaded : LoadedBooking) : Prop where
  completed : ∃ booking, after.bookings.find? loaded.booking.id = some booking ∧
    booking.status = .completed
  payout : ∃ row, after.payouts loaded.booking.id =
      before.payouts loaded.booking.id ++ [row] ∧
    row.userId = loaded.listing.userId ∧
      row.amount = (loaded.booking.totalPrice : Int)
  credited : after.ledger.balanceOf loaded.listing.userId =
    before.ledger.balanceOf loaded.listing.userId + loaded.booking.totalPrice

namespace CompletionAttempt

open BookingCompletionProcessor

variable {attempt : CompletionAttempt}

/-- An attempt that does not get past its status update throws and changes
nothing. -/
theorem process_of_not_reaches (found : backend.findById bookingId = .ok loaded)
    (due : Due attempt.environment loaded) (stops : ¬ attempt.Reaches) :
    ∃ error, run (attempt.process bookingId) backend = (.error error, backend) := by
  unfold process BookingCompletionProcessor.process
  cases finds : attempt.faults.findById with
  | true => exact ⟨_, rfl⟩
  | false =>
      have fails : attempt.faults.updateStatus = true := by
        by_contra works
        exact stops ⟨finds, by simpa using works⟩
      refine ⟨.database "call failed", ?_⟩
      simp only [unlessFails, Bool.false_eq_true, if_false, run_bind,
        BookingsService.run_findById, found, due.1, ne_eq, not_true,
        gt_iff_lt, not_lt.mpr due.2, fails, if_true, run_throw]

/-- An attempt that does not find the booking due changes nothing. -/
theorem process_of_not_due
    (other : ∀ loaded, backend.findById bookingId = .ok loaded →
      ¬ Due attempt.environment loaded) :
    (run (attempt.process bookingId) backend).2 = backend := by
  unfold process BookingCompletionProcessor.process
  cases finds : attempt.faults.findById with
  | true => rfl
  | false =>
      simp only [unlessFails, Bool.false_eq_true, if_false, run_bind,
        BookingsService.run_findById]
      cases found : backend.findById bookingId with
      | error error => rfl
      | ok loaded =>
          by_cases active : loaded.booking.status = .active
          · have early : loaded.booking.period.stop > attempt.environment.now := by
              by_contra ended
              exact other loaded found ⟨active, not_lt.mp ended⟩
            simp only [active, ne_eq, not_true, if_false, early, if_true, run_pure]
          · simp only [active, ne_eq, not_false_iff, if_true, run_pure]

/-- An attempt that finds the booking completed changes nothing. -/
theorem process_of_completed (found : backend.findById bookingId = .ok loaded)
    (completed : loaded.booking.status = .completed) :
    (run (attempt.process bookingId) backend).2 = backend := by
  refine process_of_not_due fun other again due => ?_
  rw [found] at again
  obtain rfl := Except.ok.inj again
  have active := due.1
  rw [completed] at active
  contradiction

variable (backend loaded) in
/-- What the signals after the payout leave alone. -/
theorem signals_frame (faults : CompletionFaults) :
    ∃ result after, run (do
        unlessFails faults.emitRenter
          (emitSignal loaded.booking.renterId .bookingCompleted loaded.booking)
        unlessFails faults.emitOwner
          (emitSignal loaded.listing.userId .bookingCompleted loaded.booking))
        backend = (result, after) ∧
      after.bookings = backend.bookings ∧ after.listings = backend.listings ∧
        after.ledger = backend.ledger ∧
          after.completionQueue = backend.completionQueue := by
  cases renter : faults.emitRenter <;> cases owner : faults.emitOwner <;>
    exact ⟨_, _, rfl, rfl, rfl, rfl, rfl⟩

variable (attempt backend loaded) in
/-- The payout call of an attempt: it throws when the payout fails, and
otherwise posts the payout. -/
theorem run_payout (known) :
    (attempt.PayoutFails ∧ ∃ error,
      run (unlessFails attempt.faults.processBookingPayout
        (WalletsService.transact attempt.environment
          (WalletsService.processBookingPayout loaded.listing.userId
            loaded.booking.id loaded.booking.totalPrice)))
        (backend.withSaved (loaded.withStatus .completed).booking known) =
        (.error error,
          backend.withSaved (loaded.withStatus .completed).booking known)) ∨
    (¬ attempt.PayoutFails ∧ ∃ names,
      run (unlessFails attempt.faults.processBookingPayout
        (WalletsService.transact attempt.environment
          (WalletsService.processBookingPayout loaded.listing.userId
            loaded.booking.id loaded.booking.totalPrice)))
        (backend.withSaved (loaded.withStatus .completed).booking known) =
        (.ok (), (backend.withSaved (loaded.withStatus .completed).booking
          known).withPosted (backend.ledger.findWallet loaded.listing.userId)
          (WalletsService.processBookingPayout loaded.listing.userId
            loaded.booking.id loaded.booking.totalPrice) names)) := by
  cases fails : attempt.faults.processBookingPayout with
  | true => exact Or.inl ⟨Or.inl fails, _, rfl⟩
  | false =>
      simp only [unlessFails, Bool.false_eq_true, if_false,
        WalletsService.transact, run_updates]
      cases paid : (backend.withSaved (loaded.withStatus .completed).booking
          known).transact attempt.environment.walletAborts
          (WalletsService.processBookingPayout loaded.listing.userId
            loaded.booking.id loaded.booking.totalPrice) with
      | ok after =>
          obtain ⟨commits, _, names, rfl⟩ := Backend.transact_ok_iff.mp paid
          refine Or.inr ⟨?_, names, rfl⟩
          simp [PayoutFails, fails, commits]
      | error error =>
          refine Or.inl ⟨Or.inr ?_, error, rfl⟩
          by_contra commits
          rw [Bool.not_eq_true] at commits
          have names : (backend.withSaved (loaded.withStatus .completed).booking
              known).Names (WalletsService.processBookingPayout
                loaded.listing.userId loaded.booking.id
                loaded.booking.totalPrice) := by
            intro id named
            obtain rfl : loaded.booking.id = id := Option.some.inj named
            simp [Backend.withSaved, LoadedBooking.withStatus]
          have made := Backend.transact_ok_iff.mpr ⟨commits,
            by simp [Ledger.Short, WalletsService.processBookingPayout],
            names, rfl⟩
          rw [paid] at made
          contradiction

/-- An attempt that gets past its status update completes the booking and, if
its payout does not fail, posts the payout. -/
theorem process_of_reaches (found : backend.findById bookingId = .ok loaded)
    (due : Due attempt.environment loaded) (reaches : attempt.Reaches) :
    ∃ result after known, run (attempt.process bookingId) backend =
        (result, after) ∧
      after.listings = backend.listings ∧
      after.completionQueue = backend.completionQueue ∧
      after.bookings = (backend.withSaved
        (loaded.withStatus .completed).booking known).bookings ∧
      (attempt.PayoutFails → after.ledger = backend.ledger) ∧
      (¬ attempt.PayoutFails → after.ledger = backend.ledger.posted
        (backend.ledger.findWallet loaded.listing.userId)
        (WalletsService.processBookingPayout loaded.listing.userId
          loaded.booking.id loaded.booking.totalPrice)) := by
  rcases BookingsService.run_updateStatus backend bookingId .completed with
    ⟨error, failed, _⟩ | ⟨second, known, again, updated⟩
  · rw [found] at failed
    contradiction
  rw [found] at again
  obtain rfl := Except.ok.inj again
  unfold process BookingCompletionProcessor.process
  rw [reaches.1, reaches.2]
  simp only [unlessFails_false, run_bind, BookingsService.run_findById, found,
    due.1, ne_eq, not_true, if_false, gt_iff_lt, not_lt.mpr due.2, updated]
  rcases run_payout backend loaded attempt known with
    ⟨fails, error, paid⟩ | ⟨works, names, paid⟩
  · rw [paid]
    exact ⟨_, _, known, rfl, rfl, rfl, rfl, fun _ => rfl,
      fun works => absurd fails works⟩
  · obtain ⟨result, after, ran, bookings, listings, ledger, queue⟩ :=
      signals_frame ((backend.withSaved (loaded.withStatus .completed).booking
        known).withPosted _ _ names) loaded attempt.faults
    rw [paid]
    refine ⟨result, after, known, ?_, listings, queue, bookings,
      fun fails => absurd fails works, fun _ => ledger⟩
    simpa only [run_bind] using ran

/-- After an attempt that got past its status update the booking is found
completed, so the later attempts leave the state alone. -/
theorem afterAttempts_of_reaches (later : List CompletionAttempt)
    (found : backend.findById bookingId = .ok loaded)
    (due : Due attempt.environment loaded) (reaches : attempt.Reaches) :
    ∃ after known,
      afterAttempts (process bookingId) (attempt :: later) backend = after ∧
      after.bookings = (backend.withSaved
        (loaded.withStatus .completed).booking known).bookings ∧
      (attempt.PayoutFails → after.ledger = backend.ledger) ∧
      (¬ attempt.PayoutFails → after.ledger = backend.ledger.posted
        (backend.ledger.findWallet loaded.listing.userId)
        (WalletsService.processBookingPayout loaded.listing.userId
          loaded.booking.id loaded.booking.totalPrice)) := by
  obtain ⟨result, after, known, ran, listings, _, bookings, fails, works⟩ :=
    process_of_reaches found due reaches
  obtain ⟨stored, joined⟩ := Backend.findById_ok_iff.mp found
  have named := backend.bookings.key_of_find? stored
  have completed : after.findById bookingId =
      .ok (loaded.withStatus .completed) := by
    rw [Backend.findById_ok_iff, bookings, listings]
    exact ⟨by simp [Backend.withSaved, LoadedBooking.withStatus, named], joined⟩
  exact ⟨after, known, afterAttempts_cons ran fun other _ =>
    process_of_completed completed rfl, bookings, fails, works⟩

end CompletionAttempt

open CompletionAttempt

/-- A payout that fails after the booking was completed is not made again. -/
theorem not_paidOnce_of_ledger {after : Backend}
    (ledger : after.ledger = backend.ledger) :
    ¬ PaidOnce backend after loaded := by
  intro paid
  obtain ⟨row, payouts, _⟩ := paid.payout
  simp [Backend.payouts, ledger] at payouts

theorem paidOnce_of_posted {after : Backend} {known}
    (bookings : after.bookings = (backend.withSaved
      (loaded.withStatus .completed).booking known).bookings)
    (ledger : after.ledger = backend.ledger.posted
      (backend.ledger.findWallet loaded.listing.userId)
      (WalletsService.processBookingPayout loaded.listing.userId
        loaded.booking.id loaded.booking.totalPrice)) :
    PaidOnce backend after loaded where
  completed := by
    refine ⟨(loaded.withStatus .completed).booking, ?_, rfl⟩
    simp [bookings, Backend.withSaved, LoadedBooking.withStatus]
  payout := by
    refine ⟨(WalletsService.processBookingPayout loaded.listing.userId
      loaded.booking.id loaded.booking.totalPrice).entry
        backend.ledger.transactions.nextId, ?_, rfl, rfl⟩
    simp [Backend.payouts, ledger, KeyedTable.insert, WalletOperation.entry,
      WalletsService.processBookingPayout]
  credited := by
    have locks : backend.ledger.Locks (WalletsService.processBookingPayout
        loaded.listing.userId loaded.booking.id
        loaded.booking.totalPrice).userId
        (backend.ledger.findWallet loaded.listing.userId) :=
      Ledger.locks_findWallet _
    rw [ledger, Ledger.balanceOf_posted _ locks]
    simp [WalletsService.processBookingPayout, WalletOperation.delta]

/-- For every active booking whose period has ended and every pattern of
failures whose last attempt is faultless, the owner is paid exactly once if
and only if the payout does not fail in the first attempt that gets past its
status update. -/
theorem paidOnce_iff (attempts : List CompletionAttempt)
    (found : backend.findById bookingId = .ok loaded)
    (active : loaded.booking.status = .active)
    (ended : ∀ attempt ∈ attempts,
      loaded.booking.period.stop ≤ attempt.environment.now)
    (last : ∃ attempt, (attemptsMade (CompletionAttempt.process bookingId)
      attempts backend).getLast? = some attempt ∧ attempt.Faultless) :
    PaidOnce backend (afterAttempts (CompletionAttempt.process bookingId)
        attempts backend) loaded ↔
      ∃ first, attempts.find? (fun attempt => attempt.Reaches) = some first ∧
        ¬ first.PayoutFails := by
  induction attempts with
  | nil => simp [attemptsMade] at last
  | cons attempt later ih =>
      have due : BookingCompletionProcessor.Due attempt.environment loaded :=
        ⟨active, ended attempt List.mem_cons_self⟩
      by_cases reaches : attempt.Reaches
      · obtain ⟨after, known, rfl, bookings, fails, works⟩ :=
          afterAttempts_of_reaches later found due reaches
        simp only [List.find?_cons, reaches, decide_true, Option.some.injEq,
          exists_eq_left']
        constructor
        · exact fun paid failed => not_paidOnce_of_ledger (fails failed) paid
        · exact fun worked => paidOnce_of_posted bookings (works worked)
      · obtain ⟨error, ran⟩ := process_of_not_reaches found due reaches
        have lastLater : ∃ attempt, (attemptsMade
            (CompletionAttempt.process bookingId) later backend).getLast? =
              some attempt ∧ attempt.Faultless := by
          obtain ⟨final, isLast, faultless⟩ := last
          refine ⟨final, lastMade_of_error ran ?_ isLast, faultless⟩
          rintro rfl
          exact reaches faultless.reaches
        simp only [afterAttempts, ran, List.find?_cons, reaches, decide_false]
        exact ih (fun other mem => ended other (List.mem_cons_of_mem _ mem))
          lastLater

/-- An attempt at the end of the sample's first hour. -/
def CompletionAttempt.sample (faults : CompletionFaults) : CompletionAttempt :=
  ⟨.at 3600000, faults⟩

/-- A failed read is retried and the owner is paid. -/
theorem paidOnce_iff_sample :
    PaidOnce Backend.sampleActive
        (afterAttempts (CompletionAttempt.process 1)
          [.sample ⟨true, false, false, false, false⟩, .sample .none]
          Backend.sampleActive) ⟨sampleActiveBooking, sampleListing 1⟩ ↔
      ∃ first, [CompletionAttempt.sample ⟨true, false, false, false, false⟩,
          .sample .none].find? (fun attempt => attempt.Reaches) = some first ∧
        ¬ first.PayoutFails :=
  paidOnce_iff [.sample ⟨true, false, false, false, false⟩, .sample .none]
    rfl rfl (by decide) ⟨.sample .none, rfl, rfl, rfl⟩

/-- A failed payout is retried against a booking that is already completed,
and the owner is never paid. -/
theorem failed_payout_is_lost :
    ¬ ∀ (backend : Backend) (bookingId : Nat) (loaded : LoadedBooking)
        (attempts : List CompletionAttempt),
        backend.findById bookingId = .ok loaded →
        loaded.booking.status = .active →
        (∀ attempt ∈ attempts,
          loaded.booking.period.stop ≤ attempt.environment.now) →
        (∃ attempt, (attemptsMade (CompletionAttempt.process bookingId)
          attempts backend).getLast? = some attempt ∧ attempt.Faultless) →
        PaidOnce backend (afterAttempts (CompletionAttempt.process bookingId)
          attempts backend) loaded := by
  intro paid
  obtain ⟨row, payouts, _⟩ := (paid Backend.sampleActive 1
    ⟨sampleActiveBooking, sampleListing 1⟩
    [.sample ⟨false, false, true, false, false⟩, .sample .none]
    rfl rfl (by decide) ⟨.sample .none, rfl, rfl, rfl⟩).payout
  have unpaid : (afterAttempts (CompletionAttempt.process 1)
      [.sample ⟨false, false, true, false, false⟩, .sample .none]
      Backend.sampleActive).payouts 1 = [] := by decide
  exact absurd (unpaid.symm.trans payouts) (by simp)

end SpareSpace
