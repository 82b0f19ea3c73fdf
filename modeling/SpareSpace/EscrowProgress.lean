import SpareSpace.BookingOperations

/-!
# A way out of the escrow

Confirmed bookings keep a start job in its queue and active bookings keep a
completion job that is not due before their period ends, so that the job does
not skip them.  A pending booking can be resolved exactly until its start: the
guards of all three resolving requests refuse it afterwards.
-/

namespace SpareSpace

open Fallible TransitionRuns

/-- The jobs that the stored bookings rely on are queued. -/
structure Scheduled (bookings : KeyedTable Booking Booking.id)
    (startQueue completionQueue : JobQueue) : Prop where
  confirmed : ∀ booking ∈ bookings.rows, booking.status = .confirmed →
    startQueue.Holds booking.id
  active : ∀ booking ∈ bookings.rows, booking.status = .active →
    completionQueue.Holds booking.id
  /-- A completion job finds its booking over. -/
  due : ∀ job ∈ completionQueue, ∀ booking ∈ bookings.rows,
    booking.id = job.bookingId →
      (booking.status = .active ∨ booking.status = .completed) ∧
        booking.period.stop ≤ job.runAt
  /-- No completion job waits for a booking that is yet to be created. -/
  older : ∀ job ∈ completionQueue, job.bookingId < bookings.nextId

namespace Scheduled

variable {bookings : KeyedTable Booking Booking.id}
  {startQueue completionQueue startAfter completionAfter : JobQueue}

theorem empty : Scheduled KeyedTable.empty [] [] :=
  ⟨nofun, nofun, nofun, nofun⟩

/-- A booking that is neither active nor completed has no completion job. -/
theorem not_holds (scheduled : Scheduled bookings startQueue completionQueue)
    {booking : Booking} (stored : booking ∈ bookings.rows)
    (notActive : booking.status ≠ .active)
    (notCompleted : booking.status ≠ .completed) :
    ¬ completionQueue.Holds booking.id := by
  rintro ⟨job, waiting, named⟩
  rcases (scheduled.due job waiting booking stored named.symm).1 with
    active | completed
  · exact notActive active
  · exact notCompleted completed

/-- Inserting a pending booking asks for no job. -/
theorem insert (scheduled : Scheduled bookings startQueue completionQueue)
    (draft : BookingDraft) :
    Scheduled (bookings.insert draft.row draft.row_id) startQueue
      completionQueue where
  confirmed booking stored confirmed := by
    rcases (bookings.mem_insert_iff _ _).mp stored with old | rfl
    · exact scheduled.confirmed booking old confirmed
    · contradiction
  active booking stored active := by
    rcases (bookings.mem_insert_iff _ _).mp stored with old | rfl
    · exact scheduled.active booking old active
    · contradiction
  due job waiting booking stored named := by
    rcases (bookings.mem_insert_iff _ _).mp stored with old | rfl
    · exact scheduled.due job waiting booking old named
    · have older := scheduled.older job waiting
      rw [← named] at older
      exact absurd older (lt_irrefl _)
  older job waiting := Nat.lt_succ_of_lt (scheduled.older job waiting)

/-- Deleting a booking leaves the others scheduled. -/
theorem remove (scheduled : Scheduled bookings startQueue completionQueue)
    (bookingId : Nat) :
    Scheduled (bookings.remove bookingId) startQueue completionQueue where
  confirmed booking stored :=
    scheduled.confirmed booking (List.mem_of_mem_filter stored)
  active booking stored :=
    scheduled.active booking (List.mem_of_mem_filter stored)
  due job waiting booking stored :=
    scheduled.due job waiting booking (List.mem_of_mem_filter stored)
  older := scheduled.older

/-- A write of one booking that keeps the jobs of the others and brings along
the jobs the booking needs in its new status. -/
theorem save (scheduled : Scheduled bookings startQueue completionQueue)
    {old updated : Booking} (found : bookings.find? updated.id = some old)
    (keepsStart : ∀ id ≠ updated.id, startQueue.Holds id → startAfter.Holds id)
    (starts : updated.status = .confirmed → startAfter.Holds updated.id)
    (keepsCompletion : ∀ id ≠ updated.id,
      completionQueue.Holds id → completionAfter.Holds id)
    (completes : updated.status = .active → completionAfter.Holds updated.id)
    (others : ∀ job ∈ completionAfter, job.bookingId ≠ updated.id →
      job ∈ completionQueue)
    (due : ∀ job ∈ completionAfter, job.bookingId = updated.id →
      (updated.status = .active ∨ updated.status = .completed) ∧
        updated.period.stop ≤ job.runAt) :
    Scheduled (bookings.save updated) startAfter completionAfter where
  confirmed booking stored confirmed := by
    rcases bookings.mem_save_iff.mp stored with rfl | ⟨present, different⟩
    · exact starts confirmed
    · exact keepsStart _ different (scheduled.confirmed booking present confirmed)
  active booking stored active := by
    rcases bookings.mem_save_iff.mp stored with rfl | ⟨present, different⟩
    · exact completes active
    · exact keepsCompletion _ different (scheduled.active booking present active)
  due job waiting booking stored named := by
    rcases bookings.mem_save_iff.mp stored with rfl | ⟨present, different⟩
    · exact due job waiting named.symm
    · exact scheduled.due job
        (others job waiting fun same => different (named.trans same)) booking
        present named
  older job waiting := by
    rw [bookings.nextId_save_of_find? found]
    by_cases named : job.bookingId = updated.id
    · exact named ▸ bookings.lt_of_find? found
    · exact scheduled.older job (others job waiting named)

/-- A write of a pending booking that does not make it active. -/
theorem save_pending (scheduled : Scheduled bookings startQueue completionQueue)
    {old updated : Booking} (found : bookings.find? updated.id = some old)
    (pending : old.status = .pending) (notActive : updated.status ≠ .active)
    (keepsStart : ∀ id ≠ updated.id, startQueue.Holds id → startAfter.Holds id)
    (starts : updated.status = .confirmed → startAfter.Holds updated.id) :
    Scheduled (bookings.save updated) startAfter completionQueue := by
  have free := scheduled.not_holds (bookings.mem_of_find? found)
    (by simp [pending]) (by simp [pending])
  rw [bookings.key_of_find? found] at free
  exact scheduled.save found keepsStart starts (fun _ _ held => held)
    (fun active => absurd active notActive) (fun _ waiting _ => waiting)
    fun job waiting named => absurd ⟨job, waiting, named⟩ free

/-- A start job may go once its booking is not confirmed. -/
theorem removeStart (scheduled : Scheduled bookings startQueue completionQueue)
    {bookingId : Nat} (done : ∀ booking, bookings.find? bookingId = some booking →
      booking.status ≠ .confirmed) :
    Scheduled bookings (startQueue.remove bookingId) completionQueue where
  confirmed booking stored confirmed := by
    have different : booking.id ≠ bookingId := by
      rintro rfl
      exact done booking (bookings.find?_key_of_mem stored) confirmed
    exact (JobQueue.holds_remove different).mpr
      (scheduled.confirmed booking stored confirmed)
  active := scheduled.active
  due := scheduled.due
  older := scheduled.older

/-- A completion job may go once its booking is not active. -/
theorem removeCompletion
    (scheduled : Scheduled bookings startQueue completionQueue)
    {bookingId : Nat} (done : ∀ booking, bookings.find? bookingId = some booking →
      booking.status ≠ .active) :
    Scheduled bookings startQueue (completionQueue.remove bookingId) where
  confirmed := scheduled.confirmed
  active booking stored active := by
    have different : booking.id ≠ bookingId := by
      rintro rfl
      exact done booking (bookings.find?_key_of_mem stored) active
    exact (JobQueue.holds_remove different).mpr
      (scheduled.active booking stored active)
  due job waiting := scheduled.due job (JobQueue.mem_remove.mp waiting).1
  older job waiting := scheduled.older job (JobQueue.mem_remove.mp waiting).1

end Scheduled

/-- The jobs that the bookings of the back end rely on are queued. -/
def Backend.Scheduled (backend : Backend) : Prop :=
  SpareSpace.Scheduled backend.bookings backend.startQueue
    backend.completionQueue

namespace Operation

variable {zone : Zone} {environment : Environment} {backend after : Backend}
  {userId bookingId : Nat}

theorem scheduled_create (scheduled : backend.Scheduled)
    (createDto : CreateBookingDto) :
    (run (BookingsHandler.create zone environment userId createDto)
      backend).2.Scheduled := by
  rcases BookingsHandler.create_cases zone environment backend
    userId createDto with ⟨error, ran⟩ | ⟨draft, known, loaded, _, _, ran⟩
  · rw [ran]
    exact scheduled
  · have inserted : (backend.withInserted draft known).Scheduled :=
      scheduled.insert draft
    rw [ran]
    split
    · next settled paid =>
        obtain ⟨_, _, names, rfl⟩ := Backend.transact_ok_iff.mp paid
        exact inserted
    · exact inserted.remove _

theorem scheduled_updatePeriod (scheduled : backend.Scheduled)
    (updateDto : UpdateBookingPeriodDto) :
    (run (BookingsHandler.updatePeriod zone environment userId bookingId
      updateDto) backend).2.Scheduled := by
  rcases BookingsHandler.updatePeriod_cases zone environment
    backend userId bookingId updateDto with
    ⟨error, _, ran⟩ | ⟨loaded, updated, known, updates, ran⟩
  · rw [ran]
    exact scheduled
  · obtain ⟨named, _, _, status⟩ := updates.identity
    have pending := (BookingsHandler.guardUpdate_ok_iff.mp updates.guarded).2
    have found := (Backend.findById_ok_iff.mp updates.found).1
    rw [← backend.bookings.key_of_find? found, ← named] at found
    have saved : (backend.withSaved updated known).Scheduled :=
      scheduled.save_pending found pending (by simp [status, pending])
        (fun _ _ held => held) (by simp [status, pending])
    rw [ran]
    split
    · next settled paid =>
        obtain ⟨bookings, _, start, completion⟩ :=
          BookingsHandler.transactIfAny_frame paid
        change SpareSpace.Scheduled settled.bookings settled.startQueue
          settled.completionQueue
        rw [bookings, start, completion]
        exact saved
    · exact saved

theorem scheduled_resolve (scheduled : backend.Scheduled)
    (resolution : Resolution) :
    (run (BookingsHandler.resolve resolution environment userId bookingId)
      backend).2.Scheduled := by
  rcases BookingsHandler.resolve_cases environment backend userId
    bookingId resolution with ⟨error, _, ran⟩ | ⟨loaded, known, passes, ran⟩
  · rw [ran]
    exact scheduled
  · have pending := (Resolution.guard_ok_iff.mp passes.2).2.1
    have found := (Backend.findById_ok_iff.mp passes.1).1
    rw [← backend.bookings.key_of_find? found] at found
    have notActive : (loaded.withStatus resolution.newStatus).booking.status ≠
        .active := by
      cases resolution <;> nofun
    have save {queue : JobQueue}
        (keeps : ∀ id ≠ loaded.booking.id,
          backend.startQueue.Holds id → queue.Holds id)
        (starts : resolution.newStatus = .confirmed →
          queue.Holds loaded.booking.id) :
        SpareSpace.Scheduled (backend.bookings.save
          (loaded.withStatus resolution.newStatus).booking) queue
            backend.completionQueue :=
      scheduled.save_pending found pending notActive keeps starts
    rw [ran]
    split
    · next settled paid =>
        obtain ⟨bookings, _, start, completion⟩ :=
          BookingsHandler.transactIfAny_frame paid
        cases resolution with
        | cancel =>
            change SpareSpace.Scheduled settled.bookings
              (settled.startQueue.remove _) settled.completionQueue
            rw [bookings, start, completion]
            exact save (fun _ different => (JobQueue.holds_remove different).mpr)
              nofun
        | confirm =>
            change SpareSpace.Scheduled settled.bookings
              (settled.startQueue.add _) settled.completionQueue
            rw [bookings, start, completion]
            exact save (fun _ _ held => JobQueue.holds_add.mpr (Or.inl held))
              fun _ => JobQueue.holds_add.mpr (Or.inr rfl)
        | reject =>
            change SpareSpace.Scheduled settled.bookings
              (settled.startQueue.remove _) settled.completionQueue
            rw [bookings, start, completion]
            exact save (fun _ different => (JobQueue.holds_remove different).mpr)
              nofun
    · next failed =>
        refine save (fun _ _ held => held) fun confirmed => ?_
        cases resolution with
        | cancel => contradiction
        | confirm =>
            simp [BookingsHandler.refund, Resolution.refunds,
              BookingsHandler.transactIfAny] at failed
        | reject => contradiction

theorem scheduled_runStartJob (scheduled : backend.Scheduled) :
    (runStartJob environment bookingId backend).Scheduled := by
  unfold runStartJob
  rcases BookingStartProcessor.process_cases environment backend bookingId with
    ⟨error, _, ran⟩ | ⟨loaded, found, started, ran⟩ |
      ⟨loaded, known, found, confirmed, ran⟩
  · rw [ran]
    exact scheduled
  · rw [ran]
    refine Scheduled.removeStart scheduled fun booking stored => ?_
    rw [(Backend.findById_ok_iff.mp found).1] at stored
    exact Option.some.inj stored ▸ started
  · have stored := (Backend.findById_ok_iff.mp found).1
    have named := backend.bookings.key_of_find? stored
    subst named
    have free := scheduled.not_holds (backend.bookings.mem_of_find? stored)
      (by simp [confirmed]) (by simp [confirmed])
    rw [ran]
    change SpareSpace.Scheduled
      (backend.bookings.save (loaded.withStatus .active).booking)
      (backend.startQueue.remove loaded.booking.id)
      (backend.completionQueue.add ⟨loaded.booking.id,
        scheduledAt environment.now loaded.booking.period.stop⟩)
    refine Scheduled.save scheduled stored
      (fun _ different => (JobQueue.holds_remove different).mpr) nofun
      (fun _ _ held => JobQueue.holds_add.mpr (Or.inl held))
      (fun _ => JobQueue.holds_add.mpr (Or.inr rfl)) ?_ ?_
    · intro job waiting different
      rcases JobQueue.mem_add waiting with old | ⟨rfl, _⟩
      · exact old
      · exact absurd rfl different
    · intro job waiting named
      rcases JobQueue.mem_add waiting with old | ⟨rfl, _⟩
      · exact absurd ⟨job, old, named⟩ free
      · exact ⟨Or.inl rfl, le_scheduledAt_date _ _⟩

/-- A completion job whose time has come finds its booking over, so it does
not skip an active one. -/
theorem scheduled_runCompletionJob (scheduled : backend.Scheduled)
    (isReady : ready backend.completionQueue environment.now bookingId = true) :
    (runCompletionJob environment bookingId backend).Scheduled := by
  obtain ⟨job, waiting, named, come⟩ : ∃ job ∈ backend.completionQueue,
      job.bookingId = bookingId ∧ job.runAt ≤ environment.now := by
    simpa [ready] using isReady
  unfold runCompletionJob
  rcases BookingCompletionProcessor.process_cases environment backend bookingId with
    ⟨error, _, ran⟩ | ⟨loaded, found, skips, ran⟩ | ⟨loaded, known, found, _, ran⟩
  · rw [ran]
    exact scheduled
  · rw [ran]
    refine Scheduled.removeCompletion scheduled fun booking stored active => ?_
    have ended := scheduled.due job waiting booking
      (backend.bookings.mem_of_find? stored)
      ((backend.bookings.key_of_find? stored).trans named.symm)
    rw [(Backend.findById_ok_iff.mp found).1] at stored
    obtain rfl := Option.some.inj stored
    exact skips ⟨active, ended.2.trans come⟩
  · have stored := (Backend.findById_ok_iff.mp found).1
    have sameId := backend.bookings.key_of_find? stored
    subst sameId
    have saved : (backend.withSaved (loaded.withStatus .completed).booking
        known).Scheduled := by
      refine Scheduled.save scheduled stored (fun _ _ held => held) nofun
        (fun _ _ held => held) nofun (fun _ present _ => present) ?_
      intro other present otherNamed
      exact ⟨Or.inr rfl, (scheduled.due other present loaded.booking
        (backend.bookings.mem_of_find? stored) otherNamed.symm).2⟩
    rw [ran]
    cases paid : (backend.withSaved (loaded.withStatus .completed).booking
        known).transact environment.walletAborts
        (WalletsService.processBookingPayout loaded.listing.userId
          loaded.booking.id loaded.booking.totalPrice) with
    | error error => exact saved
    | ok settled =>
        obtain ⟨_, _, names, rfl⟩ := Backend.transact_ok_iff.mp paid
        refine Scheduled.removeCompletion saved fun booking stored => ?_
        have written : (backend.withSaved (loaded.withStatus .completed).booking
            known).bookings.find? loaded.booking.id =
              some (loaded.withStatus .completed).booking := by
          simp [Backend.withSaved, LoadedBooking.withStatus]
        rw [written] at stored
        obtain rfl := Option.some.inj stored
        nofun

/-- One operation, whether it returns or throws, keeps the jobs scheduled. -/
theorem scheduled_happens {label : Environment × Operation}
    (scheduled : backend.Scheduled)
    (taken : happens zone backend label = some after) : after.Scheduled := by
  obtain ⟨environment, operation⟩ := label
  have wallet (operation : WalletOperation) :
      (run (WalletsService.transact environment operation)
        backend).2.Scheduled := by
    rcases WalletsService.transact_cases environment backend operation with
      ⟨error, ran⟩ | ⟨posted, committed, ran⟩
    · rw [ran]
      exact scheduled
    · obtain ⟨_, _, known, rfl⟩ := Backend.transact_ok_iff.mp committed
      rw [ran]
      exact scheduled
  cases operation with
  | findWallet userId =>
      obtain rfl := Option.some.inj taken
      simp only [call, run_dropped]
      rcases WalletsService.findWalletByUser_cases environment backend userId with
        ⟨error, ran⟩ | ⟨wallet, ran⟩
      · rw [ran]
        exact scheduled
      · rw [ran]
        exact scheduled
  | deposit userId amount =>
      exact Option.some.inj taken ▸ wallet (WalletsService.deposit userId amount)
  | withdraw userId amount =>
      exact Option.some.inj taken ▸ wallet (WalletsService.withdraw userId amount)
  | request userId made =>
      obtain rfl := Option.some.inj taken
      simp only [call, run_dropped]
      cases made with
      | create createDto => exact scheduled_create scheduled createDto
      | updatePeriod bookingId updateDto =>
          exact scheduled_updatePeriod scheduled updateDto
      | resolve resolution bookingId =>
          cases resolution with
          | cancel => exact scheduled_resolve scheduled .cancel
          | confirm => exact scheduled_resolve scheduled .confirm
          | reject => exact scheduled_resolve scheduled .reject
  | startJob bookingId =>
      obtain ⟨_, rfl⟩ := happens_startJob taken
      exact scheduled_runStartJob scheduled
  | completionJob bookingId =>
      obtain ⟨isReady, rfl⟩ := happens_completionJob taken
      exact scheduled_runCompletionJob scheduled isReady
  | editListing listing => exact Option.some.inj taken ▸ scheduled

/-- A pending booking can be resolved by its renter or its landlord exactly
until its start. -/
theorem resolvable_iff {booking : Booking}
    (stored : booking ∈ backend.bookings.rows)
    (pending : booking.status = .pending) :
    (∃ resolution userId loaded after,
        run (BookingsHandler.resolve resolution environment userId booking.id)
          backend = (.ok loaded, after)) ↔
      environment.now ≤ booking.period.start := by
  have found := backend.bookings.find?_key_of_mem stored
  constructor
  · rintro ⟨resolution, userId, result, after, returned⟩
    rcases BookingsHandler.resolve_cases environment backend userId
      booking.id resolution with ⟨error, _, ran⟩ | ⟨loaded, known, passes, _⟩
    · simp [ran] at returned
    · have same := (Backend.findById_ok_iff.mp passes.1).1
      rw [found] at same
      rw [Option.some.inj same]
      exact (Resolution.guard_ok_iff.mp passes.2).2.2
  · intro early
    obtain ⟨loaded, located⟩ : ∃ loaded, backend.findById booking.id =
        .ok loaded := by
      cases located : backend.findById booking.id with
      | ok loaded => exact ⟨loaded, rfl⟩
      | error error =>
          rw [(Backend.findById_error_iff.mp located).1] at found
          contradiction
    have same := (Backend.findById_ok_iff.mp located).1
    rw [found] at same
    obtain rfl := Option.some.inj same
    have passes : BookingsHandler.Resolves .confirm environment backend
        loaded.listing.userId loaded.booking.id loaded :=
      ⟨located, Resolution.guard_ok_iff.mpr ⟨rfl, pending, early⟩⟩
    rcases BookingsHandler.resolve_cases environment backend
      loaded.listing.userId loaded.booking.id .confirm with
      ⟨error, refused, _⟩ | ⟨other, known, _, ran⟩
    · exact absurd ⟨loaded, passes⟩ refused
    · exact ⟨.confirm, loaded.listing.userId, _, _, ran⟩

/-- In every reachable state and at every time, a pending booking can be
resolved by a request exactly if its start is not past, a confirmed booking
has a start job queued and an active booking a completion job. -/
theorem way_out (listings : KeyedTable Listing Listing.id)
    (roles : List (Nat × UserRoleType)) {last : Backend}
    (reached : Reachable (happens zone) (.opening listings roles) last)
    (environment : Environment) {booking : Booking}
    (stored : booking ∈ last.bookings.rows) :
    (booking.status = .pending →
      ((∃ resolution userId loaded after,
        run (BookingsHandler.resolve resolution environment userId booking.id)
          last = (.ok loaded, after)) ↔
        environment.now ≤ booking.period.start)) ∧
    (booking.status = .confirmed → last.startQueue.Holds booking.id) ∧
    (booking.status = .active → last.completionQueue.Holds booking.id) := by
  have atStart : (Backend.opening listings roles).Scheduled := Scheduled.empty
  have scheduled : last.Scheduled :=
    Run.invariant Backend.Scheduled atStart
      (fun _ _ _ before _ taken => scheduled_happens before taken) reached
  exact ⟨resolvable_iff stored, scheduled.confirmed booking stored,
    scheduled.active booking stored⟩

theorem way_out_sample :
    (sampleActiveBooking.status = .pending →
      ((∃ resolution userId loaded after,
        run (BookingsHandler.resolve resolution (.at 7) userId 1)
          (Backend.sampleActive.withStartQueue []) = (.ok loaded, after)) ↔ (7 : Int) ≤ 0)) ∧
    (sampleActiveBooking.status = .confirmed →
      (Backend.sampleActive.withStartQueue []).startQueue.Holds 1) ∧
    (sampleActiveBooking.status = .active →
      (Backend.sampleActive.withStartQueue []).completionQueue.Holds 1) :=
  way_out
    (KeyedTable.empty.insert sampleListing sampleListing_id)
    [(2, .renter), (3, .renter)]
    (reachable_of_execute (happens .utc) _ [(.at 0, .findWallet 2),
      (.at 0, .deposit 2 300), (.at 0, .request 2 (.create ⟨1, .hour, 0, .one⟩)),
      (.at 0, .request 1 (.resolve .confirm 1)), (.at 0, .startJob 1)] rfl)
    (.at 7) (by decide)

/-- A paid booking that nobody resolved before its start is refused by every
resolving request from then on. -/
theorem unresolved_booking_is_stuck :
    ¬ ∀ (zone : Zone) (listings : KeyedTable Listing Listing.id)
        (roles : List (Nat × UserRoleType)) (last : Backend),
        Reachable (happens zone) (.opening listings roles) last →
        ∀ (environment : Environment), ∀ booking ∈ last.bookings.rows,
          booking.status = .pending →
          ∃ resolution userId loaded after,
            run (BookingsHandler.resolve resolution environment userId
              booking.id) last = (.ok loaded, after) := by
  intro resolvable
  have reached : Reachable (happens .utc)
      (.opening (KeyedTable.empty.insert sampleListing sampleListing_id)
        [(2, .renter), (3, .renter)]) Backend.sampleBooked :=
    reachable_of_execute (happens .utc) _ [(.at 0, .findWallet 2),
      (.at 0, .deposit 2 300),
      (.at 0, .request 2 (.create ⟨1, .hour, 0, .one⟩))] rfl
  have stored : { sampleActiveBooking with status := .pending } ∈
      Backend.sampleBooked.bookings.rows := by decide
  have early := (resolvable_iff stored rfl).mp
    (resolvable .utc _ _ _ reached (.at 1) _ stored rfl)
  exact absurd early (by decide)

end Operation

end SpareSpace
