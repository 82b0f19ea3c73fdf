import SpareSpace.CompletionRetries
import SpareSpace.EscrowProgress

/-!
# The completion job across the attempts of a start job

An attempt that gets past its status update takes the booking out of CONFIRMED,
and every later attempt skips a booking that is not CONFIRMED.  The completion job
is therefore queued by the first attempt that gets that far or by none.  Before
that no completion job waits for the booking, whatever has happened since the
service was empty and whichever calls of the jobs have failed.
-/

namespace SpareSpace

open Fallible TransitionRuns

/-- One attempt of a start job: what it finds outside the tables, and the calls
that fail in it. -/
structure StartAttempt where
  environment : Environment
  faults : StartFaults

/-- The completion jobs that wait for a booking. -/
def Backend.completionJobs (backend : Backend) (bookingId : Nat) : List Job :=
  backend.completionQueue.filter fun job => job.bookingId == bookingId

/-- The booking is active, and one completion job waits for it, not to run before
its end. -/
structure StartedOnce (after : Backend) (booking : Booking) : Prop where
  active : ∃ stored, after.bookings.find? booking.id = some stored ∧
    stored.status = .active
  queued : ∃ job, after.completionJobs booking.id = [job] ∧
    booking.period.stop ≤ job.runAt

/-- Completion jobs wait only for bookings that have been active. -/
structure Begun (bookings : KeyedTable Booking Booking.id)
    (completionQueue : JobQueue) : Prop where
  status : ∀ job ∈ completionQueue, ∀ booking,
    bookings.find? job.bookingId = some booking →
      booking.status = .active ∨ booking.status = .completed
  older : ∀ job ∈ completionQueue, job.bookingId < bookings.nextId

namespace Begun

variable {bookings : KeyedTable Booking Booking.id}
  {completionQueue completionAfter : JobQueue}

theorem empty : Begun KeyedTable.empty [] :=
  ⟨nofun, nofun⟩

/-- A booking that is neither active nor completed has no completion job. -/
theorem not_holds (begun : Begun bookings completionQueue) {bookingId : Nat}
    {booking : Booking} (found : bookings.find? bookingId = some booking)
    (notActive : booking.status ≠ .active)
    (notCompleted : booking.status ≠ .completed) :
    ¬ completionQueue.Holds bookingId := by
  rintro ⟨job, waiting, rfl⟩
  exact (begun.status job waiting booking found).elim notActive notCompleted

theorem of_subset (begun : Begun bookings completionQueue)
    (subset : ∀ job ∈ completionAfter, job ∈ completionQueue) :
    Begun bookings completionAfter where
  status job waiting := begun.status job (subset job waiting)
  older job waiting := begun.older job (subset job waiting)

theorem insert (begun : Begun bookings completionQueue) (draft : BookingDraft) :
    Begun (bookings.insert draft.row draft.row_id) completionQueue where
  status job waiting booking found := by
    rw [KeyedTable.find?_insert, if_neg (begun.older job waiting).ne] at found
    exact begun.status job waiting booking found
  older job waiting := Nat.lt_succ_of_lt (begun.older job waiting)

theorem remove (begun : Begun bookings completionQueue) (bookingId : Nat) :
    Begun (bookings.remove bookingId) completionQueue where
  status job waiting booking found := by
    rw [KeyedTable.find?_remove] at found
    split at found
    · contradiction
    · exact begun.status job waiting booking found
  older := begun.older

/-- A booking may be written as active or completed, and as anything else while no
completion job waits for it. -/
theorem save (begun : Begun bookings completionQueue) {old updated : Booking}
    (found : bookings.find? updated.id = some old)
    (begins : completionQueue.Holds updated.id →
      updated.status = .active ∨ updated.status = .completed) :
    Begun (bookings.save updated) completionQueue where
  status job waiting booking stored := by
    rw [KeyedTable.find?_save] at stored
    split at stored
    · next same =>
        obtain rfl := Option.some.inj stored
        exact begins ⟨job, waiting, same⟩
    · exact begun.status job waiting booking stored
  older job waiting := by
    rw [bookings.nextId_save_of_find? found]
    exact begun.older job waiting

/-- A pending booking may be written with any status. -/
theorem save_pending (begun : Begun bookings completionQueue)
    {old updated : Booking} (found : bookings.find? updated.id = some old)
    (pending : old.status = .pending) :
    Begun (bookings.save updated) completionQueue :=
  begun.save found fun held => absurd held
    (begun.not_holds found (by simp [pending]) (by simp [pending]))

/-- A completion job may be queued for a booking that is active. -/
theorem add (begun : Begun bookings completionQueue) {booking : Booking} {job : Job}
    (found : bookings.find? job.bookingId = some booking)
    (active : booking.status = .active) :
    Begun bookings (completionQueue.add job) where
  status other waiting stored present := by
    rcases JobQueue.mem_add waiting with old | ⟨rfl, _⟩
    · exact begun.status other old stored present
    · rw [found] at present
      exact Or.inl (Option.some.inj present ▸ active)
  older other waiting := by
    rcases JobQueue.mem_add waiting with old | ⟨rfl, _⟩
    · exact begun.older other old
    · exact bookings.lt_of_find? found

end Begun

/-- Completion jobs of the back end wait only for bookings that have been
active. -/
def Backend.Begun (backend : Backend) : Prop :=
  SpareSpace.Begun backend.bookings backend.completionQueue

namespace StartAttempt

variable {backend : Backend} {bookingId : Nat} {loaded : LoadedBooking}
  {attempt : StartAttempt}

def process (bookingId : Nat) (attempt : StartAttempt) : Service Unit :=
  BookingStartProcessor.process attempt.environment attempt.faults bookingId

/-- The attempt gets past its read and its status update. -/
def Reaches (attempt : StartAttempt) : Prop :=
  attempt.faults.findById = false ∧ attempt.faults.updateStatus = false

instance (attempt : StartAttempt) : Decidable attempt.Reaches :=
  inferInstanceAs (Decidable (_ ∧ _))

/-- No call of the attempt fails. -/
def Faultless (attempt : StartAttempt) : Prop :=
  attempt.faults = .none

theorem Faultless.reaches (faultless : attempt.Faultless) : attempt.Reaches := by
  rw [Reaches, faultless]
  exact ⟨rfl, rfl⟩

/-- An attempt that does not get past its status update throws and changes
nothing. -/
theorem process_of_not_reaches (found : backend.findById bookingId = .ok loaded)
    (confirmed : loaded.booking.status = .confirmed) (stops : ¬ attempt.Reaches) :
    ∃ error, run (attempt.process bookingId) backend = (.error error, backend) := by
  unfold process BookingStartProcessor.process
  cases finds : attempt.faults.findById with
  | true => exact ⟨_, rfl⟩
  | false =>
      have fails : attempt.faults.updateStatus = true := by
        by_contra works
        exact stops ⟨finds, by simpa using works⟩
      refine ⟨.database "call failed", ?_⟩
      simp only [unlessFails, Bool.false_eq_true, if_false, run_bind,
        BookingsService.run_findById, found, confirmed, ne_eq, not_true, fails,
        if_true, run_throw]

/-- An attempt that does not find the booking confirmed changes nothing. -/
theorem process_of_not_confirmed
    (other : ∀ loaded, backend.findById bookingId = .ok loaded →
      loaded.booking.status ≠ .confirmed) :
    (run (attempt.process bookingId) backend).2 = backend := by
  unfold process BookingStartProcessor.process
  cases finds : attempt.faults.findById with
  | true => rfl
  | false =>
      simp only [unlessFails, Bool.false_eq_true, if_false, run_bind,
        BookingsService.run_findById]
      cases found : backend.findById bookingId with
      | error error => rfl
      | ok loaded => simp only [other loaded found, ne_eq, not_false_iff, if_true, run_pure]

/-- An attempt that gets past its status update starts the booking, and then
throws or queues the completion job. -/
theorem process_of_reaches (found : backend.findById bookingId = .ok loaded)
    (confirmed : loaded.booking.status = .confirmed) (reaches : attempt.Reaches) :
    ∃ known, run (attempt.process bookingId) backend =
      if attempt.faults.add then
        (.error (.database "call failed"),
          backend.withSaved (loaded.withStatus .active).booking known)
      else
        (.ok (), (backend.withSaved (loaded.withStatus .active).booking
          known).addCompletionJob attempt.environment loaded.booking) := by
  rcases BookingsService.run_updateStatus backend bookingId .active with
    ⟨error, failed, _⟩ | ⟨second, known, again, updated⟩
  · rw [found] at failed
    contradiction
  rw [found] at again
  obtain rfl := Except.ok.inj again
  refine ⟨known, ?_⟩
  unfold process BookingStartProcessor.process
  rw [reaches.1, reaches.2]
  simp only [unlessFails_false, run_bind, BookingsService.run_findById, found,
    confirmed, ne_eq, not_true, if_false, updated]
  cases adds : attempt.faults.add <;> rfl

end StartAttempt

namespace StartAttempt

variable {backend : Backend} {bookingId : Nat} {loaded : LoadedBooking}
  {attempt : StartAttempt}

/-- After an attempt that got past its status update the booking is found active, so
the later attempts leave the state alone. -/
theorem afterAttempts_of_reaches (later : List StartAttempt)
    (found : backend.findById bookingId = .ok loaded)
    (confirmed : loaded.booking.status = .confirmed) (reaches : attempt.Reaches) :
    ∃ known, afterAttempts (process bookingId) (attempt :: later) backend =
      if attempt.faults.add then
        backend.withSaved (loaded.withStatus .active).booking known
      else
        (backend.withSaved (loaded.withStatus .active).booking
          known).addCompletionJob attempt.environment loaded.booking := by
  obtain ⟨known, ran⟩ := process_of_reaches found confirmed reaches
  have named := Backend.id_of_findById found
  refine ⟨known, ?_⟩
  cases adds : attempt.faults.add with
  | false =>
      rw [adds] at ran
      rw [afterAttempts]
      simp only [ran, Bool.false_eq_true, if_false]
  | true =>
      rw [adds, if_pos rfl] at ran
      refine afterAttempts_cons ran fun other _ => process_of_not_confirmed ?_
      intro again foundAgain
      have stored := (Backend.findById_ok_iff.mp foundAgain).1
      simp only [Backend.withSaved, LoadedBooking.withStatus, KeyedTable.find?_save,
        named, if_true, Option.some.injEq] at stored
      simp [← stored]

end StartAttempt

section Attempts

variable {backend : Backend} {bookingId : Nat} {loaded : LoadedBooking}

/-- A completion job is queued once for a booking that has none. -/
theorem startedOnce_of_added {environment : Environment} {known}
    (free : ¬ backend.completionQueue.Holds loaded.booking.id) :
    StartedOnce ((backend.withSaved (loaded.withStatus .active).booking
      known).addCompletionJob environment loaded.booking) loaded.booking where
  active := ⟨(loaded.withStatus .active).booking,
    by simp [Backend.addCompletionJob, Backend.withCompletionQueue, Backend.withSaved,
      LoadedBooking.withStatus], rfl⟩
  queued := by
    have none : backend.completionJobs loaded.booking.id = [] := by
      refine List.filter_eq_nil_iff.mpr fun job waiting named => ?_
      exact free ⟨job, waiting, beq_iff_eq.mp named⟩
    have absent := JobQueue.any_iff_holds.not.mpr free
    refine ⟨⟨loaded.booking.id, scheduledAt environment.now
      loaded.booking.period.stop⟩, ?_, le_scheduledAt_date _ _⟩
    simp only [Backend.completionJobs] at none
    simp [Backend.completionJobs, Backend.addCompletionJob,
      Backend.withCompletionQueue, Backend.withSaved, JobQueue.add, absent, none]

/-- The attempts on a confirmed booking for which no completion job waits. -/
theorem startedOnce_iff_of_free (attempts : List StartAttempt)
    (found : backend.findById bookingId = .ok loaded)
    (confirmed : loaded.booking.status = .confirmed)
    (free : ¬ backend.completionQueue.Holds loaded.booking.id)
    (last : ∃ attempt, (attemptsMade (StartAttempt.process bookingId) attempts
      backend).getLast? = some attempt ∧ attempt.Faultless) :
    StartedOnce (afterAttempts (StartAttempt.process bookingId) attempts backend)
        loaded.booking ↔
      ∃ first, attempts.find? (fun attempt => attempt.Reaches) = some first ∧
        first.faults.add = false := by
  induction attempts with
  | nil => simp [attemptsMade] at last
  | cons attempt later ih =>
      by_cases reaches : attempt.Reaches
      · obtain ⟨known, after⟩ :=
          StartAttempt.afterAttempts_of_reaches later found confirmed reaches
        simp only [after, List.find?_cons, reaches, decide_true, Option.some.injEq,
          exists_eq_left']
        cases adds : attempt.faults.add with
        | false => exact iff_of_true (startedOnce_of_added free) rfl
        | true =>
            refine iff_of_false (fun started => ?_) (by simp)
            obtain ⟨job, queued, _⟩ := started.queued
            have waiting := List.mem_filter.mp (queued ▸ List.mem_singleton_self job)
            exact free ⟨job, waiting.1, beq_iff_eq.mp waiting.2⟩
      · obtain ⟨error, ran⟩ :=
          StartAttempt.process_of_not_reaches found confirmed reaches
        simp only [afterAttempts, ran, List.find?_cons, reaches, decide_false]
        obtain ⟨final, isLast, faultless⟩ := last
        refine ih ⟨final, lastMade_of_error ran ?_ isLast, faultless⟩
        rintro rfl
        exact reaches faultless.reaches

end Attempts

/-- The state after an attempt of a start job: the job leaves its queue when the
attempt returns and waits for the next attempt when it throws. -/
def StartAttempt.runJob (attempt : StartAttempt) (bookingId : Nat)
    (backend : Backend) : Backend :=
  match run (attempt.process bookingId) backend with
  | (.ok _, after) => after.withStartQueue (after.startQueue.remove bookingId)
  | (.error _, after) => after

def CompletionAttempt.runJob (attempt : CompletionAttempt) (bookingId : Nat)
    (backend : Backend) : Backend :=
  match run (attempt.process bookingId) backend with
  | (.ok _, after) =>
      after.withCompletionQueue (after.completionQueue.remove bookingId)
  | (.error _, after) => after

/-- The operations, and single attempts of jobs in which calls fail. -/
inductive AttemptedOperation
  | operation (environment : Environment) (performed : Operation)
  | startJob (attempt : StartAttempt) (bookingId : Nat)
  | completionJob (attempt : CompletionAttempt) (bookingId : Nat)

def AttemptedOperation.happens (zone : Zone) (backend : Backend) :
    AttemptedOperation → Option Backend
  | operation environment performed =>
      Operation.happens zone backend (environment, performed)
  | startJob attempt bookingId =>
      if Operation.ready backend.startQueue attempt.environment.now bookingId then
        some (attempt.runJob bookingId backend)
      else
        none
  | completionJob attempt bookingId =>
      if Operation.ready backend.completionQueue attempt.environment.now bookingId
          then
        some (attempt.runJob bookingId backend)
      else
        none

section Begun

variable {zone : Zone} {environment : Environment} {backend after : Backend}
  {userId bookingId : Nat}

theorem begun_create (begun : backend.Begun) (createDto : CreateBookingDto) :
    (run (BookingsHandler.create zone environment userId createDto)
      backend).2.Begun := by
  rcases BookingsHandler.create_cases zone environment backend userId createDto with
    ⟨error, ran⟩ | ⟨draft, known, loaded, _, _, ran⟩
  · rw [ran]
    exact begun
  · have inserted : (backend.withInserted draft known).Begun := begun.insert draft
    rw [ran]
    split
    · next settled paid =>
        obtain ⟨_, _, names, rfl⟩ := Backend.transact_ok_iff.mp paid
        exact inserted
    · exact inserted.remove _

/-- A pending booking is saved, then settled, then announced. -/
theorem begun_settled (begun : backend.Begun) {old updated : Booking} {known}
    {operation : Option WalletOperation} {settled : Backend}
    (found : backend.bookings.find? updated.id = some old)
    (pending : old.status = .pending)
    (paid : BookingsHandler.transactIfAny environment
      (backend.withSaved updated known) operation = .ok settled) :
    Begun settled.bookings settled.completionQueue := by
  obtain ⟨bookings, _, _, completion⟩ := BookingsHandler.transactIfAny_frame paid
  rw [bookings, completion]
  exact begun.save_pending found pending

theorem begun_updatePeriod (begun : backend.Begun)
    (updateDto : UpdateBookingPeriodDto) :
    (run (BookingsHandler.updatePeriod zone environment userId bookingId updateDto)
      backend).2.Begun := by
  rcases BookingsHandler.updatePeriod_cases zone environment backend userId
    bookingId updateDto with ⟨error, _, ran⟩ | ⟨loaded, updated, known, updates, ran⟩
  · rw [ran]
    exact begun
  · have pending := (BookingsHandler.guardUpdate_ok_iff.mp updates.guarded).2
    have found := (Backend.findById_ok_iff.mp updates.found).1
    rw [← backend.bookings.key_of_find? found, ← updates.identity.1] at found
    rw [ran]
    split
    · next settled paid =>
        have begun := begun_settled begun found pending paid
        exact begun
    · exact begun.save_pending found pending

theorem begun_resolve (begun : backend.Begun) (resolution : Resolution) :
    (run (BookingsHandler.resolve resolution environment userId bookingId)
      backend).2.Begun := by
  rcases BookingsHandler.resolve_cases environment backend userId bookingId
    resolution with ⟨error, _, ran⟩ | ⟨loaded, known, passes, ran⟩
  · rw [ran]
    exact begun
  · have pending := (Resolution.guard_ok_iff.mp passes.2).2.1
    have found := (Backend.findById_ok_iff.mp passes.1).1
    rw [← backend.bookings.key_of_find? found] at found
    have found : backend.bookings.find?
        (loaded.withStatus resolution.newStatus).booking.id = some loaded.booking :=
      found
    rw [ran]
    split
    · next settled paid =>
        have begun := begun_settled begun found pending paid
        cases resolution <;> exact begun
    · exact begun.save_pending found pending

theorem begun_startJob (begun : backend.Begun) (attempt : StartAttempt) :
    (attempt.runJob bookingId backend).Begun := by
  have kept : (run (attempt.process bookingId) backend).2.Begun := by
    by_cases starts : ∃ loaded, backend.findById bookingId = .ok loaded ∧
        loaded.booking.status = .confirmed
    · obtain ⟨loaded, found, confirmed⟩ := starts
      have stored := (Backend.findById_ok_iff.mp found).1
      have named := Backend.id_of_findById found
      by_cases reaches : attempt.Reaches
      · obtain ⟨known, ran⟩ :=
          StartAttempt.process_of_reaches found confirmed reaches
        have saved : (backend.withSaved (loaded.withStatus .active).booking
            known).Begun :=
          @Begun.save _ _ begun loaded.booking _ (named ▸ stored) fun _ => Or.inl rfl
        rw [ran]
        split
        · exact saved
        · refine @Begun.add _ _ saved (loaded.withStatus .active).booking _ ?_ rfl
          simp [Backend.withSaved, LoadedBooking.withStatus]
      · obtain ⟨error, ran⟩ :=
          StartAttempt.process_of_not_reaches found confirmed reaches
        rw [ran]
        exact begun
    · rw [StartAttempt.process_of_not_confirmed fun loaded found confirmed =>
        starts ⟨loaded, found, confirmed⟩]
      exact begun
  unfold StartAttempt.runJob
  rcases ran : run (attempt.process bookingId) backend with ⟨error | value, after⟩ <;>
    rw [ran] at kept <;> exact kept

theorem begun_completionJob (begun : backend.Begun) (attempt : CompletionAttempt) :
    (attempt.runJob bookingId backend).Begun := by
  have kept : (run (attempt.process bookingId) backend).2.Begun := by
    by_cases acts : ∃ loaded, backend.findById bookingId = .ok loaded ∧
        BookingCompletionProcessor.Due attempt.environment loaded
    · obtain ⟨loaded, found, due⟩ := acts
      have stored := (Backend.findById_ok_iff.mp found).1
      have named := Backend.id_of_findById found
      by_cases reaches : attempt.Reaches
      · obtain ⟨result, after, known, ran, _, queue, bookings, _⟩ :=
          CompletionAttempt.process_of_reaches found due reaches
        rw [ran, Backend.Begun, queue, bookings]
        exact @Begun.save _ _ begun loaded.booking _ (named ▸ stored) fun _ => Or.inr rfl
      · obtain ⟨error, ran⟩ :=
          CompletionAttempt.process_of_not_reaches found due reaches
        rw [ran]
        exact begun
    · rw [CompletionAttempt.process_of_not_due fun loaded found due =>
        acts ⟨loaded, found, due⟩]
      exact begun
  unfold CompletionAttempt.runJob
  rcases ran : run (attempt.process bookingId) backend with ⟨error | value, after⟩ <;>
    rw [ran] at kept
  · exact kept
  · exact kept.of_subset fun job waiting => (JobQueue.mem_remove.mp waiting).1

end Begun

namespace AttemptedOperation

variable {zone : Zone} {backend after : Backend}

/-- An operation queues no completion job for a booking that has not been active. -/
theorem begun_operation {environment : Environment} {operation : Operation}
    (begun : backend.Begun)
    (taken : Operation.happens zone backend (environment, operation) = some after) :
    after.Begun := by
  have wallet (operation : WalletOperation) :
      (run (WalletsService.transact environment operation) backend).2.Begun := by
    rcases WalletsService.transact_cases environment backend operation with
      ⟨error, ran⟩ | ⟨posted, committed, ran⟩
    · rw [ran]
      exact begun
    · obtain ⟨_, _, known, rfl⟩ := Backend.transact_ok_iff.mp committed
      rw [ran]
      exact begun
  cases operation with
  | findWallet userId =>
      obtain rfl := Option.some.inj taken
      simp only [Operation.call, Operation.run_dropped]
      rcases WalletsService.findWalletByUser_cases environment backend userId with
        ⟨error, ran⟩ | ⟨wallet, ran⟩
      · rw [ran]
        exact begun
      · rw [ran]
        exact begun
  | deposit userId amount =>
      exact Option.some.inj taken ▸ wallet (WalletsService.deposit userId amount)
  | withdraw userId amount =>
      exact Option.some.inj taken ▸ wallet (WalletsService.withdraw userId amount)
  | request userId made =>
      obtain rfl := Option.some.inj taken
      simp only [Operation.call, Operation.run_dropped]
      cases made with
      | create createDto => exact begun_create begun createDto
      | updatePeriod bookingId updateDto => exact begun_updatePeriod begun updateDto
      | resolve resolution bookingId =>
          have ran := @begun_resolve environment backend userId bookingId begun resolution
          cases resolution <;> exact ran
  | startJob bookingId =>
      obtain ⟨_, rfl⟩ := Operation.happens_startJob taken
      exact begun_startJob begun ⟨environment, .none⟩
  | completionJob bookingId =>
      obtain ⟨_, rfl⟩ := Operation.happens_completionJob taken
      exact begun_completionJob begun ⟨environment, .none⟩
  | editListing listing => exact Option.some.inj taken ▸ begun

/-- One operation, or one attempt of a job, queues no completion job for a booking
that has not been active. -/
theorem begun_happens {label : AttemptedOperation} (begun : backend.Begun)
    (taken : happens zone backend label = some after) : after.Begun := by
  cases label with
  | operation environment performed => exact begun_operation begun taken
  | startJob attempt bookingId =>
      simp only [happens] at taken
      split at taken
      · exact Option.some.inj taken ▸ begun_startJob begun attempt
      · contradiction
  | completionJob attempt bookingId =>
      simp only [happens] at taken
      split at taken
      · exact Option.some.inj taken ▸ begun_completionJob begun attempt
      · contradiction

theorem begun_of_reachable {listings : KeyedTable Listing Listing.id}
    {roles : List (Nat × UserRoleType)}
    (reached : Reachable (happens zone) (Backend.opening listings roles) backend) :
    backend.Begun := by
  have opening : (Backend.opening listings roles).Begun := SpareSpace.Begun.empty
  refine Run.invariant Backend.Begun opening ?_ reached
  intro before label after begun _ taken
  exact begun_happens begun taken

end AttemptedOperation

/-- For every confirmed booking, whatever operations and failing attempts of jobs
have led to the state, and every pattern of failures whose last attempt is
faultless: the booking becomes active with one completion job, not to run before
its end, if and only if queueing the job does not fail in the first attempt that
gets past its status update. -/
theorem startedOnce_iff {zone : Zone} {listings : KeyedTable Listing Listing.id}
    {roles : List (Nat × UserRoleType)} {backend : Backend} {bookingId : Nat}
    {loaded : LoadedBooking} (attempts : List StartAttempt)
    (reached : Reachable (AttemptedOperation.happens zone)
      (Backend.opening listings roles) backend)
    (found : backend.findById bookingId = .ok loaded)
    (confirmed : loaded.booking.status = .confirmed)
    (last : ∃ attempt, (attemptsMade (StartAttempt.process bookingId) attempts
      backend).getLast? = some attempt ∧ attempt.Faultless) :
    StartedOnce (afterAttempts (StartAttempt.process bookingId) attempts backend)
        loaded.booking ↔
      ∃ first, attempts.find? (fun attempt => attempt.Reaches) = some first ∧
        first.faults.add = false := by
  have stored := (Backend.findById_ok_iff.mp found).1
  have free := (AttemptedOperation.begun_of_reachable reached).not_holds stored
    (by simp [confirmed]) (by simp [confirmed])
  rw [← Backend.id_of_findById found] at free
  exact startedOnce_iff_of_free attempts found confirmed free last

/-- User 2 opens the wallet, deposits 300 and books the first hour of the listing, and
user 1 confirms. -/
private def untilConfirmed : List AttemptedOperation :=
  [.operation (.at 0) (.findWallet 2), .operation (.at 0) (.deposit 2 300),
    .operation (.at 0) (.request 2 (.create ⟨1, .hour, 0, .one⟩)),
    .operation (.at 0) (.request 1 (.resolve .confirm 1))]

private def confirmedHour : LoadedBooking :=
  ⟨{ sampleActiveBooking with status := .confirmed }, sampleListing 1⟩

/-- An attempt at the start of the first hour. -/
def StartAttempt.sample (faults : StartFaults) : StartAttempt :=
  ⟨.at 0, faults⟩

/-- A failed read is retried, and the booking is started with its completion job. -/
theorem startedOnce_iff_sample :
    ∃ backend, execute (AttemptedOperation.happens .utc) Backend.sample
        untilConfirmed = some backend ∧
      (StartedOnce (afterAttempts (StartAttempt.process 1)
          [.sample ⟨true, false, false⟩, .sample .none] backend)
          confirmedHour.booking ↔
        ∃ first, [StartAttempt.sample ⟨true, false, false⟩, .sample .none].find?
            (fun attempt => attempt.Reaches) = some first ∧
          first.faults.add = false) :=
  ⟨_, rfl, @startedOnce_iff .utc _ _ _ 1 confirmedHour
    [.sample ⟨true, false, false⟩, .sample .none]
    (reachable_of_execute _ _ untilConfirmed rfl) rfl rfl ⟨.sample .none, rfl, rfl⟩⟩

/-- Queueing the completion job fails in the first attempt, and the second skips a
booking that is active. -/
theorem failed_add_is_lost :
    ¬ ∀ (backend : Backend) (bookingId : Nat) (loaded : LoadedBooking)
        (attempts : List StartAttempt),
        Reachable (AttemptedOperation.happens .utc) Backend.sample backend →
        backend.findById bookingId = .ok loaded →
        loaded.booking.status = .confirmed →
        (∃ attempt, (attemptsMade (StartAttempt.process bookingId) attempts
          backend).getLast? = some attempt ∧ attempt.Faultless) →
        StartedOnce (afterAttempts (StartAttempt.process bookingId) attempts backend)
          loaded.booking := by
  intro started
  have queued : ∃ backend, execute (AttemptedOperation.happens .utc) Backend.sample
        untilConfirmed = some backend ∧
      backend.findById 1 = .ok confirmedHour ∧
      (attemptsMade (StartAttempt.process 1)
        [.sample ⟨false, false, true⟩, .sample .none] backend).getLast? =
          some (.sample .none) ∧
      (afterAttempts (StartAttempt.process 1)
        [.sample ⟨false, false, true⟩, .sample .none] backend).completionJobs 1 = [] :=
    ⟨_, rfl, rfl, rfl, rfl⟩
  obtain ⟨backend, executed, found, last, none⟩ := queued
  obtain ⟨job, waits, _⟩ := (started backend 1 confirmedHour _
    (reachable_of_execute _ _ untilConfirmed executed) found rfl
    ⟨_, last, rfl⟩).queued
  exact absurd (none.symm.trans waits) (by simp)

end SpareSpace
