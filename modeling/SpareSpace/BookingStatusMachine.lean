import SpareSpace.BookingSteps
import SpareSpace.BookingOutcomes

/-!
# The booking status machine

A call checks the status of a booking on one read and writes the row later
without checking again, so the write can land on a status it was not meant
for.  A call between the two holds a status write; every stored status changes
along the status machine in each run in which a save changes a status only
while no other call holds a write of a different status to the same booking.
-/

namespace SpareSpace

open InterleavedCalls TransitionRuns

/-- The transitions of the booking status machine. -/
inductive BookingStatus.Legal : BookingStatus → BookingStatus → Prop
  | cancel : Legal pending cancelled
  | reject : Legal pending rejected
  | confirm : Legal pending confirmed
  | start : Legal confirmed active
  | complete : Legal active completed

namespace BookingStatus.Legal

variable {before after : BookingStatus}

/-- Cancelled, rejected and completed bookings are final. -/
theorem blocking (legal : Legal before after) : before.blocking = true := by
  cases legal <;> rfl

theorem ne_pending (legal : Legal before after) : after ≠ .pending := by
  cases legal <;> decide

end BookingStatus.Legal

theorem StatusChange.legal (change : StatusChange) :
    BookingStatus.Legal change.expected change.newStatus := by
  cases change with
  | resolve resolution userId =>
      cases resolution with
      | cancel => exact .cancel
      | confirm => exact .confirm
      | reject => exact .reject
  | start => exact .start
  | complete => exact .complete

/-- The first read of an admitted change shows the status it expects. -/
theorem StatusChange.status_of_admits {change : StatusChange} {now : Int}
    {guard : LoadedBooking} (admitted : change.admits now guard = .ok true) :
    guard.booking.status = change.expected := by
  cases change with
  | resolve resolution userId =>
      simp only [admits] at admitted
      cases guarded : resolution.guard userId now guard with
      | error error => simp [guarded] at admitted
      | ok _ => exact (Resolution.guard_ok_iff.mp guarded).2.1
  | start => simpa [admits, expected] using admitted
  | complete =>
      simp only [admits, Except.ok.injEq, decide_eq_true_eq] at admitted
      exact admitted.1

/-- A write of a status that a call will make without a further check: the
booking, the status it has checked and the status it will write. -/
structure StatusWrite where
  bookingId : Nat
  expected : BookingStatus
  written : BookingStatus

namespace Call

/-- The status write a call holds between its check and its save; an update
saves the status it has loaded. -/
def statusWrite : Call → Option StatusWrite
  | updateContained _ _ _ updated | updateExists _ _ _ updated
  | updateSave _ _ _ updated =>
      some ⟨updated.id, updated.status, updated.status⟩
  | changeFind change guard =>
      some ⟨guard.booking.id, change.expected, change.newStatus⟩
  | changeSave change _ loaded =>
      some ⟨loaded.booking.id, change.expected, change.newStatus⟩
  | _ => none

/-- The row a call is about to save over its booking. -/
def saved : Call → Option Booking
  | updateSave _ _ _ updated => some updated
  | changeSave change _ loaded => some (loaded.withStatus change.newStatus).booking
  | _ => none

end Call

/-- The stored status of a booking, if it is stored. -/
def storedStatus (bookings : KeyedTable Booking Booking.id)
    (bookingId : Nat) : Option BookingStatus :=
  (bookings.find? bookingId).map Booking.status

/-- A step saves a status that is not stored yet only while no other call
holds a write of a different status to the booking. -/
def SavesStatusAlone (config : Config Backend Call) :
    Move Call Environment → Prop
  | .spawn _ => True
  | .act index _ => ∀ call booking,
      config.calls[index]? = some call → call.saved = some booking →
        storedStatus config.store.bookings booking.id ≠ some booking.status →
          ∀ j other write, j ≠ index → config.calls[j]? = some other →
            other.statusWrite = some write → write.bookingId = booking.id →
              write.written = booking.status

namespace StatusWrite

variable {bookings : KeyedTable Booking Booking.id} {write : StatusWrite}

/-- The stored status of the booking is the one the call has checked, or
another call has already written the same status. -/
structure Fits (write : StatusWrite)
    (bookings : KeyedTable Booking Booking.id) : Prop where
  issued : write.bookingId < bookings.nextId
  status : ∀ row, bookings.find? write.bookingId = some row →
    row.status = write.expected ∨ row.status = write.written
  legal : write.expected = write.written ∨
    BookingStatus.Legal write.expected write.written

/-- A write that fits moves the stored status along the machine. -/
theorem Fits.legal_of_ne (fits : write.Fits bookings) {row : Booking}
    (found : bookings.find? write.bookingId = some row)
    (changes : row.status ≠ write.written) :
    BookingStatus.Legal row.status write.written := by
  rcases fits.status row found with checked | already
  · rcases fits.legal with same | legal
    · exact absurd (checked.trans same) changes
    · exact checked ▸ legal
  · exact absurd already changes

theorem Fits.insert (fits : write.Fits bookings) {draft : BookingDraft} :
    write.Fits (bookings.insert draft.row draft.row_id) where
  issued := Nat.lt_succ_of_lt fits.issued
  status row found := by
    rw [KeyedTable.find?_insert, if_neg (Nat.ne_of_lt fits.issued)] at found
    exact fits.status row found
  legal := fits.legal

theorem Fits.remove (fits : write.Fits bookings) (bookingId : Nat) :
    write.Fits (bookings.remove bookingId) where
  issued := fits.issued
  status row found := by
    rw [KeyedTable.find?_remove] at found
    split at found
    · contradiction
    · exact fits.status row found
  legal := fits.legal

/-- A save of another booking, of the status the row has or of the status the
write holds leaves the write fitting. -/
theorem Fits.save (fits : write.Fits bookings) {booking : Booking}
    (alone : storedStatus bookings booking.id ≠ some booking.status →
      write.bookingId = booking.id → write.written = booking.status) :
    write.Fits (bookings.save booking) where
  issued := lt_of_lt_of_le fits.issued (bookings.le_nextId_save booking)
  status row found := by
    rw [KeyedTable.find?_save] at found
    split at found
    · next same =>
        obtain rfl := Option.some.inj found
        by_cases kept :
            storedStatus bookings booking.id = some booking.status
        · obtain ⟨old, oldFound, oldStatus⟩ := Option.map_eq_some_iff.mp kept
          rw [← oldStatus]
          exact fits.status old (same ▸ oldFound)
        · exact Or.inr (alone kept same).symm
    · exact fits.status row found
  legal := fits.legal

end StatusWrite

namespace Call

variable {zone : Zone} {environment : Environment} {backend after : Backend}
  {call moved : Call}

/-- Every held status write of a call fits the stored bookings. -/
def HoldsFitting (bookings : KeyedTable Booking Booking.id) (call : Call) :
    Prop :=
  ∀ write, call.statusWrite = some write → write.Fits bookings

theorem holdsFitting_iff_of_some {bookings : KeyedTable Booking Booking.id}
    {write : StatusWrite} (holds : call.statusWrite = some write) :
    call.HoldsFitting bookings ↔ write.Fits bookings := by
  simp [HoldsFitting, holds]

private theorem fits_of_find {bookings : KeyedTable Booking Booking.id}
    {bookingId : Nat} {booking : Booking} {written : BookingStatus}
    (found : bookings.find? bookingId = some booking)
    (legal : booking.status = written ∨
      BookingStatus.Legal booking.status written) :
    StatusWrite.Fits ⟨booking.id, booking.status, written⟩ bookings where
  issued := bookings.key_of_find? found ▸ bookings.lt_of_find? found
  status row rowFound := by
    rw [bookings.key_of_find? found] at rowFound
    rw [found] at rowFound
    exact Or.inl (congrArg Booking.status (Option.some.inj rowFound)).symm
  legal := legal

/-- The write a call holds after a step fits: it stems from a read in this
step or was held before. -/
theorem holdsFitting_of_steps
    (steps : Steps zone environment backend call after moved)
    (fits : call.HoldsFitting backend.bookings) :
    moved.HoldsFitting after.bookings := by
  cases steps with
  | @updateFind _ guard loaded _ booking found tariff =>
      have located := (Backend.findById_ok_iff.mp found).1
      obtain ⟨sameId, _, _, sameStatus⟩ :=
        BookingsHandler.changeTariff_identity tariff
      rw [holdsFitting_iff_of_some rfl]
      show StatusWrite.Fits ⟨booking.id, booking.status, booking.status⟩ _
      rw [sameId, sameStatus]
      exact fits_of_find located (Or.inl rfl)
  | updateContained => exact fits
  | updateExists => exact fits
  | @changeGuard change _ guard found admitted =>
      have located := (Backend.findById_ok_iff.mp found).1
      have status := StatusChange.status_of_admits admitted
      rw [holdsFitting_iff_of_some rfl, ← status]
      exact fits_of_find located (Or.inr (status ▸ change.legal))
  | @changeFind change guard loaded found =>
      rw [holdsFitting_iff_of_some rfl, Backend.id_of_findById found]
      exact fits _ rfl
  | _ => exact nofun

/-- A write leaves a status write held by another call fitting if a changed
status is the one the other call holds too. -/
theorem Writes.fits {bookings written : KeyedTable Booking Booking.id}
    {write : StatusWrite} (writes : Writes bookings call written)
    (others : write.Fits bookings)
    (alone : ∀ booking, call.saved = some booking →
      storedStatus bookings booking.id ≠ some booking.status →
        write.bookingId = booking.id → write.written = booking.status) :
    write.Fits written := by
  cases writes with
  | nothing => exact others
  | insert => exact others.insert
  | remove => exact others.remove _
  | update => exact others.save (alone _ rfl)
  | change => exact others.save (alone _ rfl)

/-- A changed status is the one the writing call held. -/
theorem Writes.status_cases {bookings written : KeyedTable Booking Booking.id}
    (writes : Writes bookings call written) {before row : Booking}
    (stored : before ∈ bookings.rows) (kept : row ∈ written.rows)
    (same : before.id = row.id) (changes : before.status ≠ row.status) :
    ∃ write, call.statusWrite = some write ∧ write.bookingId = before.id ∧
      write.written = row.status := by
  have unchanged : row ∉ bookings.rows := fun old =>
    changes (congrArg Booking.status (bookings.eq_of_key_eq stored old same))
  cases writes with
  | nothing => exact absurd kept unchanged
  | @insert draft =>
      rcases (bookings.mem_insert_iff _ draft.row_id).mp kept with old | rfl
      · exact absurd old unchanged
      · exact absurd same (Nat.ne_of_lt (bookings.fresh before stored))
  | remove => exact absurd (List.mem_of_mem_filter kept) unchanged
  | update =>
      rcases bookings.mem_save_iff.mp kept with rfl | ⟨old, _⟩
      · exact ⟨_, rfl, same.symm, rfl⟩
      · exact absurd old unchanged
  | change =>
      rcases bookings.mem_save_iff.mp kept with rfl | ⟨old, _⟩
      · exact ⟨_, rfl, same.symm, rfl⟩
      · exact absurd old unchanged

end Call

/-- In every interleaving whose saves change statuses alone, the writes that
calls hold fit the stored bookings. -/
theorem holdsFitting_of_run {zone : Zone} {start : Backend}
    {config : Config Backend Call}
    (run : Run (bookingSystem zone).step SavesStatusAlone ⟨start, []⟩ config) :
    ∀ call ∈ config.calls, call.HoldsFitting config.store.bookings := by
  refine (InterleavedCalls.invariant (bookingSystem zone) (fun _ => True)
    (fun backend call => call.HoldsFitting backend.bookings) trivial
    (fun call present => absurd present List.not_mem_nil) ?_ ?_ run).2
  · rintro backend call _ starts
    cases call <;> first | contradiction | exact nofun
  · intro config index environment call after moved allowed found moves _ own
    have steps := Call.steps_of_next moves
    refine ⟨trivial,
      Call.holdsFitting_of_steps steps (own call (mem_of_index found)), ?_⟩
    intro j other different stood write holds
    exact steps.writes.fits (own other (mem_of_index stood) write holds)
      fun booking saves changes =>
        allowed call booking found saves changes j other write different stood
          holds

/-- From any state and in any interleaving whose saves change statuses alone,
every step that changes a stored status takes one of the five transitions; in
particular no final status is left and no booking returns to pending. -/
theorem status_machine_respected {zone : Zone} {start : Backend}
    {config after : Config Backend Call} {move : Move Call Environment}
    (run : Run (bookingSystem zone).step SavesStatusAlone ⟨start, []⟩ config)
    (taken : (bookingSystem zone).step config move = some after) :
    ∀ before ∈ config.store.bookings.rows, ∀ row ∈ after.store.bookings.rows,
      before.id = row.id → before.status ≠ row.status →
        BookingStatus.Legal before.status row.status ∧
          before.status.blocking = true ∧ row.status ≠ .pending := by
  intro before stored row kept same changes
  have legal : BookingStatus.Legal before.status row.status := by
    cases move with
    | spawn call =>
        obtain ⟨_, rfl⟩ := System.step_spawn taken
        have sameRow := config.store.bookings.eq_of_key_eq stored kept same
        exact absurd (congrArg Booking.status sameRow) changes
    | act index environment =>
        obtain ⟨call, store, moved, found, moves, rfl⟩ :=
          System.step_act taken
        obtain ⟨write, holds, named, written⟩ :=
          (Call.steps_of_next moves).writes.status_cases stored kept same
            changes
        have fits := holdsFitting_of_run run call (mem_of_index found) write
          holds
        have located : config.store.bookings.find? write.bookingId =
            some before := by
          rw [named]
          exact config.store.bookings.find?_key_of_mem stored
        rw [← written] at changes ⊢
        exact fits.legal_of_ne located changes
  exact ⟨legal, legal.blocking, legal.ne_pending⟩

private def savesStatusAlone (config : Config Backend Call) : Move Call Environment → Bool
  | .spawn _ => true
  | .act index _ =>
      (config.calls[index]?).all fun call => call.saved.all fun booking =>
        storedStatus config.store.bookings booking.id == some booking.status ||
          ((config.others index).filterMap Call.statusWrite).all fun write =>
            write.bookingId != booking.id || write.written == booking.status

private theorem savesStatusAlone_of_check (config : Config Backend Call)
    (label : Move Call Environment) (checked : savesStatusAlone config label = true) :
    SavesStatusAlone config label := by
  cases label with
  | spawn => trivial
  | act index environment =>
      intro call booking found saves changes j other write different stood writes same
      simp only [savesStatusAlone, found, Option.all_some, saves, Bool.or_eq_true,
        beq_iff_eq, changes, false_or, List.all_eq_true] at checked
      have held : write ∈ (config.others index).filterMap Call.statusWrite :=
        List.mem_filterMap.mpr ⟨other, Config.mem_others different stood, writes⟩
      simpa [same] using checked write held

/-- The landlord confirms twice at once, and both confirmations pass their checks before
either saves the status; then the job that starts the booking passes its own. -/
private def confirmsTwice : List (Move Call Environment) :=
  [.spawn (.changeGuard (.resolve .confirm 1) 1), .spawn (.changeGuard (.resolve .confirm 1) 1),
    .act 0 (.at 0), .act 1 (.at 0), .act 0 (.at 0), .act 1 (.at 0),
    .act 0 (.at 0), .act 1 (.at 0),
    .spawn (.changeGuard .start 1), .act 2 (.at 0), .act 2 (.at 0)]

/-- The step that saves the started booking. -/
theorem status_machine_respected_sample :
    ∃ config after, Run (bookingSystem .utc).step SavesStatusAlone
        ⟨Backend.sampleBooked, []⟩ config ∧
      config.calls.length = 3 ∧
      ∃ before ∈ config.store.bookings.rows,
        ∃ row ∈ after.store.bookings.rows,
          (bookingSystem .utc).step config (.act 2 (.at 0)) = some after ∧
            before.status = .confirmed ∧ row.status = .active ∧
            BookingStatus.Legal before.status row.status ∧
              before.status.blocking = true ∧ row.status ≠ .pending := by
  have reached : Run (bookingSystem .utc).step SavesStatusAlone ⟨Backend.sampleBooked, []⟩ _ :=
    Run.start.executeChecked savesStatusAlone savesStatusAlone_of_check confirmsTwice rfl
  let confirmed : Booking :=
    ⟨1, 1, 2, 300, .hour, ⟨0, 3600000⟩, 300, .confirmed⟩
  let active : Booking :=
    ⟨1, 1, 2, 300, .hour, ⟨0, 3600000⟩, 300, .active⟩
  have respected := status_machine_respected reached
    (show (bookingSystem .utc).step _ (.act 2 (.at 0)) = some _ from rfl)
  exact ⟨_, _, reached, rfl, confirmed, by decide, active, by decide, rfl, rfl, rfl,
    respected confirmed (by decide) active (by decide) rfl (by decide)⟩

/-- The renter's cancellation and the landlord's confirmation both pass their
checks; the confirmation then overwrites the cancellation. -/
theorem confirmation_overwrites_cancellation :
    ¬ ∀ (zone : Zone) (start : Backend) (config after : Config Backend Call)
        (move : Move Call Environment),
        Reachable (bookingSystem zone).step ⟨start, []⟩ config →
        (bookingSystem zone).step config move = some after →
        ∀ before ∈ config.store.bookings.rows,
          ∀ row ∈ after.store.bookings.rows,
            before.id = row.id → before.status ≠ row.status →
              BookingStatus.Legal before.status row.status ∧
                before.status.blocking = true ∧ row.status ≠ .pending := by
  intro respected
  have reached := reachable_of_execute
    (bookingSystem .utc).step ⟨Backend.sampleBooked, []⟩
    [.spawn (.changeGuard (.resolve .cancel 2) 1),
      .spawn (.changeGuard (.resolve .confirm 1) 1),
      .act 0 (.at 0), .act 1 (.at 0), .act 0 (.at 0), .act 1 (.at 0),
      .act 0 (.at 0)] rfl
  have overwritten := respected .utc .sampleBooked _ _ (.act 1 (.at 0)) reached
    rfl ⟨1, 1, 2, 300, .hour, ⟨0, 3600000⟩, 300, .cancelled⟩ (by decide)
    ⟨1, 1, 2, 300, .hour, ⟨0, 3600000⟩, 300, .confirmed⟩ (by decide) rfl
    (by decide)
  exact absurd overwritten.2.1 (by decide)

end SpareSpace
