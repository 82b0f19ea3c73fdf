import SpareSpace.BookingSteps
import SpareSpace.BookingOutcomes
import SpareSpace.ListingAvailability

/-!
# Double booking

The overlap check and the write it guards are separate steps, so two calls
that both pass the check can both write.  A call past its check plans to write
a period; the bookings of a listing stay apart in every run in which a planned
period is written only while no other call plans an overlapping one, and a
status write that keeps a booking occupying finds its row still occupying the
same period.
-/

namespace SpareSpace

open InterleavedCalls TransitionRuns

/-- The period of a listing that a call past its overlap check is about to
write, and the booking it writes it for unless that is yet to be created. -/
structure PlannedPeriod where
  bookingId : Option Nat
  listingId : Nat
  period : PeriodDto

/-- Occupying bookings of one listing do not overlap. -/
def NoOverlap (bookings : KeyedTable Booking Booking.id) : Prop :=
  ∀ first ∈ bookings.rows, ∀ second ∈ bookings.rows,
    first.id ≠ second.id → first.listingId = second.listingId →
      first.status.blocking = true → second.status.blocking = true →
        ¬ first.period.Overlaps second.period

/-- The stored row of a booking still occupies the listing for the period. -/
def StillOccupies (bookings : KeyedTable Booking Booking.id)
    (booking : Booking) : Prop :=
  ∃ row ∈ bookings.rows, row.id = booking.id ∧ row.status.blocking = true ∧
    row.listingId = booking.listingId ∧ row.period = booking.period

namespace PlannedPeriod

variable {bookings : KeyedTable Booking Booking.id} {plan : PlannedPeriod}

/-- Two plans for overlapping periods of a listing and different bookings. -/
def Rivals (first second : PlannedPeriod) : Prop :=
  first.listingId = second.listingId ∧
    first.period.Overlaps second.period ∧
      (first.bookingId = none ∨ first.bookingId ≠ second.bookingId)

/-- No other occupying booking of the listing overlaps the planned period. -/
def Free (plan : PlannedPeriod) (bookings : KeyedTable Booking Booking.id) : Prop :=
  ∀ booking ∈ bookings.rows, booking.status.blocking = true →
    booking.listingId = plan.listingId →
      some booking.id ≠ plan.bookingId →
        ¬ booking.period.Overlaps plan.period

/-- The overlap check finds a planned period free. -/
theorem free_of_validateNoOverlap {backend : Backend} {period : PeriodDto}
    {listingId : Nat} {excludeBookingId : Option Nat}
    (passed : BookingsService.validateNoOverlap backend period listingId
      excludeBookingId = .ok ()) :
    Free ⟨excludeBookingId, listingId, period⟩ backend.bookings := by
  intro booking stored blocking listing other
  refine BookingsService.validateNoOverlap_ok_iff.mp passed booking ?_
  have kept : excludes excludeBookingId booking = false := by
    cases excludeBookingId with
    | none => rfl
    | some id =>
        have different : booking.id ≠ id := fun same => other (congrArg some same)
        simp [excludes, different]
  simp only [Backend.blockingBookings, List.mem_filter]
  exact ⟨stored, by simp [blocking, kept, show booking.listingId = listingId from listing]⟩

theorem Free.insert (free : plan.Free bookings) {draft : BookingDraft}
    (apart : draft.listingId = plan.listingId →
      ¬ draft.period.Overlaps plan.period) :
    plan.Free (bookings.insert draft.row draft.row_id) := by
  intro booking stored blocking listing other
  rcases (bookings.mem_insert_iff _ draft.row_id).mp stored with old | rfl
  · exact free booking old blocking listing other
  · exact apart listing

theorem Free.remove (free : plan.Free bookings) (bookingId : Nat) :
    plan.Free (bookings.remove bookingId) :=
  fun booking stored => free booking (List.mem_of_mem_filter stored)

theorem Free.save (free : plan.Free bookings) {updated : Booking}
    (apart : updated.status.blocking = true →
      updated.listingId = plan.listingId →
        some updated.id ≠ plan.bookingId →
          ¬ updated.period.Overlaps plan.period) :
    plan.Free (bookings.save updated) := by
  intro booking stored blocking listing other
  rcases bookings.mem_save_iff.mp stored with rfl | ⟨old, _⟩
  · exact apart blocking listing other
  · exact free booking old blocking listing other

end PlannedPeriod

namespace NoOverlap

variable {bookings : KeyedTable Booking Booking.id}

theorem insert (apart : NoOverlap bookings) {draft : BookingDraft}
    (free : PlannedPeriod.Free ⟨none, draft.listingId, draft.period⟩ bookings) :
    NoOverlap (bookings.insert draft.row draft.row_id) := by
  intro first firstMem second secondMem different listing firstOn secondOn
  rcases (bookings.mem_insert_iff _ draft.row_id).mp firstMem with
    firstOld | rfl
  · rcases (bookings.mem_insert_iff _ draft.row_id).mp secondMem with
      secondOld | rfl
    · exact apart first firstOld second secondOld different listing firstOn
        secondOn
    · exact free first firstOld firstOn listing nofun
  · rcases (bookings.mem_insert_iff _ draft.row_id).mp secondMem with
      secondOld | rfl
    · rw [Span.overlaps_comm]
      exact free second secondOld secondOn listing.symm nofun
    · exact absurd rfl different

theorem remove (apart : NoOverlap bookings) (bookingId : Nat) :
    NoOverlap (bookings.remove bookingId) :=
  fun first firstMem second secondMem =>
    apart first (List.mem_of_mem_filter firstMem) second
      (List.mem_of_mem_filter secondMem)

theorem save (apart : NoOverlap bookings) {updated : Booking}
    (free : updated.status.blocking = true → PlannedPeriod.Free
      ⟨some updated.id, updated.listingId, updated.period⟩ bookings) :
    NoOverlap (bookings.save updated) := by
  intro first firstMem second secondMem different listing firstOn secondOn
  rcases bookings.mem_save_iff.mp firstMem with rfl | ⟨firstOld, firstOther⟩
  · rcases bookings.mem_save_iff.mp secondMem with rfl | ⟨secondOld, secondOther⟩
    · exact absurd rfl different
    · rw [Span.overlaps_comm]
      exact free firstOn second secondOld secondOn listing.symm
        fun same => secondOther (Option.some.inj same)
  · rcases bookings.mem_save_iff.mp secondMem with rfl | ⟨secondOld, _⟩
    · exact free secondOn first firstOld firstOn listing
        fun same => firstOther (Option.some.inj same)
    · exact apart first firstOld second secondOld different listing firstOn
        secondOn

/-- A row that still occupies its period leaves it free for its booking. -/
theorem free_of_stillOccupies (apart : NoOverlap bookings) {booking : Booking}
    (occupies : StillOccupies bookings booking) :
    PlannedPeriod.Free ⟨some booking.id, booking.listingId, booking.period⟩
      bookings := by
  obtain ⟨row, stored, named, rowOn, listing, period⟩ := occupies
  intro other otherMem otherOn otherListing different
  have ids : other.id ≠ row.id :=
    fun same => different (congrArg some (same.trans named))
  simpa only [period] using apart other otherMem row stored ids
    (otherListing.trans listing.symm) otherOn rowOn

end NoOverlap

namespace Call

/-- What a call past its overlap check plans; an update that will save a
booking in a status that does not occupy the listing plans nothing. -/
def planned : Call → Option PlannedPeriod
  | createSave draft => some ⟨none, draft.listingId, draft.period⟩
  | updateSave _ _ _ updated =>
      if updated.status.blocking then
        some ⟨some updated.id, updated.listingId, updated.period⟩
      else
        none
  | _ => none

/-- An update carries the ids of the booking and of the listing it checks. -/
def Coherent : Call → Prop
  | updateContained _ guard loaded updated
  | updateExists _ guard loaded updated =>
      updated.id = guard.booking.id ∧ updated.listingId = loaded.listing.id
  | _ => True

end Call

/-- A step writes a planned period only while no other call plans an
overlapping one, and keeps a booking occupying by a status write only if its
row still occupies the period the call has loaded. -/
def WritesUncontested (config : Config Backend Call) :
    Move Call Environment → Prop
  | .spawn _ => True
  | .act index _ => ∀ call, config.calls[index]? = some call →
      (∀ plan, call.planned = some plan →
        ∀ j other rival, j ≠ index → config.calls[j]? = some other →
          other.planned = some rival → ¬ plan.Rivals rival) ∧
      (∀ change guard loaded, call = .changeSave change guard loaded →
        change.newStatus.blocking = true →
          StillOccupies config.store.bookings loaded.booking)

namespace Call

variable {zone : Zone} {environment : Environment} {backend after : Backend}
  {call moved : Call}

/-- A call comes to plan a period by an overlap check that passed. -/
theorem planned_of_steps (steps : Steps zone environment backend call after moved)
    (coherent : call.Coherent) :
    moved.Coherent ∧
      ∀ plan, moved.planned = some plan → plan.Free after.bookings := by
  cases steps with
  | createExists free =>
      refine ⟨trivial, fun period plans => ?_⟩
      obtain rfl := Option.some.inj plans
      exact PlannedPeriod.free_of_validateNoOverlap free
  | @updateFind _ guard loaded _ booking found tariff =>
      have joined := (Backend.findById_ok_iff.mp found).2
      obtain ⟨sameId, sameListing, _⟩ :=
        BookingsHandler.changeTariff_identity tariff
      refine ⟨⟨?_, ?_⟩, nofun⟩
      · exact sameId.trans (Backend.id_of_findById found)
      · exact sameListing.trans (backend.listings.key_of_find? joined).symm
  | updateContained => exact ⟨coherent, nofun⟩
  | @updateExists _ guard loaded updated free =>
      obtain ⟨sameId, sameListing⟩ := coherent
      refine ⟨trivial, fun period plans => ?_⟩
      simp only [Call.planned] at plans
      split at plans
      · obtain rfl := Option.some.inj plans
        rw [sameId, sameListing]
        exact PlannedPeriod.free_of_validateNoOverlap free
      · contradiction
  | _ => exact ⟨trivial, nofun⟩

/-- A write keeps the bookings apart if its call's planned period is free. -/
theorem Writes.noOverlap {bookings written : KeyedTable Booking Booking.id}
    (writes : Writes bookings call written) (apart : NoOverlap bookings)
    (free : ∀ plan, call.planned = some plan → plan.Free bookings)
    (occupies : ∀ change guard loaded, call = changeSave change guard loaded →
      change.newStatus.blocking = true →
        StillOccupies bookings loaded.booking) : NoOverlap written := by
  cases writes with
  | nothing => exact apart
  | insert => exact apart.insert (free _ rfl)
  | remove => exact apart.remove _
  | update =>
      exact apart.save fun blocking => free _ (by simp [Call.planned, blocking])
  | @change change guard loaded =>
      refine apart.save fun blocking => ?_
      have occupied := occupies change guard loaded rfl blocking
      exact apart.free_of_stillOccupies occupied

/-- A write leaves the planned period of another call free if the two are no
rivals. -/
theorem Writes.free {bookings written : KeyedTable Booking Booking.id}
    {rival : PlannedPeriod} (writes : Writes bookings call written)
    (others : rival.Free bookings)
    (uncontested : ∀ plan, call.planned = some plan → ¬ plan.Rivals rival)
    (occupies : ∀ change guard loaded, call = changeSave change guard loaded →
      change.newStatus.blocking = true →
        StillOccupies bookings loaded.booking) : rival.Free written := by
  cases writes with
  | nothing => exact others
  | insert =>
      exact others.insert fun listing overlaps =>
        uncontested _ rfl ⟨listing, overlaps, Or.inl rfl⟩
  | remove => exact others.remove _
  | @update _ _ _ updated =>
      refine others.save fun blocking listing other overlaps => ?_
      exact uncontested ⟨some updated.id, updated.listingId, updated.period⟩
        (by simp [Call.planned, blocking]) ⟨listing, overlaps, Or.inr other⟩
  | @change change guard loaded =>
      refine others.save fun blocking listing other overlaps => ?_
      obtain ⟨row, stored, named, rowOn, rowListing, period⟩ :=
        occupies change guard loaded rfl blocking
      have overlapsRow : row.period.Overlaps rival.period := by
        rw [period]
        exact overlaps
      exact others row stored rowOn (rowListing.trans listing)
        (fun same => other ((congrArg some named.symm).trans same)) overlapsRow

end Call

/-- The first hour of the sample listing, asked for at its start. -/
def sampleRequest : CreateBookingDto :=
  ⟨1, .hour, 0, .one⟩

instance (first second : PlannedPeriod) : Decidable (first.Rivals second) :=
  inferInstanceAs (Decidable (_ ∧ _))

instance (bookings : KeyedTable Booking Booking.id) (booking : Booking) :
    Decidable (StillOccupies bookings booking) :=
  inferInstanceAs (Decidable (∃ row ∈ bookings.rows, _))

/-- Whether a call may write beside others. -/
private def uncontestedBy (bookings : KeyedTable Booking Booking.id) (call : Call)
    (others : List Call) : Bool :=
  (call.planned.all fun plan => (others.filterMap Call.planned).all fun rival =>
    !decide (plan.Rivals rival)) &&
  match call with
  | .changeSave change _ loaded =>
      !change.newStatus.blocking || decide (StillOccupies bookings loaded.booking)
  | _ => true

private def writesUncontested (config : Config Backend Call) : Move Call Environment → Bool
  | .spawn _ => true
  | .act index _ =>
      (config.calls[index]?).all fun call =>
        uncontestedBy config.store.bookings call (config.others index)

private theorem writesUncontested_of_check (config : Config Backend Call)
    (label : Move Call Environment) (checked : writesUncontested config label = true) :
    WritesUncontested config label := by
  cases label with
  | spawn => trivial
  | act index environment =>
      intro call found
      simp only [writesUncontested, found, Option.all_some, uncontestedBy,
        Bool.and_eq_true] at checked
      constructor
      · intro plan plans j other rival different stood rivals
        have apart := checked.1
        rw [plans, Option.all_some, List.all_eq_true] at apart
        have planned : rival ∈ (config.others index).filterMap Call.planned :=
          List.mem_filterMap.mpr ⟨other, Config.mem_others different stood, rivals⟩
        simpa using apart rival planned
      · rintro change guard loaded rfl blocking
        simpa [blocking] using checked.2

/-- Two renters ask for the first two hours at once, both creations are past the overlap
check before either saves its booking, and the landlord confirms the first one. -/
private def neighbouringHours : List (Move Call Environment) :=
  [.spawn (.createHasRole 2 sampleRequest),
    .spawn (.createHasRole 3 ⟨1, .hour, 3600000, .one⟩),
    .act 0 (.at 0), .act 0 (.at 0), .act 0 (.at 0), .act 0 (.at 0),
    .act 1 (.at 0), .act 1 (.at 0), .act 1 (.at 0), .act 1 (.at 0),
    .act 0 (.at 0), .act 1 (.at 0),
    .spawn (.changeGuard (.resolve .confirm 1) 1),
    .act 2 (.at 0), .act 2 (.at 0), .act 2 (.at 0)]

end SpareSpace
