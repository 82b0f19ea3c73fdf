import SpareSpace.BookingCalls
import SpareSpace.CallPrograms

/-!
# Booking calls without interference

A request or a job whose program points run one after another with no other
call in between leaves the store that the handler or the processor leaves, and
returns or throws as it does.
-/

namespace SpareSpace

open InterleavedCalls Fallible

namespace Call

/-- The call has returned. -/
def Returned : Call → Prop
  | finished _ => True
  | _ => False

variable {zone : Zone} {environment : Environment}

/-- Run alone, the call computes the service. -/
abbrev Computes (zone : Zone) (environment : Environment) {α : Type}
    (call : Call) (service : Service α) : Prop :=
  (bookingSystem zone).Computes environment Returned failed call service

abbrev Performs (zone : Zone) (environment : Environment) {α : Type}
    (call : Call) (first : Service α) (rest : α → Call) : Prop :=
  (bookingSystem zone).Performs environment failed call first rest

section Steps

variable {α : Type} {call : Call}

theorem performs_reads {read : Backend → Except HttpException α}
    {rest : α → Call}
    (moves : ∀ backend, call.next zone environment backend =
      proceed backend (read backend) rest) :
    call.Performs zone environment (Fallible.reads read) rest := by
  intro backend
  simp only [bookingSystem, moves, run_reads, proceed]
  cases read backend <;> rfl

theorem performs_save (booking : Booking) {rest : Call}
    (moves : ∀ backend, call.next zone environment backend =
      proceedIn backend (backend.saveBooking booking) rest) :
    call.Performs zone environment (BookingsService.save booking)
      fun _ => rest := by
  intro backend
  simp only [bookingSystem, moves, BookingsService.save, run_updates, proceedIn]
  cases backend.saveBooking booking <;> rfl

theorem performs_settle (operation : Option WalletOperation) {rest : Call}
    (moves : ∀ backend, call.next zone environment backend =
      proceedIn backend
        (BookingsHandler.transactIfAny environment backend operation) rest) :
    call.Performs zone environment (BookingsHandler.settle environment operation)
      fun _ => rest := by
  intro backend
  simp only [bookingSystem, moves, proceedIn, BookingsHandler.run_settle]
  cases BookingsHandler.transactIfAny environment backend operation <;> rfl

end Steps

theorem performs_emit {call : Call} (event : BookingEvent)
    (loaded : LoadedBooking) {rest : Call}
    (moves : ∀ backend, call.next zone environment backend =
      some (BookingsListener.handle environment backend event, rest)) :
    Performs zone environment call
      (do BookingsHandler.emit environment event; return loaded)
      fun _ => rest := by
  intro backend
  simp only [bookingSystem, moves]
  rfl

/-- A call that looks a booking up and checks it, then computes the rest. -/
theorem computes_findById {call : Call} {bookingId : Nat} {α β : Type}
    {check : LoadedBooking → Except HttpException β}
    {service : LoadedBooking → β → Service α}
    (rest : LoadedBooking → β → Call)
    (moves : ∀ backend, call.next zone environment backend =
      match backend.findById bookingId with
      | .error error => some (backend, failed error)
      | .ok loaded => proceed backend (check loaded) (rest loaded))
    (later : ∀ loaded value, loaded.booking.id = bookingId →
      Computes zone environment (rest loaded value) (service loaded value)) :
    Computes zone environment call (do
      let loaded ← BookingsService.findById bookingId
      let value ← Fallible.lift (check loaded)
      service loaded value) := by
  have performs : Performs zone environment call
      (Fallible.reads fun backend => do
        let loaded ← backend.findById bookingId
        let value ← check loaded
        return (loaded, value))
      fun pair => rest pair.1 pair.2 := by
    refine performs_reads fun backend => (moves backend).trans ?_
    cases backend.findById bookingId with
    | error error => rfl
    | ok loaded =>
        change proceed backend (check loaded) _ =
          proceed backend (check loaded >>= fun value => .ok (loaded, value)) _
        cases check loaded <;> rfl
  have sequence : (do
      let loaded ← BookingsService.findById bookingId
      let value ← Fallible.lift (check loaded)
      service loaded value) = (Fallible.reads fun backend => do
        let loaded ← backend.findById bookingId
        let value ← check loaded
        return (loaded, value)) >>= fun pair => service pair.1 pair.2 := by
    simp only [← reads_bind, bind_assoc]
    rfl
  rw [sequence]
  refine performs.computes_bind fun pair backend _ ran => later _ _ ?_
  simp only [run_reads, Prod.mk.injEq] at ran
  obtain ⟨read, rfl⟩ := ran
  cases found : backend.findById bookingId with
  | error error =>
      rw [found] at read
      contradiction
  | ok loaded =>
      rw [found] at read
      change (check loaded >>= fun value => .ok (loaded, value)) = .ok pair at read
      cases checked : check loaded with
      | error error =>
          rw [checked] at read
          contradiction
      | ok value =>
          rw [checked] at read
          obtain rfl := Except.ok.inj read
          exact Backend.id_of_findById found

/-- From the second read on, a status change writes the status, settles and
concludes. -/
theorem computes_changeFind (change : StatusChange) (guard : LoadedBooking)
    {α : Type} (conclude : LoadedBooking → Service α)
    (concludes : ∀ saved, Performs zone environment
      (changeAnnounce change guard saved) (conclude saved)
        fun _ => finished (some (change, guard.booking.id))) :
    Computes zone environment (changeFind change guard) (do
      let saved ← BookingsService.updateStatus guard.booking.id change.newStatus
      BookingsHandler.settle environment (change.operation guard saved)
      conclude saved) := by
  simp only [BookingsService.updateStatus, bind_assoc, pure_bind]
  have finds : Performs zone environment (changeFind change guard)
      (BookingsService.findById guard.booking.id) (changeSave change guard) :=
    performs_reads fun _ => rfl
  refine finds.computes_bind fun loaded _ _ _ => ?_
  have saves : Performs zone environment (changeSave change guard loaded)
      (BookingsService.save (loaded.withStatus change.newStatus).booking)
        fun _ => changeSettle change guard (loaded.withStatus change.newStatus) :=
    performs_save _ fun _ => rfl
  refine saves.computes_bind fun _ _ _ _ => ?_
  have settles : Performs zone environment
      (changeSettle change guard (loaded.withStatus change.newStatus))
      (BookingsHandler.settle environment
        (change.operation guard (loaded.withStatus change.newStatus)))
        fun _ => changeAnnounce change guard (loaded.withStatus change.newStatus) :=
    performs_settle _ fun _ => rfl
  exact settles.computes_bind fun _ _ _ _ =>
    (concludes _).computes fun _ => trivial

/-- A request that resolves a booking, run alone, is the handler's. -/
theorem computes_resolve (resolution : Resolution) (userId bookingId : Nat) :
    Computes zone environment
      (changeGuard (.resolve resolution userId) bookingId)
      (BookingsHandler.resolve resolution environment userId bookingId) := by
  refine computes_findById
    (fun loaded _ => changeFind (.resolve resolution userId) loaded)
    (fun backend => ?_) fun loaded _ named => ?_
  · simp only [next, StatusChange.admits, proceed]
    cases backend.findById bookingId with
    | error error => rfl
    | ok loaded =>
        cases admitted : resolution.guard userId environment.now loaded <;>
          simp [admitted, bind, Except.bind, pure, Except.pure]
  · subst named
    exact computes_changeFind (.resolve resolution userId) loaded _
      fun saved => performs_emit _ _ fun _ => rfl

/-- A start job, run alone with no failing call, is the processor's. -/
theorem computes_start (bookingId : Nat) :
    Computes zone environment (changeGuard .start bookingId)
      (BookingStartProcessor.process environment .none bookingId) := by
  have finds : Performs zone environment (changeGuard .start bookingId)
      (BookingsService.findById bookingId) fun loaded =>
        if loaded.booking.status = .confirmed then changeFind .start loaded
        else finished none := by
    refine performs_reads fun backend => ?_
    simp only [next, StatusChange.admits, proceed]
    cases backend.findById bookingId with
    | error error => rfl
    | ok loaded =>
        by_cases status : loaded.booking.status = .confirmed <;>
          simp [status, bind, Except.bind, pure, Except.pure]
  refine finds.computes_bind fun loaded backend _ ran => ?_
  have named : loaded.booking.id = bookingId :=
    Backend.id_of_findById (congrArg Prod.fst ran)
  by_cases status : loaded.booking.status = .confirmed
  · subst named
    simp only [status, if_true, ne_eq, not_true, if_false]
    refine computes_changeFind .start loaded
      (fun _ => addCompletionJob environment loaded.booking) fun _ _ => rfl
  · simp only [status, if_false, ne_eq, not_false_iff, if_true]
    exact System.computes_pure () trivial

/-- A completion job, run alone with no failing call, is the processor's. -/
theorem computes_complete (bookingId : Nat) :
    Computes zone environment (changeGuard .complete bookingId)
      (BookingCompletionProcessor.process environment .none bookingId) := by
  have finds : Performs zone environment (changeGuard .complete bookingId)
      (BookingsService.findById bookingId) fun loaded =>
        if loaded.booking.status = .active ∧
            loaded.booking.period.stop ≤ environment.now then
          changeFind .complete loaded
        else finished none := by
    refine performs_reads fun backend => ?_
    simp only [next, StatusChange.admits, proceed]
    cases backend.findById bookingId with
    | error error => rfl
    | ok loaded =>
        by_cases due : loaded.booking.status = .active ∧
            loaded.booking.period.stop ≤ environment.now <;>
          simp [due, bind, Except.bind, pure, Except.pure]
  refine finds.computes_bind fun loaded backend _ ran => ?_
  have named : loaded.booking.id = bookingId :=
    Backend.id_of_findById (congrArg Prod.fst ran)
  by_cases status : loaded.booking.status = .active
  · by_cases ended : loaded.booking.period.stop ≤ environment.now
    · subst named
      simp only [status, ended, and_self, if_true, ne_eq, not_true, if_false,
        gt_iff_lt, not_lt.mpr ended]
      exact computes_changeFind .complete loaded
        (fun _ => do
          emitSignal loaded.booking.renterId .bookingCompleted loaded.booking
          emitSignal loaded.listing.userId .bookingCompleted loaded.booking)
        fun _ _ => rfl
    · simp only [status, ended, and_false, if_true, ne_eq, not_true, if_false,
        gt_iff_lt, not_le.mp ended]
      exact System.computes_pure () trivial
  · simp only [status, false_and, if_false, ne_eq, not_false_iff, if_true]
    exact System.computes_pure () trivial

/-- From its last check on, `updatePeriod` saves, settles and announces. -/
theorem computes_updateContained (userId : Nat) (guard loaded : LoadedBooking)
    (updated : Booking) :
    Computes zone environment (updateContained userId guard loaded updated)
      (do
        Fallible.reads fun backend =>
          BookingsService.validateBookingDates backend environment.now
            updated.period loaded.listing.id loaded.listing.availability
            (some guard.booking.id)
        BookingsService.save updated
        BookingsHandler.settle environment
          (BookingsHandler.settlement userId guard.booking.id
            (priceDiff guard ⟨updated, loaded.listing⟩)
            (residue guard ⟨updated, loaded.listing⟩))
        BookingsHandler.emit environment
          (.periodUpdated ⟨updated, loaded.listing⟩ guard.booking.period)
        return (⟨updated, loaded.listing⟩ : LoadedBooking)) := by
  simp only [BookingsService.validateBookingDates, ← reads_bind, bind_assoc]
  have contains : Performs zone environment
      (updateContained userId guard loaded updated)
      (Fallible.reads fun _ => BookingsService.validateWithinSlots
        environment.now updated.period loaded.listing.availability)
      fun _ => updateExists userId guard loaded updated :=
    performs_reads fun _ => rfl
  refine contains.computes_bind fun _ _ _ _ => ?_
  have excludes : Performs zone environment
      (updateExists userId guard loaded updated)
      (Fallible.reads fun backend => BookingsService.validateNoOverlap backend
        updated.period loaded.listing.id (some guard.booking.id))
      fun _ => updateSave userId guard loaded updated :=
    performs_reads fun _ => rfl
  refine excludes.computes_bind fun _ _ _ _ => ?_
  have saves : Performs zone environment
      (updateSave userId guard loaded updated) (BookingsService.save updated)
      fun _ => updateSettle userId guard ⟨updated, loaded.listing⟩ :=
    performs_save _ fun _ => rfl
  refine saves.computes_bind fun _ _ _ _ => ?_
  have settles : Performs zone environment
      (updateSettle userId guard ⟨updated, loaded.listing⟩)
      (BookingsHandler.settle environment
        (BookingsHandler.settlement userId guard.booking.id
          (priceDiff guard ⟨updated, loaded.listing⟩)
            (residue guard ⟨updated, loaded.listing⟩)))
      fun _ => updateAnnounce guard ⟨updated, loaded.listing⟩ :=
    performs_settle _ fun _ => rfl
  refine settles.computes_bind fun _ _ _ _ => ?_
  have announces : Performs zone environment
      (updateAnnounce guard ⟨updated, loaded.listing⟩) _
      fun _ => finished none :=
    performs_emit (.periodUpdated ⟨updated, loaded.listing⟩ guard.booking.period)
      ⟨updated, loaded.listing⟩ fun _ => rfl
  exact announces.computes fun _ => trivial

/-- A period update, run alone, is the handler's. -/
theorem computes_updatePeriod (userId bookingId : Nat)
    (dto : UpdateBookingPeriodDto) :
    Computes zone environment (updateGuard userId bookingId dto)
      (BookingsHandler.updatePeriod zone environment userId bookingId dto) := by
  have sequence : BookingsHandler.updatePeriod zone environment userId
      bookingId dto = (do
        let loaded ← BookingsService.findById bookingId
        Fallible.lift (do
          BookingsHandler.guardUpdate userId loaded
          BookingsService.checkWholeMinute zone dto.startDate)
        let second ← BookingsService.findById bookingId
        let booking ← Fallible.lift
          (BookingsService.changeTariff second dto.pricePeriod)
        let updated := BookingsService.changePeriod zone dto booking
        Fallible.reads fun backend =>
          BookingsService.validateBookingDates backend environment.now
            updated.period second.listing.id second.listing.availability
            (some bookingId)
        BookingsService.save updated
        BookingsHandler.settle environment
          (BookingsHandler.settlement userId loaded.booking.id
            (priceDiff loaded ⟨updated, second.listing⟩)
            (residue loaded ⟨updated, second.listing⟩))
        BookingsHandler.emit environment
          (.periodUpdated ⟨updated, second.listing⟩ loaded.booking.period)
        return (⟨updated, second.listing⟩ : LoadedBooking)) := by
    simp only [BookingsHandler.updatePeriod, BookingsService.updatePeriod,
      Fallible.lift, ← reads_bind, bind_assoc, pure_bind]
    rfl
  rw [sequence]
  refine computes_findById (fun loaded _ => updateFind userId loaded dto)
    (fun backend => ?_) fun loaded _ named => ?_
  · simp only [next, proceed]
    cases backend.findById bookingId with
    | error error => rfl
    | ok loaded =>
        cases guarded : BookingsHandler.guardUpdate userId loaded <;>
          cases BookingsService.checkWholeMinute zone dto.startDate <;>
            simp [guarded, bind, Except.bind, pure, Except.pure]
  · subst named
    refine computes_findById (fun second booking =>
      updateContained userId loaded second
        (BookingsService.changePeriod zone dto booking))
      (fun backend => ?_) fun second booking _ =>
        computes_updateContained userId loaded second _
    simp only [next, proceed]
    cases backend.findById loaded.booking.id with
    | error error => rfl
    | ok second =>
        cases tariff : BookingsService.changeTariff second dto.pricePeriod <;>
          simp [tariff, bind, Except.bind, pure, Except.pure]

/-- The payment of a new booking, compensated when it throws. -/
theorem computes_createPay (userId : Nat) (loaded : LoadedBooking) :
    Computes zone environment (createPay userId loaded) (do
      tryCatch
        (WalletsService.transact environment
          (WalletsService.processBookingPayment userId loaded.booking.id
            loaded.booking.totalPrice))
        fun error => do
          BookingsService.delete loaded.booking.id
          throw error
      BookingsHandler.emit environment (.created loaded)
      return loaded) := by
  intro backend
  unfold System.ComputesFrom
  rw [run_bind, run_tryCatch]
  simp only [WalletsService.transact, run_updates]
  cases paid : backend.transact environment.walletAborts
      (WalletsService.processBookingPayment userId loaded.booking.id
        loaded.booking.totalPrice) with
  | ok after =>
      refine ⟨2, finished none, ?_, trivial⟩
      simp only [System.runAlone, bookingSystem, next, paid]
      rfl
  | error error =>
      refine ⟨2, failed error, ?_, rfl⟩
      simp only [System.runAlone, bookingSystem, next, paid]
      rfl

/-- A creation, run alone, is the handler's. -/
theorem computes_create (userId : Nat) (dto : CreateBookingDto) :
    Computes zone environment (createHasRole userId dto)
      (BookingsHandler.create zone environment userId dto) := by
  have sequence : BookingsHandler.create zone environment userId dto = (do
      Fallible.reads fun backend => BookingsHandler.checkRole backend userId
      let listing ← Fallible.reads fun backend => do
        let listing ← backend.findByIdWithCache environment dto.listingId
        BookingsService.checkListing userId listing
        BookingsService.checkWholeMinute zone dto.startDate
        return listing
      Fallible.reads fun _ => BookingsService.validateWithinSlots
        environment.now (BookingsService.requestedPeriod zone dto.startDate
          dto.pricePeriod dto.periodsCount) listing.availability
      let pricing ← Fallible.reads fun backend => do
        BookingsService.validateNoOverlap backend
          (BookingsService.requestedPeriod zone dto.startDate dto.pricePeriod
            dto.periodsCount) listing.id none
        BookingsService.selectPricing listing dto.pricePeriod
      let bookingId ← BookingsService.insert
        (BookingsService.draftBooking zone userId dto listing pricing)
      let loaded ← BookingsService.findById bookingId
      tryCatch
        (WalletsService.transact environment
          (WalletsService.processBookingPayment userId loaded.booking.id
            loaded.booking.totalPrice))
        fun error => do
          BookingsService.delete loaded.booking.id
          throw error
      BookingsHandler.emit environment (.created loaded)
      return loaded) := by
    simp only [BookingsHandler.create, BookingsService.create,
      BookingsService.validateBookingDates, Fallible.lift, ← reads_bind,
      bind_assoc]
    rfl
  rw [sequence]
  have hasRole : Performs zone environment (createHasRole userId dto)
      (Fallible.reads fun backend => BookingsHandler.checkRole backend userId)
      fun _ => createFindListing userId dto :=
    performs_reads fun _ => rfl
  refine hasRole.computes_bind fun _ _ _ _ => ?_
  have findsListing : Performs zone environment (createFindListing userId dto)
      _ (createContained userId dto) := performs_reads fun _ => rfl
  refine findsListing.computes_bind fun listing _ _ _ => ?_
  have contains : Performs zone environment
      (createContained userId dto listing) _
      fun _ => createExists userId dto listing := performs_reads fun _ => rfl
  refine contains.computes_bind fun _ _ _ _ => ?_
  have excludes : Performs zone environment (createExists userId dto listing)
      _ fun pricing => createSave
        (BookingsService.draftBooking zone userId dto listing pricing) :=
    performs_reads fun _ => rfl
  refine excludes.computes_bind fun pricing _ _ _ => ?_
  have inserts : Performs zone environment
      (createSave (BookingsService.draftBooking zone userId dto listing pricing))
      (BookingsService.insert
        (BookingsService.draftBooking zone userId dto listing pricing))
      (createReload userId) := by
    intro backend
    simp only [bookingSystem, next, proceedIn, BookingsService.insert,
      run_updates]
    cases backend.insertBooking
      (BookingsService.draftBooking zone userId dto listing pricing) <;> rfl
  refine inserts.computes_bind fun bookingId _ _ _ => ?_
  have reloads : Performs zone environment (createReload userId bookingId)
      (BookingsService.findById bookingId) (createPay userId) :=
    performs_reads fun _ => rfl
  exact reloads.computes_bind fun loaded _ _ _ =>
    computes_createPay userId loaded

end Call

end SpareSpace
