import SpareSpace.BookingCalls

/-!
# What one step of a booking call does

One case for each way a call can take its next step, with the facts the step
has established, and from it what a step does to the bookings table.
-/

namespace SpareSpace

open InterleavedCalls

/-- Every successful step of a call, and one case for all failing steps that
write nothing. -/
inductive Call.Steps (zone : Zone) (environment : Environment)
    (backend : Backend) : Call → Backend → Call → Prop
  | fails {call : Call} {error : HttpException} :
      Steps zone environment backend call backend (failed error)
  | createHasRole {userId : Nat} {dto : CreateBookingDto} :
      Steps zone environment backend (createHasRole userId dto) backend
        (createFindListing userId dto)
  | createFindListing {userId : Nat} {dto : CreateBookingDto} {listing : Listing} :
      Steps zone environment backend (createFindListing userId dto) backend
        (createContained userId dto listing)
  | createContained {userId : Nat} {dto : CreateBookingDto} {listing : Listing} :
      Steps zone environment backend (createContained userId dto listing)
        backend (createExists userId dto listing)
  | createExists {userId : Nat} {dto : CreateBookingDto} {listing : Listing}
      {pricing : ListingPricing}
      (free : BookingsService.validateNoOverlap backend
        (BookingsService.requestedPeriod zone dto.startDate dto.pricePeriod
          dto.periodsCount) listing.id none = .ok ()) :
      Steps zone environment backend (createExists userId dto listing) backend
        (createSave
          (BookingsService.draftBooking zone userId dto listing pricing))
  | createSave {draft : BookingDraft} (known) :
      Steps zone environment backend (createSave draft)
        (backend.withInserted draft known)
        (createReload draft.renterId backend.bookings.nextId)
  | createReload {userId bookingId : Nat} {loaded : LoadedBooking}
      (found : backend.findById bookingId = .ok loaded) :
      Steps zone environment backend (createReload userId bookingId) backend
        (createPay userId loaded)
  | createPay {userId : Nat} {loaded : LoadedBooking} {after : Backend}
      (paid : backend.transact environment.walletAborts
        (WalletsService.processBookingPayment userId loaded.booking.id
          loaded.booking.totalPrice) = .ok after) :
      Steps zone environment backend (createPay userId loaded) after
        (createAnnounce loaded)
  | createPayFails {userId : Nat} {loaded : LoadedBooking} {error : HttpException} :
      Steps zone environment backend (createPay userId loaded) backend
        (createDelete loaded error)
  | createDelete {loaded : LoadedBooking} {error : HttpException} :
      Steps zone environment backend (createDelete loaded error)
        (backend.removeBooking loaded.booking.id) (failed error)
  | createAnnounce {loaded : LoadedBooking} :
      Steps zone environment backend (createAnnounce loaded)
        (BookingsListener.handle environment backend (.created loaded))
        (finished none)
  | updateGuard {userId bookingId : Nat} {dto : UpdateBookingPeriodDto}
      {guard : LoadedBooking} (found : backend.findById bookingId = .ok guard)
      (guarded : BookingsHandler.guardUpdate userId guard = .ok ()) :
      Steps zone environment backend (updateGuard userId bookingId dto) backend
        (updateFind userId guard dto)
  | updateFind {userId : Nat} {guard loaded : LoadedBooking}
      {dto : UpdateBookingPeriodDto} {booking : Booking}
      (found : backend.findById guard.booking.id = .ok loaded)
      (tariff : BookingsService.changeTariff loaded dto.pricePeriod =
        .ok booking) :
      Steps zone environment backend (updateFind userId guard dto) backend
        (updateContained userId guard loaded
          (BookingsService.changePeriod zone dto booking))
  | updateContained {userId : Nat} {guard loaded : LoadedBooking}
      {updated : Booking} :
      Steps zone environment backend
        (updateContained userId guard loaded updated) backend
        (updateExists userId guard loaded updated)
  | updateExists {userId : Nat} {guard loaded : LoadedBooking}
      {updated : Booking}
      (free : BookingsService.validateNoOverlap backend updated.period
        loaded.listing.id (some guard.booking.id) = .ok ()) :
      Steps zone environment backend (updateExists userId guard loaded updated)
        backend (updateSave userId guard loaded updated)
  | updateSave {userId : Nat} {guard loaded : LoadedBooking}
      {updated : Booking} (known) :
      Steps zone environment backend (updateSave userId guard loaded updated)
        (backend.withSaved updated known)
        (updateSettle userId guard ⟨updated, loaded.listing⟩)
  | updateSettle {userId : Nat} {guard updated : LoadedBooking}
      {after : Backend}
      (settled : BookingsHandler.transactIfAny environment backend
        (BookingsHandler.settlement userId guard.booking.id
          (priceDiff guard updated) (residue guard updated)) = .ok after) :
      Steps zone environment backend (updateSettle userId guard updated) after
        (updateAnnounce guard updated)
  | updateAnnounce {guard updated : LoadedBooking} :
      Steps zone environment backend (updateAnnounce guard updated)
        (BookingsListener.handle environment backend
          (.periodUpdated updated guard.booking.period)) (finished none)
  | changeGuardSkips {change : StatusChange} {bookingId : Nat} :
      Steps zone environment backend (changeGuard change bookingId) backend
        (finished none)
  | changeGuard {change : StatusChange} {bookingId : Nat}
      {guard : LoadedBooking} (found : backend.findById bookingId = .ok guard)
      (admitted : change.admits environment.now guard = .ok true) :
      Steps zone environment backend (changeGuard change bookingId) backend
        (changeFind change guard)
  | changeFind {change : StatusChange} {guard loaded : LoadedBooking}
      (found : backend.findById guard.booking.id = .ok loaded) :
      Steps zone environment backend (changeFind change guard) backend
        (changeSave change guard loaded)
  | changeSave {change : StatusChange} {guard loaded : LoadedBooking} (known) :
      Steps zone environment backend (changeSave change guard loaded)
        (backend.withSaved (loaded.withStatus change.newStatus).booking known)
        (changeSettle change guard (loaded.withStatus change.newStatus))
  | changeSettle {change : StatusChange} {guard saved : LoadedBooking}
      {after : Backend}
      (settled : BookingsHandler.transactIfAny environment backend
        (change.operation guard saved) = .ok after) :
      Steps zone environment backend (changeSettle change guard saved) after
        (changeAnnounce change guard saved)
  | changeAnnounce {change : StatusChange} {guard saved : LoadedBooking} :
      Steps zone environment backend (changeAnnounce change guard saved)
        (change.conclude environment guard saved backend)
        (finished (some (change, guard.booking.id)))
  | editListing {listing : Listing} :
      Steps zone environment backend (editListing listing)
        (backend.saveListing listing) (finished none)
  | deposit {userId : Nat} {amount : Int} {after : Backend}
      (paid : backend.transact environment.walletAborts
        (WalletsService.deposit userId amount) = .ok after) :
      Steps zone environment backend (deposit userId amount) after
        (finished none)
  | withdraw {userId : Nat} {amount : Int} {after : Backend}
      (paid : backend.transact environment.walletAborts
        (WalletsService.withdraw userId amount) = .ok after) :
      Steps zone environment backend (withdraw userId amount) after
        (finished none)

namespace Call

variable {zone : Zone} {environment : Environment} {backend after : Backend}
  {call moved : Call}

private theorem proceed_cases {α : Type} {result : Except HttpException α}
    {rest : α → Call}
    (moves : proceed backend result rest = some (after, moved)) :
    (∃ error, after = backend ∧ moved = failed error) ∨
      ∃ value, result = .ok value ∧ after = backend ∧ moved = rest value := by
  cases result with
  | error error =>
      obtain ⟨rfl, rfl⟩ := Prod.mk.inj (Option.some.inj moves)
      exact Or.inl ⟨error, rfl, rfl⟩
  | ok value =>
      obtain ⟨rfl, rfl⟩ := Prod.mk.inj (Option.some.inj moves)
      exact Or.inr ⟨value, rfl, rfl, rfl⟩

private theorem proceedIn_cases {result : Except HttpException Backend}
    {rest : Call}
    (moves : proceedIn backend result rest = some (after, moved)) :
    (∃ error, after = backend ∧ moved = failed error) ∨
      (result = .ok after ∧ moved = rest) := by
  cases result with
  | error error =>
      obtain ⟨rfl, rfl⟩ := Prod.mk.inj (Option.some.inj moves)
      exact Or.inl ⟨error, rfl, rfl⟩
  | ok value =>
      obtain ⟨rfl, rfl⟩ := Prod.mk.inj (Option.some.inj moves)
      exact Or.inr ⟨rfl, rfl⟩

private theorem bind_ok {α β : Type} {first : Except HttpException α}
    {rest : α → Except HttpException β} {result : β}
    (returned : first >>= rest = .ok result) :
    ∃ value, first = .ok value ∧ rest value = .ok result := by
  cases first with
  | error error => contradiction
  | ok value => exact ⟨value, rfl, returned⟩

/-- A step that is taken is one of the listed steps. -/
theorem steps_of_next
    (moves : call.next zone environment backend = some (after, moved)) :
    Steps zone environment backend call after moved := by
  cases call with
  | createHasRole userId dto =>
      rcases proceed_cases moves with ⟨_, rfl, rfl⟩ | ⟨_, _, rfl, rfl⟩
      · exact .fails
      · exact .createHasRole
  | createFindListing userId dto =>
      rcases proceed_cases moves with ⟨_, rfl, rfl⟩ | ⟨_, _, rfl, rfl⟩
      · exact .fails
      · exact .createFindListing
  | createContained userId dto listing =>
      rcases proceed_cases moves with ⟨_, rfl, rfl⟩ | ⟨_, _, rfl, rfl⟩
      · exact .fails
      · exact .createContained
  | createExists userId dto listing =>
      rcases proceed_cases moves with ⟨_, rfl, rfl⟩ | ⟨pricing, checked, rfl, rfl⟩
      · exact .fails
      · obtain ⟨_, free, _⟩ := bind_ok checked
        exact .createExists free
  | createSave draft =>
      rcases proceedIn_cases moves with ⟨_, rfl, rfl⟩ | ⟨inserted, rfl⟩
      · exact .fails
      · obtain ⟨known, rfl⟩ := Backend.insertBooking_ok inserted
        exact .createSave known
  | createReload userId bookingId =>
      rcases proceed_cases moves with ⟨_, rfl, rfl⟩ | ⟨_, found, rfl, rfl⟩
      · exact .fails
      · exact .createReload found
  | createPay userId loaded =>
      simp only [next] at moves
      split at moves
      · obtain ⟨rfl, rfl⟩ := Prod.mk.inj (Option.some.inj moves)
        exact .createPayFails
      · next paid =>
          obtain ⟨rfl, rfl⟩ := Prod.mk.inj (Option.some.inj moves)
          exact .createPay paid
  | createDelete loaded error =>
      obtain ⟨rfl, rfl⟩ := Prod.mk.inj (Option.some.inj moves)
      exact .createDelete
  | createAnnounce loaded =>
      obtain ⟨rfl, rfl⟩ := Prod.mk.inj (Option.some.inj moves)
      exact .createAnnounce
  | updateGuard userId bookingId dto =>
      rcases proceed_cases moves with ⟨_, rfl, rfl⟩ | ⟨guard, checked, rfl, rfl⟩
      · exact .fails
      · obtain ⟨loaded, found, guarded⟩ := bind_ok checked
        obtain ⟨_, passed, rest⟩ := bind_ok guarded
        obtain ⟨_, _, same⟩ := bind_ok rest
        obtain rfl := Except.ok.inj same
        exact .updateGuard found passed
  | updateFind userId guard dto =>
      rcases proceed_cases moves with ⟨_, rfl, rfl⟩ | ⟨pair, checked, rfl, rfl⟩
      · exact .fails
      · obtain ⟨loaded, found, changed⟩ := bind_ok checked
        obtain ⟨booking, tariff, same⟩ := bind_ok changed
        obtain rfl := Except.ok.inj same
        exact .updateFind found tariff
  | updateContained userId guard loaded updated =>
      rcases proceed_cases moves with ⟨_, rfl, rfl⟩ | ⟨_, _, rfl, rfl⟩
      · exact .fails
      · exact .updateContained
  | updateExists userId guard loaded updated =>
      rcases proceed_cases moves with ⟨_, rfl, rfl⟩ | ⟨_, free, rfl, rfl⟩
      · exact .fails
      · exact .updateExists free
  | updateSave userId guard loaded updated =>
      rcases proceedIn_cases moves with ⟨_, rfl, rfl⟩ | ⟨saved, rfl⟩
      · exact .fails
      · obtain ⟨known, rfl⟩ := Backend.saveBooking_ok saved
        exact .updateSave known
  | updateSettle userId guard updated =>
      rcases proceedIn_cases moves with ⟨_, rfl, rfl⟩ | ⟨settled, rfl⟩
      · exact .fails
      · exact .updateSettle settled
  | updateAnnounce guard updated =>
      obtain ⟨rfl, rfl⟩ := Prod.mk.inj (Option.some.inj moves)
      exact .updateAnnounce
  | changeGuard change bookingId =>
      simp only [next] at moves
      split at moves
      · obtain ⟨rfl, rfl⟩ := Prod.mk.inj (Option.some.inj moves)
        exact .fails
      · obtain ⟨rfl, rfl⟩ := Prod.mk.inj (Option.some.inj moves)
        exact .changeGuardSkips
      · next checked =>
          obtain ⟨rfl, rfl⟩ := Prod.mk.inj (Option.some.inj moves)
          obtain ⟨guard, found, rest⟩ := bind_ok checked
          obtain ⟨_, admitted, same⟩ := bind_ok rest
          obtain ⟨rfl, rfl⟩ := Prod.mk.inj (Except.ok.inj same)
          exact .changeGuard found admitted
  | changeFind change guard =>
      rcases proceed_cases moves with ⟨_, rfl, rfl⟩ | ⟨_, found, rfl, rfl⟩
      · exact .fails
      · exact .changeFind found
  | changeSave change guard loaded =>
      rcases proceedIn_cases moves with ⟨_, rfl, rfl⟩ | ⟨saved, rfl⟩
      · exact .fails
      · obtain ⟨known, rfl⟩ := Backend.saveBooking_ok saved
        exact .changeSave known
  | changeSettle change guard saved =>
      rcases proceedIn_cases moves with ⟨_, rfl, rfl⟩ | ⟨settled, rfl⟩
      · exact .fails
      · exact .changeSettle settled
  | changeAnnounce change guard saved =>
      obtain ⟨rfl, rfl⟩ := Prod.mk.inj (Option.some.inj moves)
      exact .changeAnnounce
  | editListing listing =>
      obtain ⟨rfl, rfl⟩ := Prod.mk.inj (Option.some.inj moves)
      exact .editListing
  | deposit userId amount =>
      rcases proceedIn_cases moves with ⟨_, rfl, rfl⟩ | ⟨paid, rfl⟩
      · exact .fails
      · exact .deposit paid
  | withdraw userId amount =>
      rcases proceedIn_cases moves with ⟨_, rfl, rfl⟩ | ⟨paid, rfl⟩
      · exact .fails
      · exact .withdraw paid
  | finished settled => contradiction
  | failed error => contradiction

/-- What a step of a call does to the bookings table. -/
inductive Writes (bookings : KeyedTable Booking Booking.id) :
    Call → KeyedTable Booking Booking.id → Prop
  | nothing {call : Call} : Writes bookings call bookings
  | insert {draft : BookingDraft} :
      Writes bookings (createSave draft)
        (bookings.insert draft.row draft.row_id)
  | remove {loaded : LoadedBooking} {error : HttpException} :
      Writes bookings (createDelete loaded error)
        (bookings.remove loaded.booking.id)
  | update {userId : Nat} {guard loaded : LoadedBooking} {updated : Booking} :
      Writes bookings (updateSave userId guard loaded updated)
        (bookings.save updated)
  | change {change : StatusChange} {guard loaded : LoadedBooking} :
      Writes bookings (changeSave change guard loaded)
        (bookings.save (loaded.withStatus change.newStatus).booking)

private theorem bookings_transact {aborts : Bool} {operation : WalletOperation}
    (paid : backend.transact aborts operation = .ok after) :
    after.bookings = backend.bookings := by
  obtain ⟨_, _, _, rfl⟩ := Backend.transact_ok_iff.mp paid
  rfl

/-- What follows a wallet transaction writes neither bookings nor ledger. -/
theorem conclude_frame (change : StatusChange) (guard saved : LoadedBooking) :
    (change.conclude environment guard saved backend).bookings =
        backend.bookings ∧
      (change.conclude environment guard saved backend).ledger =
        backend.ledger := by
  cases change with
  | resolve resolution userId => exact BookingsListener.handle_frame _
  | start => exact ⟨rfl, rfl⟩
  | complete => exact ⟨rfl, rfl⟩

theorem Steps.writes (steps : Steps zone environment backend call after moved) :
    Writes backend.bookings call after.bookings := by
  cases steps with
  | createSave known => exact .insert
  | createDelete => exact .remove
  | updateSave known => exact .update
  | changeSave known => exact .change
  | createPay paid => exact bookings_transact paid ▸ .nothing
  | createAnnounce => exact .nothing
  | updateSettle settled =>
      exact (BookingsHandler.transactIfAny_frame settled).1 ▸ .nothing
  | updateAnnounce => exact .nothing
  | changeSettle settled =>
      exact (BookingsHandler.transactIfAny_frame settled).1 ▸ .nothing
  | changeAnnounce => exact (conclude_frame _ _ _).1 ▸ .nothing
  | deposit paid => exact bookings_transact paid ▸ .nothing
  | withdraw paid => exact bookings_transact paid ▸ .nothing
  | _ => exact .nothing

end Call

end SpareSpace
