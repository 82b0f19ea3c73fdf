import SpareSpace.CompletionRetries
import SpareSpace.NotificationsService
import SpareSpace.ReviewCaches

/-!
# From an operation to the notifications of its addressees

The services put objects on a bus that nobody types.  The listener takes the user
of a notification from the field `userId`; the bookings name it so, the reviews
name it `targetUserId`.  So every operation on a booking reaches the store of
notifications, and no review does.
-/

namespace SpareSpace

open Fallible

/-- Whom a notification is for, its type and what it refers to. -/
abbrev Addressee := Nat × SignalType × Option Nat

def Notification.addressee (notification : Notification) : Addressee :=
  (notification.userId, notification.type, notification.referenceId)

/-- The object that the listener and the jobs of bookings emit. -/
def NotificationSignal.object (signal : NotificationSignal) : BusObject where
  type := .booking signal.type
  fields := [("userId", signal.userId), ("referenceId", signal.referenceId)]

/-- The object that the creation of a review emits. -/
def ReviewSignal.object (signal : ReviewSignal) : BusObject where
  type := .reviewNew
  fields := [("targetUserId", signal.targetUserId), ("referenceId", signal.reviewId)]

namespace NotificationsListenerService

/-- Objects of the bus are handled one by one, each with what its calls answer. -/
def deliver (store : NotificationStore) (handled : List (ListenerAnswers × BusObject)) :
    NotificationStore :=
  handled.foldl
    (fun store arrival =>
      (run (handleNotificationSignal arrival.1 arrival.2) store).2) store

/-- The notification that an object stores, if any. -/
def stored (data : BusObject) : Option Addressee :=
  (data.field "userId").map fun userId =>
    (userId, data.type, data.field "referenceId")

/-- After the notification is stored nothing touches it, whatever fails. -/
theorem notifications_handle (answers : ListenerAnswers) (data : BusObject)
    (store : NotificationStore) :
    (run (handleNotificationSignal answers data) store).2.notifications.rows.map
        Notification.addressee =
      store.notifications.rows.map Notification.addressee ++ (stored data).toList := by
  have kept : (run (handleNotificationSignal answers data) store).2.notifications =
      (run (NotificationsService.create (data.field "userId") data.type
        (data.field "referenceId")) store).2.notifications := by
    unfold handleNotificationSignal
    rw [run_tryCatch, run_bind]
    cases run (NotificationsService.create (data.field "userId") data.type
        (data.field "referenceId")) store with
    | mk result created =>
        cases result with
        | error error => rfl
        | ok notification =>
            obtain ⟨isOnline, createDelivery, add⟩ := answers
            cases isOnline with
            | none => rfl
            | some online =>
                cases online <;> cases createDelivery <;> cases add <;> rfl
  rw [kept]
  unfold stored NotificationsService.create
  rw [run_updates]
  cases data.field "userId" with
  | none => exact (List.append_nil _).symm
  | some userId => exact List.map_append

theorem notifications_deliver (handled : List (ListenerAnswers × BusObject))
    (store : NotificationStore) :
    (deliver store handled).notifications.rows.map Notification.addressee =
      store.notifications.rows.map Notification.addressee ++
        (handled.map Prod.snd).filterMap stored := by
  induction handled generalizing store with
  | nil => exact (List.append_nil _).symm
  | cons arrival rest ih =>
      change (deliver (run (handleNotificationSignal arrival.1 arrival.2)
        store).2 rest).notifications.rows.map Notification.addressee = _
      rw [ih, notifications_handle, List.append_assoc]
      cases found : stored arrival.2 with
      | none => simp [found]
      | some addressee => simp [found]

end NotificationsListenerService

/-- The user an event of a booking is for, and the type of its notification. -/
def BookingEvent.addressee : BookingEvent → Addressee
  | .created loaded =>
      (loaded.listing.userId, .booking .bookingNew, some loaded.booking.id)
  | .periodUpdated loaded _ =>
      (loaded.listing.userId, .booking .bookingPeriodUpdated, some loaded.booking.id)
  | .confirmed loaded =>
      (loaded.booking.renterId, .booking .bookingConfirmed, some loaded.booking.id)
  | .cancelled loaded =>
      (loaded.listing.userId, .booking .bookingCancelled, some loaded.booking.id)
  | .rejected loaded =>
      (loaded.booking.renterId, .booking .bookingRejected, some loaded.booking.id)

/-- What the notifications of the new signals are. -/
def Backend.announced (before after : Backend) : List BusObject :=
  (after.signals.drop before.signals.length).map NotificationSignal.object

section Bookings

variable {zone : Zone} {environment : Environment} {backend after : Backend}
  {userId bookingId : Nat}

theorem announced_handle {paid : Backend} (same : paid.signals = backend.signals)
    (event : BookingEvent) :
    (backend.announced (BookingsListener.handle environment paid event)).map
      NotificationsListenerService.stored = [some event.addressee] := by
  unfold Backend.announced
  rw [← same]
  cases event with
  | created loaded => exact congrArg (List.map _ ∘ List.map _) List.drop_left
  | periodUpdated loaded prevPeriod =>
      exact congrArg (List.map _ ∘ List.map _) List.drop_left
  | confirmed loaded => exact congrArg (List.map _ ∘ List.map _) List.drop_left
  | cancelled loaded => exact congrArg (List.map _ ∘ List.map _) List.drop_left
  | rejected loaded => exact congrArg (List.map _ ∘ List.map _) List.drop_left

theorem signals_transact {aborts : Bool} {operation : WalletOperation}
    (paid : backend.transact aborts operation = .ok after) :
    after.signals = backend.signals := by
  obtain ⟨_, _, known, rfl⟩ := Backend.transact_ok_iff.mp paid
  rfl

theorem signals_transactIfAny {operation : Option WalletOperation}
    (settled : BookingsHandler.transactIfAny environment backend operation =
      .ok after) : after.signals = backend.signals := by
  cases operation with
  | none =>
      obtain rfl := Except.ok.inj settled
      rfl
  | some operation => exact signals_transact settled

/-- Whom a successful request is to be announced to: the owner of the listing, or
the renter of a booking that is confirmed or rejected. -/
def BookingRequest.addressee (loaded : LoadedBooking) : BookingRequest → Addressee
  | create _ =>
      (loaded.listing.userId, .booking .bookingNew, some loaded.booking.id)
  | updatePeriod _ _ =>
      (loaded.listing.userId, .booking .bookingPeriodUpdated, some loaded.booking.id)
  | resolve .cancel _ =>
      (loaded.listing.userId, .booking .bookingCancelled, some loaded.booking.id)
  | resolve .confirm _ =>
      (loaded.booking.renterId, .booking .bookingConfirmed, some loaded.booking.id)
  | resolve .reject _ =>
      (loaded.booking.renterId, .booking .bookingRejected, some loaded.booking.id)

/-- A successful request ends with the event that is for its addressee. -/
theorem event_of_request {request : BookingRequest} {loaded : LoadedBooking}
    (ran : run (request.handle zone environment userId) backend =
      (.ok loaded, after)) :
    ∃ paid event, paid.signals = backend.signals ∧
      after = BookingsListener.handle environment paid event ∧
      event.addressee = request.addressee loaded := by
  have resolves (resolution : Resolution) (bookingId : Nat)
      (ran : run (BookingsHandler.resolve resolution environment userId bookingId)
        backend = (.ok loaded, after)) :
      ∃ paid, paid.signals = backend.signals ∧
        after = BookingsListener.handle environment paid
          (resolution.event loaded) := by
    rcases BookingsHandler.resolve_cases environment backend userId bookingId
      resolution with ⟨error, _, failed⟩ | ⟨found, known, _, settles⟩
    · rw [failed] at ran
      cases ran
    · rw [settles] at ran
      split at ran
      · next paid settled =>
          obtain ⟨same, rfl⟩ := Prod.mk.inj ran
          obtain rfl := Except.ok.inj same
          exact ⟨paid, (signals_transactIfAny settled).trans rfl, rfl⟩
      · cases ran
  cases request with
  | create createDto =>
      rcases BookingsHandler.create_cases zone environment backend userId createDto
        with ⟨error, failed⟩ | ⟨draft, known, created, _, _, pays⟩
      · rw [BookingRequest.handle, failed] at ran
        cases ran
      · rw [BookingRequest.handle, pays] at ran
        split at ran
        · next paid settled =>
            obtain ⟨same, rfl⟩ := Prod.mk.inj ran
            obtain rfl := Except.ok.inj same
            exact ⟨paid, _, (signals_transact settled).trans rfl, rfl, rfl⟩
        · cases ran
  | updatePeriod bookingId updateDto =>
      rcases BookingsHandler.updatePeriod_cases zone environment backend userId
        bookingId updateDto with ⟨error, _, failed⟩ | ⟨found, updated, known, _, settles⟩
      · rw [BookingRequest.handle, failed] at ran
        cases ran
      · rw [BookingRequest.handle, settles] at ran
        split at ran
        · next paid settled =>
            obtain ⟨same, rfl⟩ := Prod.mk.inj ran
            obtain rfl := Except.ok.inj same
            exact ⟨paid, _, (signals_transactIfAny settled).trans rfl, rfl, rfl⟩
        · cases ran
  | resolve resolution bookingId =>
      cases resolution with
      | cancel =>
          obtain ⟨paid, same, rfl⟩ := resolves .cancel bookingId ran
          exact ⟨paid, _, same, rfl, rfl⟩
      | confirm =>
          obtain ⟨paid, same, rfl⟩ := resolves .confirm bookingId ran
          exact ⟨paid, _, same, rfl, rfl⟩
      | reject =>
          obtain ⟨paid, same, rfl⟩ := resolves .reject bookingId ran
          exact ⟨paid, _, same, rfl, rfl⟩

theorem ok_of_unlessFails {α : Type} {fails : Bool} {call : Service α} {value : α}
    (ran : run (unlessFails fails call) backend = (.ok value, after)) :
    run call backend = (.ok value, after) := by
  cases fails with
  | false => exact ran
  | true => cases ran

/-- An attempt that completes the booking and returns signals the renter and the
owner. -/
theorem announced_completion {faults : CompletionFaults} {loaded : LoadedBooking}
    (found : backend.findById bookingId = .ok loaded)
    (due : BookingCompletionProcessor.Due environment loaded)
    (ran : run (BookingCompletionProcessor.process environment faults bookingId)
      backend = (.ok (), after)) :
    backend.announced after =
      [NotificationSignal.object ⟨loaded.booking.renterId, .bookingCompleted,
        loaded.booking.id, loaded.booking.listingId, loaded.booking.period,
        loaded.booking.totalPrice, none⟩,
      NotificationSignal.object ⟨loaded.listing.userId, .bookingCompleted,
        loaded.booking.id, loaded.booking.listingId, loaded.booking.period,
        loaded.booking.totalPrice, none⟩] := by
  unfold BookingCompletionProcessor.process at ran
  obtain ⟨reads, middle, finds, ran⟩ := bind_ok ran
  have finds := ok_of_unlessFails finds
  rw [BookingsService.run_findById, found] at finds
  obtain ⟨same, rfl⟩ := Prod.mk.inj finds
  obtain rfl := Except.ok.inj same
  rw [if_neg (not_not.mpr due.1), if_neg (not_lt.mpr due.2)] at ran
  obtain ⟨_, saved, updates, ran⟩ := bind_ok ran
  have updates := ok_of_unlessFails updates
  have savedSignals : saved.signals = backend.signals := by
    rcases BookingsService.run_updateStatus backend bookingId .completed with
      ⟨error, _, failed⟩ | ⟨_, known, _, updated⟩
    · rw [failed] at updates
      cases updates
    · rw [updated] at updates
      obtain ⟨_, rfl⟩ := Prod.mk.inj updates
      rfl
  obtain ⟨_, paid, pays, ran⟩ := bind_ok ran
  have pays := ok_of_unlessFails pays
  have paidSignals : paid.signals = backend.signals := by
    unfold WalletsService.transact at pays
    rw [run_updates] at pays
    cases made : saved.transact environment.walletAborts
        (WalletsService.processBookingPayout loaded.listing.userId
          loaded.booking.id loaded.booking.totalPrice) with
    | error error =>
        rw [made] at pays
        cases pays
    | ok settled =>
        rw [made] at pays
        obtain ⟨_, rfl⟩ := Prod.mk.inj pays
        exact (signals_transact made).trans savedSignals
  obtain ⟨_, told, tellsRenter, tellsOwner⟩ := bind_ok ran
  have toRenter : paid.signal loaded.booking.renterId .bookingCompleted
      loaded.booking none = told :=
    congrArg Prod.snd (ok_of_unlessFails tellsRenter)
  have toOwner : told.signal loaded.listing.userId .bookingCompleted
      loaded.booking none = after :=
    congrArg Prod.snd (ok_of_unlessFails tellsOwner)
  rw [← toOwner, ← toRenter]
  unfold Backend.announced Backend.signal
  rw [← paidSignals, List.append_assoc, List.drop_left]
  rfl

end Bookings

/-- What a call on reviews has put on the bus. -/
def ReviewStore.announced (before after : ReviewStore) : List BusObject :=
  (after.signals.drop before.signals.length).map ReviewSignal.object

/-- The user a review of a booking by a reviewer is about. -/
def reviewed (booking : LoadedBooking) (reviewerId : Nat) : Nat :=
  if reviewerId = booking.booking.renterId then
    booking.listing.userId
  else
    booking.booking.renterId

section Reviews

open ReviewsService

variable {store after : ReviewStore} {environment : ReviewEnvironment}
  {reviewerId : Nat} {dto : CreateReviewDto} {booking : LoadedBooking}
  {review : LoadedReview}

theorem signals_updateRatingForUser {userId : Nat} {isReviewForLandlord : Bool}
    (known : (store.accounts.find? userId).isSome)
    (rates : run (updateRatingForUser environment userId isReviewForLandlord) store =
      (.ok (), after)) : after.signals = store.signals := by
  obtain ⟨user, found⟩ := Option.isSome_iff_exists.mp known
  rcases updateRatingForUser_cases environment found isReviewForLandlord rfl with
    ⟨_, ran⟩ | ⟨account, _, ran, _⟩
  · obtain ⟨_, rfl⟩ := Prod.mk.inj (rates.symm.trans ran)
    rfl
  · obtain ⟨_, rfl⟩ := Prod.mk.inj (rates.symm.trans ran)
    rfl

/-- A review is announced to nobody's `userId`. -/
theorem announced_review (found : store.backend.findById dto.bookingId = .ok booking)
    (ran : run (create environment reviewerId dto) store = (.ok review, after)) :
    store.announced after =
      [ReviewSignal.object (newReviewSignal (reviewed booking reviewerId) review)] := by
  rcases create_steps environment store reviewerId dto with
    ⟨error, failed⟩ | ⟨checked, known, rated, passed, rates, _, publishes⟩
  · rw [failed] at ran
    cases ran
  · have sameBooking := (checkReviewable_ok passed).1
    rw [found] at sameBooking
    obtain rfl := Except.ok.inj sameBooking
    have stored := targetUser_stored found (reviewerId == booking.booking.renterId)
    have ratedSignals : rated.signals = store.signals :=
      @signals_updateRatingForUser (store.withReview _ _ known) rated environment
        _ _ stored rates
    have target : targetUser (reviewerId == booking.booking.renterId) booking =
        reviewed booking reviewerId := by
      simp [targetUser, reviewed]
    rw [target] at publishes
    obtain ⟨same, rfl⟩ :=
      Prod.mk.inj (ran.symm.trans (publishes.trans (run_publish _ _ _ _)))
    obtain rfl := Except.ok.inj same
    unfold ReviewStore.announced
    rw [signals_published, ratedSignals, List.drop_left]
    rfl

end Reviews

inductive DomainOperation
  | booking (request : BookingRequest)
  | completion (bookingId : Nat)
  | review (dto : CreateReviewDto)

/-- The operation creates a review. -/
def DomainOperation.createsReview : DomainOperation → Prop
  | booking _ | completion _ => False
  | review _ => True

/-- An operation succeeds, puts objects on the bus, and is to be announced to some
addressees. -/
inductive Succeeds : DomainOperation → List BusObject → List Addressee → Prop
  | booking {zone environment userId request backend after loaded}
      (ran : run (BookingRequest.handle zone environment userId request) backend =
        (.ok loaded, after)) :
      Succeeds (.booking request) (backend.announced after)
        [request.addressee loaded]
  | completion {environment faults bookingId backend after loaded}
      (found : backend.findById bookingId = .ok loaded)
      (due : BookingCompletionProcessor.Due environment loaded)
      (ran : run (BookingCompletionProcessor.process environment faults bookingId)
        backend = (.ok (), after)) :
      Succeeds (.completion bookingId) (backend.announced after)
        [(loaded.booking.renterId, .booking .bookingCompleted,
            some loaded.booking.id),
          (loaded.listing.userId, .booking .bookingCompleted,
            some loaded.booking.id)]
  | review {environment reviewerId dto store after booking review}
      (found : store.backend.findById dto.bookingId = .ok booking)
      (ran : run (ReviewsService.create environment reviewerId dto) store =
        (.ok review, after)) :
      Succeeds (.review dto) (store.announced after)
        [(reviewed booking reviewerId, .reviewNew, some review.review.id)]

/-- Whatever the calls of the listener answer, the objects add a notification for
each addressee to the store, and no other. -/
def Reaches (emitted : List BusObject) (addressees : List Addressee) : Prop :=
  ∀ handled : List (ListenerAnswers × BusObject), handled.map Prod.snd = emitted →
    ∀ store, (NotificationsListenerService.deliver store
        handled).notifications.rows.map Notification.addressee =
      store.notifications.rows.map Notification.addressee ++ addressees

theorem reaches_of_stored {emitted : List BusObject} {addressees : List Addressee}
    (stores : emitted.map NotificationsListenerService.stored =
      addressees.map some) : Reaches emitted addressees := by
  have collected : emitted.filterMap NotificationsListenerService.stored =
      addressees := by
    calc emitted.filterMap NotificationsListenerService.stored
        = (emitted.map NotificationsListenerService.stored).filterMap id := by
          rw [List.filterMap_map]
          rfl
      _ = (addressees.map some).filterMap id := by rw [stores]
      _ = addressees := by
          rw [List.filterMap_map]
          exact List.filterMap_some
  intro handled same store
  rw [NotificationsListenerService.notifications_deliver, same, collected]

/-- The notifications of a new server. -/
def newNotifications : NotificationStore where
  notifications := KeyedTable.empty
  deliveries := KeyedTable.empty
  sent := []
  queue := []
  deletedTokens := []

/-- A successful operation stores a notification for each of its addressees if and
only if it does not create a review. -/
theorem reaches_iff_not_review {operation : DomainOperation}
    {emitted : List BusObject} {addressees : List Addressee}
    (succeeds : Succeeds operation emitted addressees) :
    Reaches emitted addressees ↔ ¬ operation.createsReview := by
  cases succeeds with
  | booking ran =>
      obtain ⟨paid, event, same, rfl, addressee⟩ := event_of_request ran
      refine iff_of_true (reaches_of_stored ?_) id
      rw [announced_handle same, addressee]
      rfl
  | completion found due ran =>
      refine iff_of_true (reaches_of_stored ?_) id
      rw [announced_completion found due ran]
      rfl
  | @review environment reviewerId dto store after booking review found ran =>
      refine iff_of_false (fun reaches => ?_) (not_not.mpr trivial)
      rw [announced_review found ran] at reaches
      -- The listener finds no `userId` in the object.
      have stays := reaches [(⟨none, false, false⟩, _)] rfl newNotifications
      rw [NotificationsListenerService.notifications_deliver] at stays
      cases stays

/-- The owner confirms a booking of user 2. -/
theorem reaches_iff_not_review_sample :
    ∃ loaded after, run (BookingRequest.handle .utc (.at 0) 1 (.resolve .confirm 1))
        Backend.sampleBooked = (.ok loaded, after) ∧
      loaded.booking.renterId = 2 ∧
      Reaches (Backend.sampleBooked.announced after)
        [(loaded.booking.renterId, .booking .bookingConfirmed,
          some loaded.booking.id)] := by
  obtain ⟨loaded, after, ran, renter⟩ : ∃ loaded after,
      run (BookingRequest.handle .utc (.at 0) 1 (.resolve .confirm 1))
        Backend.sampleBooked = (.ok loaded, after) ∧ loaded.booking.renterId = 2 :=
    ⟨_, _, rfl, rfl⟩
  exact ⟨loaded, after, ran, renter,
    (reaches_iff_not_review (.booking ran)).mpr id⟩

/-- The renter reviews the owner, who gets no notification. -/
theorem review_reaches_nobody :
    ∃ review after, run (ReviewsService.create (reviewsEnvironment 0) 2 fiveStars)
        reviewsStart = (.ok review, after) ∧
      ¬ Reaches (reviewsStart.announced after) [(1, .reviewNew, some 1)] := by
  refine ⟨_, _, rfl, fun reaches => ?_⟩
  have stays := reaches [(⟨some true, false, false⟩,
    ReviewSignal.object ⟨1, 1, 1, 1, 5⟩)] rfl newNotifications
  exact absurd stays (by decide)

end SpareSpace
