import SpareSpace.NotificationsService
import SpareSpace.PagedQueries
import SpareSpace.RelatedCalls

/-!
# The inbox of a user

What the listener stores is shown to its user in pages, and is marked as read when
the user says so, for some notifications or for all.  The jobs that send notifications leave
the inbox alone.  So the inbox is read off the requests: what a signal stored is there, and
is read if a later request of its user covered it.
-/

namespace SpareSpace

open Fallible PagedQueries ServiceTraces

structure SearchNotificationsDto where
  type : Option SignalType
  isRead : Option Bool
  limit : Nat
  offset : Nat
  deriving DecidableEq, Repr

namespace NotificationsService

/-- The condition of the list, where what is not given selects everything. -/
def selects (userId : Nat) (dto : SearchNotificationsDto) (notification : Notification) : Bool :=
  notification.userId == userId && dto.type.all (· == notification.type) &&
    dto.isRead.all (· == notification.isRead)

/-- The times of creation are an argument. -/
def findAll {createdAt : Notification → Int} (latestFirst : Descending createdAt)
    (userId : Nat) (dto : SearchNotificationsDto) :
    NotificationCall (List Notification × Nat) :=
  reads fun store => .ok (pageAndCount latestFirst
    (store.notifications.rows.filter (selects userId dto)) dto.limit dto.offset)

def findById (id userId : Nat) : NotificationCall Notification :=
  reads fun store =>
    match store.notifications.rows.find? fun row => row.id == id && row.userId == userId with
    | some notification => .ok notification
    | none => .error (.notFound "Notification not found")

/-- `notificationIds?.length`: no list and the empty list name all notifications. -/
def namedBy (notificationIds : Option (List Nat)) (id : Nat) : Bool :=
  match notificationIds with
  | none | some [] => true
  | some ids => ids.contains id

/-- The row after the update of the unread rows that are named. -/
def markedRow (userId : Nat) (notificationIds : Option (List Nat)) (row : Notification) :
    Notification :=
  if row.userId = userId ∧ row.isRead = false ∧ namedBy notificationIds row.id then
    { row with isRead := true }
  else
    row

theorem id_markedRow (userId : Nat) (notificationIds : Option (List Nat))
    (row : Notification) : (markedRow userId notificationIds row).id = row.id := by
  unfold markedRow
  split
  · rfl
  · rfl

def markAsRead (userId : Nat) (notificationIds : Option (List Nat)) : NotificationCall Unit :=
  updates fun store => .ok ((), { store with
    notifications := store.notifications.mapRows (markedRow userId notificationIds)
      (id_markedRow userId notificationIds) })

end NotificationsService

/-- How the database orders notifications created at one time is not determined. -/
structure InboxEnvironment where
  createdAt : Notification → Int
  latestFirst : Descending createdAt

/-- A signal on the bus, an attempt of a job, or a request of a user. -/
inductive InboxRequest
  | signal (answers : ListenerAnswers) (data : BusObject)
  | deliver (job : NotificationJob) (attempt : DeliveryAttempt)
  | findAll (userId : Nat) (dto : SearchNotificationsDto)
  | findById (userId id : Nat)
  | markAsRead (userId : Nat) (ids : Option (List Nat))

inductive InboxResponse
  | page (notifications : List Notification) (total : Nat)
  | notification (notification : Notification)
  | noContent

namespace InboxRequest

open NotificationsService

def call (environment : InboxEnvironment) : InboxRequest → NotificationCall InboxResponse
  | signal answers data => do
      NotificationsListenerService.handleNotificationSignal answers data
      return .noContent
  | deliver job attempt => do
      NotificationsProcessor.process job attempt
      return .noContent
  | findAll userId dto => do
      let (notifications, total) ← NotificationsService.findAll environment.latestFirst userId dto
      return .page notifications total
  | findById userId id => do
      return .notification (← NotificationsService.findById id userId)
  | markAsRead userId ids => do
      NotificationsService.markAsRead userId ids
      return .noContent

/-- A whole request: what it answers and the store it leaves. -/
def serve (store : NotificationStore) (request : InboxEnvironment × InboxRequest) :
    Except HttpException InboxResponse × NotificationStore :=
  run (request.2.call request.1) store

/-- The notification that a request stores under the next id. -/
def stores (nextId : Nat) : InboxRequest → Option Notification
  | signal _ data => (data.field "userId").map fun userId =>
      ⟨nextId, userId, data.type, data.field "referenceId", false⟩
  | _ => none

/-- Whether a request marks a notification as read. -/
def marks (notification : Notification) : InboxRequest → Bool
  | markAsRead userId ids => notification.userId == userId && namedBy ids notification.id
  | _ => false

end InboxRequest

/-- A notification after requests that may have marked it. -/
def Notification.afterMarks (notification : Notification) (requests : List InboxRequest) :
    Notification :=
  { notification with
    isRead := notification.isRead || requests.any (InboxRequest.marks notification) }

section Deliveries

variable (attempt : DeliveryAttempt)

/-- A call that leaves the stored notifications. -/
abbrev KeepsInbox {α : Type} (call : NotificationCall α) : Prop :=
  Keeps NotificationStore.notifications call

theorem keeps_sends (message : SentMessage) : KeepsInbox (sends message) := by
  apply Preserves.updates
  rintro store value next - ⟨⟩
  exact ⟨trivial, rfl⟩

theorem keeps_answered {α : Type} (answer : Option α) : KeepsInbox (answered answer) := by
  cases answer with
  | none => exact Preserves.throw _
  | some value => exact Preserves.pure _

theorem keeps_attempted {α : Type} {fails : Bool} {call : NotificationCall α}
    (keeps : KeepsInbox call) : KeepsInbox (attempted fails call) :=
  Preserves.ite (Preserves.throw _) keeps

theorem keeps_createDelivery (notificationId : Nat) (channel : NotificationChannel)
    (status : Option NotificationDeliveryStatus) (errorMessage : Option String) :
    KeepsInbox (NotificationsService.createDelivery notificationId channel status
      errorMessage) := by
  apply Preserves.updates
  rintro store value next - ⟨⟩
  exact ⟨trivial, rfl⟩

theorem keeps_handleFailedTokens (tokens : List String) (responses : String → SendResponse) :
    KeepsInbox (FcmNotificationsService.handleFailedTokens attempt tokens responses) := by
  apply Preserves.ite
  · apply keeps_attempted
    apply Preserves.updates
    rintro store value next - ⟨⟩
    exact ⟨trivial, rfl⟩
  · exact Preserves.pure _

theorem keeps_sendPush (notificationId : Nat) (tokens : List String) :
    KeepsInbox (FcmNotificationsService.sendPush attempt notificationId tokens) := by
  apply Preserves.ite
  · apply Preserves.caught
    · apply (keeps_answered _).bind
      intro responses
      apply (keeps_sends _).bind
      intro _
      apply Preserves.ite
      · apply keeps_handleFailedTokens
      · exact Preserves.pure _
    · intro _
      exact Preserves.pure _
  · exact Preserves.pure _

/-- Sending a notification leaves the inbox alone, whatever fails. -/
theorem keeps_process (job : NotificationJob) :
    KeepsInbox (NotificationsProcessor.process job attempt) := by
  apply Preserves.bind
  · apply (keeps_answered _).bind
    intro tokens
    apply Preserves.ite
    · apply (keeps_attempted (keeps_createDelivery _ _ _ _)).bind
      intro _
      apply keeps_sendPush
    · exact Preserves.pure _
  · intro _
    apply (keeps_answered _).bind
    intro chat
    cases chat with
    | none => exact Preserves.pure _
    | some chatId =>
        apply (keeps_attempted (keeps_createDelivery _ _ _ _)).bind
        intro _
        apply Preserves.bind
        · apply Preserves.ite
          · apply (keeps_sends _).bind
            intro _
            exact Preserves.pure _
          · exact Preserves.pure _
        · intro _
          exact Preserves.pure _

end Deliveries

section Steps

variable {store : NotificationStore}

/-- What a call is answered with does not matter to the store. -/
theorem store_of_answer {α β : Type} (call : NotificationCall α) (answer : α → β) :
    (run (call >>= fun value => (pure (answer value) : NotificationCall β)) store).2 =
      (run call store).2 := by
  rw [run_bind]
  rcases run call store with ⟨error | value, next⟩
  · rfl
  · rfl

theorem keeps_deliveries (answers : ListenerAnswers) (notification : Notification) :
    KeepsInbox (do
      if ← answered answers.isOnline then
        NotificationsListenerService.handleWebSocketNotification answers notification
      attempted answers.add (updates fun store =>
        .ok ((), store.withJob ⟨notification.userId, notification.type, notification.id⟩))) := by
  have queued : KeepsInbox (attempted answers.add (updates fun store => .ok ((),
      store.withJob ⟨notification.userId, notification.type, notification.id⟩))) := by
    apply keeps_attempted
    apply Preserves.updates
    rintro store value next - ⟨⟩
    exact ⟨trivial, rfl⟩
  apply (keeps_answered _).bind
  intro online
  apply Preserves.ite
  · apply Preserves.bind
    · apply (keeps_attempted (keeps_createDelivery _ _ _ _)).bind
      intro _
      apply keeps_sends
    · intro _
      exact queued
  · exact queued

/-- A signal stores its notification, whatever fails afterwards. -/
theorem notifications_of_signal (answers : ListenerAnswers) (data : BusObject) :
    (run (NotificationsListenerService.handleNotificationSignal answers data)
        store).2.notifications =
      (run (NotificationsService.create (data.field "userId") data.type
        (data.field "referenceId")) store).2.notifications := by
  unfold NotificationsListenerService.handleNotificationSignal
  rw [run_tryCatch_pure, run_bind]
  rcases run (NotificationsService.create (data.field "userId") data.type
    (data.field "referenceId")) store with ⟨error | notification, next⟩
  · rfl
  · exact (keeps_deliveries answers notification next trivial).2

theorem afterMarks_of_not_marks {notification : Notification} {request : InboxRequest}
    (unmarked : request.marks notification = false) :
    notification.afterMarks [request] = notification := by
  simp [Notification.afterMarks, unmarked]

theorem markedRow_eq (userId : Nat) (ids : Option (List Nat)) (row : Notification) :
    NotificationsService.markedRow userId ids row =
      row.afterMarks [.markAsRead userId ids] := by
  obtain ⟨id, owner, type, referenceId, isRead⟩ := row
  simp only [NotificationsService.markedRow, Notification.afterMarks, InboxRequest.marks,
    List.any_cons, List.any_nil, Bool.or_false]
  by_cases own : owner = userId
  · cases isRead with
    | false => cases named : NotificationsService.namedBy ids id <;> simp [own]
    | true => simp
  · simp [own]

/-- What a request leaves in the inbox: the notifications there were, as it marks them, and
the one that it stores. -/
theorem rows_of_serve (request : InboxEnvironment × InboxRequest) :
    (InboxRequest.serve store request).2.notifications.rows =
        store.notifications.rows.map (fun row => row.afterMarks [request.2]) ++
          (request.2.stores store.notifications.nextId).toList ∧
      (InboxRequest.serve store request).2.notifications.nextId =
        store.notifications.nextId +
          (request.2.stores store.notifications.nextId).toList.length := by
  obtain ⟨environment, request⟩ := request
  have same (quiet : ∀ row, request.marks row = false) :
      store.notifications.rows.map (fun row => row.afterMarks [request]) =
        store.notifications.rows := by
    rw [List.map_congr_left fun row _ => afterMarks_of_not_marks (quiet row), List.map_id']
  cases request with
  | signal answers data =>
      rw [same fun _ => rfl, InboxRequest.serve, InboxRequest.call, store_of_answer,
        notifications_of_signal]
      simp only [InboxRequest.stores, NotificationsService.create, run_updates]
      cases data.field "userId" with
      | none => exact ⟨(List.append_nil _).symm, rfl⟩
      | some userId => exact ⟨rfl, rfl⟩
  | deliver job attempt =>
      rw [same fun _ => rfl, InboxRequest.serve, InboxRequest.call, store_of_answer,
        (keeps_process attempt job store trivial).2]
      exact ⟨(List.append_nil _).symm, rfl⟩
  | findAll userId dto =>
      rw [same fun _ => rfl, InboxRequest.serve, InboxRequest.call, store_of_answer]
      exact ⟨(List.append_nil _).symm, rfl⟩
  | findById userId id =>
      rw [same fun _ => rfl, InboxRequest.serve, InboxRequest.call, store_of_answer]
      exact ⟨(List.append_nil _).symm, rfl⟩
  | markAsRead userId ids =>
      rw [InboxRequest.serve, InboxRequest.call, store_of_answer]
      constructor
      · rw [← List.map_congr_left fun row _ => markedRow_eq userId ids row]
        exact (List.append_nil _).symm
      · rfl

end Steps

/-- A request has stored the notification, and the later ones have marked it so. -/
def Arrived (start : NotificationStore) (requests : List (InboxEnvironment × InboxRequest))
    (notification : Notification) : Prop :=
  ∃ earlier request later made, requests = earlier ++ request :: later ∧
    request.2.stores (after InboxRequest.serve start earlier).notifications.nextId = some made ∧
      notification = made.afterMarks (later.map Prod.snd)

section Runs

variable {start : NotificationStore} {requests : List (InboxEnvironment × InboxRequest)}
  {notification : Notification}

theorem afterMarks_append (notification : Notification) (requests more : List InboxRequest) :
    (notification.afterMarks requests).afterMarks more =
      notification.afterMarks (requests ++ more) := by
  have same : InboxRequest.marks (notification.afterMarks requests) =
      InboxRequest.marks notification := by
    funext request
    cases request <;> rfl
  have joined : (notification.isRead || requests.any (InboxRequest.marks notification) ||
        more.any (InboxRequest.marks (notification.afterMarks requests))) =
      (notification.isRead || (requests ++ more).any (InboxRequest.marks notification)) := by
    rw [same, List.any_append, Bool.or_assoc]
  exact congrArg (fun isRead => { notification with isRead := isRead }) joined

theorem arrived_cons (request : InboxEnvironment × InboxRequest) :
    Arrived start (request :: requests) notification ↔
      (∃ made, request.2.stores start.notifications.nextId = some made ∧
        notification = made.afterMarks (requests.map Prod.snd)) ∨
      Arrived (InboxRequest.serve start request).2 requests notification := by
  constructor
  · rintro ⟨earlier, storing, later, made, split, stored, marked⟩
    cases earlier with
    | nil =>
        obtain ⟨rfl, rfl⟩ := List.cons.inj split
        exact Or.inl ⟨made, stored, marked⟩
    | cons first earlier =>
        obtain ⟨rfl, rest⟩ := List.cons.inj split
        exact Or.inr ⟨earlier, storing, later, made, rest, stored, marked⟩
  · rintro (⟨made, stored, marked⟩ | ⟨earlier, storing, later, made, split, stored, marked⟩)
    · exact ⟨[], request, requests, made, rfl, stored, marked⟩
    · refine ⟨request :: earlier, storing, later, made, ?_, stored, marked⟩
      rw [split, List.cons_append]

/-- The inbox after a list of requests: what there was and what has arrived, as marked. -/
theorem mem_rows_after_iff :
    notification ∈ (after InboxRequest.serve start requests).notifications.rows ↔
      (∃ old ∈ start.notifications.rows,
        notification = old.afterMarks (requests.map Prod.snd)) ∨
      Arrived start requests notification := by
  induction requests generalizing start with
  | nil =>
      have unmarked (old : Notification) : old.afterMarks [] = old := by
        simp [Notification.afterMarks]
      have nothing : ¬ Arrived start [] notification := by
        rintro ⟨earlier, request, later, made, split, -⟩
        simp at split
      simp [after, unmarked, nothing]
  | cons request rest ih =>
      obtain ⟨rows, -⟩ := @rows_of_serve start request
      rw [after, ih, arrived_cons, ← or_assoc, rows]
      apply or_congr_left
      constructor
      · rintro ⟨old, present, rfl⟩
        rcases List.mem_append.mp present with before | stored
        · obtain ⟨row, inTable, rfl⟩ := List.mem_map.mp before
          exact Or.inl ⟨row, inTable, afterMarks_append row [request.2] (rest.map Prod.snd)⟩
        · exact Or.inr ⟨old, Option.mem_toList.mp stored, rfl⟩
      · rintro (⟨row, inTable, rfl⟩ | ⟨made, stored, rfl⟩)
        · refine ⟨row.afterMarks [request.2], ?_, ?_⟩
          · exact List.mem_append_left _ (List.mem_map_of_mem inTable)
          · exact (afterMarks_append row [request.2] (rest.map Prod.snd)).symm
        · exact ⟨made, List.mem_append_right _ (Option.mem_toList.mpr stored), rfl⟩

theorem mem_of_arrived_iff (empty : start.notifications = .empty) :
    notification ∈ (after InboxRequest.serve start requests).notifications.rows ↔
      Arrived start requests notification := by
  rw [mem_rows_after_iff, empty]
  constructor
  · rintro (⟨old, none, -⟩ | arrived)
    · cases none
    · exact arrived
  · exact Or.inr

end Runs

section Answers

open NotificationsService

variable {store : NotificationStore} {userId : Nat}

/-- Reading the pages of a list finds what the list selects. -/
theorem shown_iff (environment : InboxEnvironment) (type : Option SignalType)
    (isRead : Option Bool) {limit : Nat} (positive : 0 < limit) (notification : Notification) :
    (∃ offset shown total, (InboxRequest.serve store
        (environment, .findAll userId ⟨type, isRead, limit, offset⟩)).1 =
          .ok (.page shown total) ∧ notification ∈ shown) ↔
      notification ∈ store.notifications.rows ∧ notification.userId = userId ∧
        type.all (· == notification.type) = true ∧
          isRead.all (· == notification.isRead) = true := by
  have selected := @exists_page_iff _ _ environment.latestFirst
    (store.notifications.rows.filter (selects userId ⟨type, isRead, limit, 0⟩)) limit positive
    notification
  have condition : selects userId ⟨type, isRead, limit, 0⟩ notification = true ↔
      notification.userId = userId ∧ type.all (· == notification.type) = true ∧
        isRead.all (· == notification.isRead) = true := by
    simp only [selects, Bool.and_eq_true, beq_iff_eq, and_assoc]
  rw [List.mem_filter, condition] at selected
  rw [← selected]
  constructor
  · rintro ⟨offset, shown, total, ⟨⟩, present⟩
    exact ⟨offset, present⟩
  · rintro ⟨offset, present⟩
    exact ⟨offset, _, _, rfl, present⟩

/-- The notifications of a user are those that were read and those that were not. -/
theorem length_selects (type : Option SignalType) (limit offset : Nat)
    (rows : List Notification) :
    (rows.filter (selects userId ⟨type, none, limit, offset⟩)).length =
      (rows.filter (selects userId ⟨type, some true, limit, offset⟩)).length +
        (rows.filter (selects userId ⟨type, some false, limit, offset⟩)).length := by
  have read (row : Notification) : (row.isRead && selects userId ⟨type, none, limit, offset⟩ row) =
      selects userId ⟨type, some true, limit, offset⟩ row := by
    cases seen : row.isRead <;> simp [selects, seen]
  have unread (row : Notification) :
      (!row.isRead && selects userId ⟨type, none, limit, offset⟩ row) =
        selects userId ⟨type, some false, limit, offset⟩ row := by
    cases seen : row.isRead <;> simp [selects, seen]
  rw [List.length_eq_length_filter_add Notification.isRead, List.filter_filter,
    List.filter_filter]
  simp only [read, unread]

theorem found_iff (id : Nat) (notification : Notification) :
    store.notifications.rows.find? (fun row => row.id == id && row.userId == userId) =
        some notification ↔
      notification ∈ store.notifications.rows ∧ notification.id = id ∧
        notification.userId = userId := by
  constructor
  · intro found
    have condition := List.find?_some found
    simp only [Bool.and_eq_true, beq_iff_eq] at condition
    exact ⟨List.mem_of_find?_eq_some found, condition⟩
  · rintro ⟨present, rfl, rfl⟩
    cases found : store.notifications.rows.find? fun row =>
        row.id == notification.id && row.userId == notification.userId with
    | none =>
        have missed := List.find?_eq_none.mp found notification present
        simp at missed
    | some other =>
        have condition := List.find?_some found
        simp only [Bool.and_eq_true, beq_iff_eq] at condition
        have same := store.notifications.eq_of_key_eq (List.mem_of_find?_eq_some found) present
          condition.1
        rw [same]

end Answers

/-- After any signals, attempts of jobs and requests of users, whatever fails in them: the
pages of a user's list show what has arrived for the user, as the user's later requests have
marked it, and nothing else; a list counts the read and the unread notifications; and a
notification is found by its id by its user only. -/
theorem inbox_read_off_requests (start : NotificationStore)
    (empty : start.notifications = .empty)
    (requests : List (InboxEnvironment × InboxRequest)) (environment : InboxEnvironment)
    (userId : Nat) :
    let store := after InboxRequest.serve start requests
    (∀ (type : Option SignalType) (isRead : Option Bool) (limit : Nat), 0 < limit →
      ∀ notification,
        (∃ offset shown total, (InboxRequest.serve store
            (environment, .findAll userId ⟨type, isRead, limit, offset⟩)).1 =
              .ok (.page shown total) ∧ notification ∈ shown) ↔
          Arrived start requests notification ∧ notification.userId = userId ∧
            type.all (· == notification.type) = true ∧
              isRead.all (· == notification.isRead) = true) ∧
    (∀ type limit offset, ∃ all read unread allShown readShown unreadShown,
      (InboxRequest.serve store (environment, .findAll userId ⟨type, none, limit, offset⟩)).1 =
          .ok (.page allShown all) ∧
        (InboxRequest.serve store
          (environment, .findAll userId ⟨type, some true, limit, offset⟩)).1 =
            .ok (.page readShown read) ∧
        (InboxRequest.serve store
          (environment, .findAll userId ⟨type, some false, limit, offset⟩)).1 =
            .ok (.page unreadShown unread) ∧
        all = read + unread) ∧
    ∀ id notification,
      (InboxRequest.serve store (environment, .findById userId id)).1 =
          .ok (.notification notification) ↔
        Arrived start requests notification ∧ notification.id = id ∧
          notification.userId = userId := by
  intro store
  have arrived (notification : Notification) :=
    @mem_of_arrived_iff start requests notification empty
  refine ⟨?_, ?_, ?_⟩
  · intro type isRead limit positive notification
    rw [shown_iff environment type isRead positive notification, arrived]
  · intro type limit offset
    refine ⟨_, _, _, _, _, _, rfl, rfl, rfl, ?_⟩
    exact length_selects type limit offset store.notifications.rows
  · intro id notification
    rw [← arrived, ← found_iff]
    change (run (NotificationsService.findById id userId >>= fun found =>
      pure (InboxResponse.notification found)) store).1 = _ ↔ _
    rw [run_bind, NotificationsService.findById, run_reads]
    cases store.notifications.rows.find? fun row => row.id == id && row.userId == userId with
    | none =>
        constructor
        · rintro ⟨⟩
        · rintro ⟨⟩
    | some found =>
        constructor
        · rintro ⟨⟩
          rfl
        · rintro ⟨⟩
          rfl

/-- Notifications that were created at one time. -/
def inboxEnvironment : InboxEnvironment where
  createdAt _ := 0
  latestFirst := .stable _

def emptyInbox : NotificationStore where
  notifications := .empty
  deliveries := .empty
  sent := []
  queue := []
  deletedTokens := []

/-- Two bookings are requested of the user 1, who reads of the first; the request of another
user comes to nothing. -/
def inboxRequests : List (InboxEnvironment × InboxRequest) :=
  [(inboxEnvironment, .signal ⟨some true, false, false⟩
      ⟨.booking .bookingNew, [("userId", 1), ("referenceId", 7)]⟩),
    (inboxEnvironment, .signal ⟨none, false, true⟩
      ⟨.booking .bookingNew, [("userId", 1), ("referenceId", 8)]⟩),
    (inboxEnvironment, .markAsRead 1 (some [1])),
    (inboxEnvironment, .markAsRead 2 none)]

theorem inbox_read_off_requests_sample :
    emptyInbox.notifications = .empty ∧
      ∀ notification, (∃ offset shown total,
        (InboxRequest.serve (after InboxRequest.serve emptyInbox inboxRequests)
          (inboxEnvironment, .findAll 1 ⟨none, some false, 10, offset⟩)).1 =
            .ok (.page shown total) ∧ notification ∈ shown) ↔
        Arrived emptyInbox inboxRequests notification ∧ notification.userId = 1 ∧
          notification.isRead = false := by
  refine ⟨rfl, ?_⟩
  intro notification
  obtain ⟨pages, -⟩ := inbox_read_off_requests emptyInbox rfl inboxRequests inboxEnvironment 1
  rw [pages none (some false) 10 (by decide) notification]
  simp

example : (after InboxRequest.serve emptyInbox inboxRequests).notifications.rows =
    [⟨1, 1, .booking .bookingNew, some 7, true⟩, ⟨2, 1, .booking .bookingNew, some 8, false⟩] := by
  decide

end SpareSpace
