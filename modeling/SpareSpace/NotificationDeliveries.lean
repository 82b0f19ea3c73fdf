import SpareSpace.NotificationRoutes

/-!
# What the attempts of a notification job deliver

An attempt that fails is followed by another, which starts from the first channel
again.  The row of a delivery is written before the sending, and the senders
swallow their errors.  So a channel has at most one row and one message, and a row
only with a message, exactly when at most one attempt gets to the row and every
sending after a row succeeds.  For the chat, which comes last, at most one attempt
gets there.
-/

namespace SpareSpace

open Fallible

namespace SentMessage

def channel : SentMessage → NotificationChannel
  | socket _ _ => .websocket
  | push _ _ => .fcm
  | telegram _ _ => .tgBot

def notificationId : SentMessage → Nat
  | socket _ notificationId => notificationId
  | push notificationId _ => notificationId
  | telegram notificationId _ => notificationId

/-- Whether somebody has got the message. -/
def arrived : SentMessage → Bool
  | push _ tokens => !tokens.isEmpty
  | socket _ _ | telegram _ _ => true

end SentMessage

namespace NotificationStore

variable (store : NotificationStore) (notificationId : Nat)
  (channel : NotificationChannel)

/-- The statuses of a notification's deliveries on a channel. -/
def statuses : List NotificationDeliveryStatus :=
  (store.deliveries.rows.filter fun delivery =>
    delivery.notificationId == notificationId && delivery.channel == channel).map
      NotificationDelivery.status

/-- The messages of a notification that have gone out on a channel. -/
def messages : List SentMessage :=
  store.sent.filter fun message =>
    message.notificationId == notificationId && message.channel == channel &&
      message.arrived

/-- On a channel at most one message has gone out, at most one row is stored, and
a row says that the message was sent only if it was. -/
structure DeliveredOnce : Prop where
  message : (store.messages notificationId channel).length ≤ 1
  row : (store.statuses notificationId channel).length ≤ 1
  truthful : .success ∈ store.statuses notificationId channel →
    store.messages notificationId channel ≠ []

end NotificationStore

namespace DeliveryAttempt

variable (attempt : DeliveryAttempt)

/-- The attempt throws before it gets to the chat. -/
def pushFails : Bool :=
  attempt.getUserTokens.all fun tokens =>
    !tokens.isEmpty && attempt.createPushDelivery

/-- The attempt gets to the row of the push message. -/
def pushes : Bool :=
  attempt.getUserTokens.any fun tokens =>
    !tokens.isEmpty && !attempt.createPushDelivery

/-- Some token of the user takes the push message. -/
def pushArrives : Bool :=
  attempt.getUserTokens.any fun tokens =>
    attempt.sendEachForMulticast.any fun responses =>
      tokens.any fun token => responses token == .success

/-- The attempt gets to the row of the message in the chat. -/
def telegrams : Bool :=
  !attempt.pushFails && attempt.findById.any Option.isSome &&
    !attempt.createTelegramDelivery

/-- The attempt throws. -/
def fails : Bool :=
  attempt.pushFails || attempt.findById.all fun chatId =>
    chatId.isSome && attempt.createTelegramDelivery

/-- Whether an attempt gets to the row of a channel. -/
def stores : NotificationChannel → Bool
  | .fcm => attempt.pushes
  | .tgBot => attempt.telegrams
  | .websocket | .email | .sms => false

/-- Whether the sending after the row succeeds. -/
def arrives : NotificationChannel → Bool
  | .fcm => attempt.pushArrives
  | .tgBot => attempt.sendMessage
  | .websocket | .email | .sms => false

/-- The attempts made: those up to the first that does not throw. -/
def made : List DeliveryAttempt → List DeliveryAttempt
  | [] => []
  | attempt :: later =>
      if attempt.fails then attempt :: made later else [attempt]

end DeliveryAttempt

/-- What a call adds to the rows and to the number of messages of a notification,
by channel. -/
structure Delivers (notificationId : Nat) (store after : NotificationStore)
    (rows : NotificationChannel → List NotificationDeliveryStatus)
    (count : NotificationChannel → Nat) : Prop where
  statuses : ∀ channel, after.statuses notificationId channel =
    store.statuses notificationId channel ++ rows channel
  messages : ∀ channel, (after.messages notificationId channel).length =
    (store.messages notificationId channel).length + count channel

namespace Delivers

variable {notificationId : Nat} {store middle after : NotificationStore}

theorem of_same (deliveries : after.deliveries = store.deliveries)
    (sent : after.sent = store.sent) :
    Delivers notificationId store after (fun _ => []) fun _ => 0 where
  statuses := by
    intro channel
    unfold NotificationStore.statuses
    rw [deliveries, List.append_nil]
  messages := by
    intro channel
    unfold NotificationStore.messages
    rw [sent, Nat.add_zero]

theorem trans {first second : NotificationChannel → List NotificationDeliveryStatus}
    {count more : NotificationChannel → Nat}
    (before : Delivers notificationId store middle first count)
    (later : Delivers notificationId middle after second more) :
    Delivers notificationId store after
      (fun channel => first channel ++ second channel)
      fun channel => count channel + more channel where
  statuses := by
    intro channel
    rw [later.statuses, before.statuses, List.append_assoc]
  messages := by
    intro channel
    rw [later.messages, before.messages, Nat.add_assoc]

variable (notificationId store) in
theorem insertDelivery (channel : NotificationChannel) :
    Delivers notificationId store
      (store.insertDelivery notificationId channel .success none)
      (fun other => if other = channel then [.success] else []) fun _ => 0 where
  statuses := by
    intro other
    change ((store.deliveries.rows ++ [_]).filter _).map _ = _
    rw [List.filter_append, List.map_append, List.filter_singleton]
    by_cases same : other = channel
    · simp [NotificationStore.statuses, same]
    · simp [NotificationStore.statuses, same, beq_false_of_ne (Ne.symm same)]
  messages := fun _ => rfl

theorem withSent {message : SentMessage}
    (named : message.notificationId = notificationId) :
    Delivers notificationId store (store.withSent message) (fun _ => [])
      fun other => if other = message.channel ∧ message.arrived = true then 1
        else 0 where
  statuses := fun _ => (List.append_nil _).symm
  messages := by
    intro other
    change ((store.sent ++ [message]).filter _).length = _
    rw [List.filter_append, List.length_append, List.filter_singleton, named]
    by_cases same : other = message.channel
    · cases arrived : message.arrived <;> simp [NotificationStore.messages, same]
    · simp [NotificationStore.messages, same, beq_false_of_ne (Ne.symm same)]

end Delivers

namespace NotificationsProcessor

open FcmNotificationsService

variable {notificationId : Nat} {store : NotificationStore}
  {attempt : DeliveryAttempt}

theorem handleFailedTokens_keeps (tokens : List String)
    (responses : String → SendResponse) (store : NotificationStore) :
    (run (handleFailedTokens attempt tokens responses) store).2.deliveries =
        store.deliveries ∧
      (run (handleFailedTokens attempt tokens responses) store).2.sent =
        store.sent := by
  unfold handleFailedTokens
  simp only
  split
  · cases attempt.deleteTokens <;> exact ⟨rfl, rfl⟩
  · exact ⟨rfl, rfl⟩

theorem arrived_push (tokens : List String) (takes : String → Bool) :
    (SentMessage.push notificationId (tokens.filter takes)).arrived =
      tokens.any takes := by
  rw [Bool.eq_iff_iff]
  simp [SentMessage.arrived]

/-- Sending returns, whether or not a token has taken the message. -/
theorem sendPush_spec {tokens : List String} (some : tokens ≠ []) :
    ∃ after, run (sendPush attempt notificationId tokens) store = (.ok (), after) ∧
      Delivers notificationId store after (fun _ => []) fun other =>
        if other = .fcm ∧ (attempt.sendEachForMulticast.any fun responses =>
          tokens.any fun token => responses token == .success) = true then 1
        else 0 := by
  unfold sendPush
  rw [if_pos some]
  refine ⟨_, run_tryCatch_pure _ store, ?_⟩
  cases sending : attempt.sendEachForMulticast with
  | none =>
      simp only [Option.any_none, Bool.false_eq_true, and_false, if_false]
      exact Delivers.of_same rfl rfl
  | some responses =>
      have answers : run (answered (.some responses)) store =
          (.ok responses, store) := rfl
      have goesOut : run (sends (.push notificationId
          (tokens.filter fun token => responses token == .success))) store =
          (.ok (), store.withSent (.push notificationId
            (tokens.filter fun token => responses token == .success))) := rfl
      have sent := @Delivers.withSent notificationId store
        (.push notificationId (tokens.filter fun token => responses token == .success))
        rfl
      rw [arrived_push] at sent
      rw [run_bind_ok answers, run_bind_ok goesOut]
      split
      · obtain ⟨deliveries, kept⟩ := @handleFailedTokens_keeps attempt tokens responses
          (store.withSent (.push notificationId
            (tokens.filter fun token => responses token == .success)))
        exact sent.trans (Delivers.of_same deliveries kept)
      · exact sent

/-- The push part of an attempt throws, or goes on with what it has delivered. -/
theorem handlePushNotification_spec :
    ∃ result after, run (handlePushNotification attempt notificationId) store =
        (result, after) ∧
      (result = .ok () ↔ attempt.pushFails = false) ∧
      Delivers notificationId store after
        (fun channel => if channel = .fcm ∧ attempt.pushes = true then [.success]
          else [])
        fun channel =>
          if channel = .fcm ∧ attempt.pushes = true ∧ attempt.pushArrives = true then 1
          else 0 := by
  unfold handlePushNotification DeliveryAttempt.pushFails DeliveryAttempt.pushes
    DeliveryAttempt.pushArrives
  cases found : attempt.getUserTokens with
  | none =>
      exact ⟨_, store, rfl, by simp, by simpa using Delivers.of_same rfl rfl⟩
  | some tokens =>
      have answers : run (answered (some tokens)) store = (.ok tokens, store) := rfl
      rw [run_bind_ok answers]
      by_cases empty : tokens = []
      · subst empty
        exact ⟨_, store, rfl, by simp, by simpa using Delivers.of_same rfl rfl⟩
      · rw [if_pos empty]
        cases fails : attempt.createPushDelivery with
        | true =>
            refine ⟨_, store, rfl, by simp [empty], ?_⟩
            simpa using Delivers.of_same rfl rfl
        | false =>
            have writes : run (attempted false
                (NotificationsService.createDelivery notificationId .fcm none none))
                store = (.ok (), store.insertDelivery notificationId .fcm .success
                  none) := rfl
            rw [run_bind_ok writes]
            obtain ⟨after, ran, sent⟩ := @sendPush_spec notificationId
              (store.insertDelivery notificationId .fcm .success none) attempt tokens
              empty
            refine ⟨_, after, ran, by simp, ?_⟩
            have both := (Delivers.insertDelivery notificationId store .fcm).trans sent
            simpa [empty] using both

/-- The chat part of an attempt, which is made only after the push part. -/
theorem handleTelegramNotification_spec (reached : attempt.pushFails = false) :
    ∃ result after, run (handleTelegramNotification attempt notificationId) store =
        (result, after) ∧
      (result = .ok () ↔ attempt.fails = false) ∧
      Delivers notificationId store after
        (fun channel => if channel = .tgBot ∧ attempt.telegrams = true then [.success]
          else [])
        fun channel =>
          if channel = .tgBot ∧ attempt.telegrams = true ∧ attempt.sendMessage = true
          then 1 else 0 := by
  unfold handleTelegramNotification DeliveryAttempt.fails DeliveryAttempt.telegrams
  rw [reached]
  cases found : attempt.findById with
  | none => exact ⟨_, store, rfl, by simp, by simpa using Delivers.of_same rfl rfl⟩
  | some chat =>
      have answers : run (answered (some chat)) store = (.ok chat, store) := rfl
      rw [run_bind_ok answers]
      cases chat with
      | none => exact ⟨_, store, rfl, by simp, by simpa using Delivers.of_same rfl rfl⟩
      | some chatId =>
          cases fails : attempt.createTelegramDelivery with
          | true =>
              refine ⟨_, store, rfl, by simp, ?_⟩
              simpa using Delivers.of_same rfl rfl
          | false =>
              have row := Delivers.insertDelivery notificationId store .tgBot
              cases sends : attempt.sendMessage with
              | false =>
                  refine ⟨.ok (), store.insertDelivery notificationId .tgBot .success
                    none, ?_, by simp, by simpa using row⟩
                  simp only [TelegramSenderService.sendMessage, sends]
                  rfl
              | true =>
                  have sent := @Delivers.withSent notificationId
                    (store.insertDelivery notificationId .tgBot .success none)
                    (.telegram notificationId chatId) rfl
                  refine ⟨.ok (), _, ?_, by simp,
                    by simpa [SentMessage.channel, SentMessage.arrived] using
                      row.trans sent⟩
                  simp only [TelegramSenderService.sendMessage, sends]
                  rfl

theorem pushes_of_pushFails (fails : attempt.pushFails = true) :
    attempt.pushes = false := by
  unfold DeliveryAttempt.pushFails at fails
  unfold DeliveryAttempt.pushes
  cases found : attempt.getUserTokens with
  | none => rfl
  | some tokens =>
      rw [found, Option.all_some, Bool.and_eq_true] at fails
      rw [Option.any_some, fails.1, fails.2]
      rfl

/-- An attempt throws or returns, and adds a row and a message where it gets. -/
theorem process_spec (job : NotificationJob) (attempt : DeliveryAttempt)
    (store : NotificationStore) :
    ∃ result after, run (process job attempt) store = (result, after) ∧
      (result = .ok () ↔ attempt.fails = false) ∧
      Delivers job.notificationId store after
        (fun channel => if attempt.stores channel then [.success] else [])
        fun channel => if attempt.stores channel && attempt.arrives channel then 1
          else 0 := by
  obtain ⟨result, middle, pushes, returns, pushed⟩ :=
    @handlePushNotification_spec job.notificationId store attempt
  unfold process
  cases fails : attempt.pushFails with
  | true =>
      have throws : result ≠ .ok () := by
        intro returned
        rw [returns.mp returned] at fails
        contradiction
      obtain ⟨error, rfl⟩ : ∃ error, result = .error error := by
        cases result with
        | ok => exact absurd rfl throws
        | error error => exact ⟨error, rfl⟩
      refine ⟨.error error, middle, by rw [run_bind, pushes], ?_, ?_⟩
      · simp [DeliveryAttempt.fails, fails]
      · rw [pushes_of_pushFails fails] at pushed
        convert pushed using 1
        · funext channel
          cases channel <;> simp [DeliveryAttempt.stores, DeliveryAttempt.telegrams,
            fails, pushes_of_pushFails fails]
        · funext channel
          cases channel <;> simp [DeliveryAttempt.stores, DeliveryAttempt.telegrams,
            fails, pushes_of_pushFails fails]
  | false =>
      obtain rfl := returns.mpr fails
      obtain ⟨result, after, telegrams, ends, sent⟩ :=
        @handleTelegramNotification_spec job.notificationId middle attempt fails
      rw [run_bind_ok pushes]
      refine ⟨result, after, telegrams, ends, ?_⟩
      convert pushed.trans sent using 1
      · funext channel
        cases channel <;> simp [DeliveryAttempt.stores] <;> congr
      · funext channel
        cases channel <;>
          simp [DeliveryAttempt.stores, DeliveryAttempt.arrives]

end NotificationsProcessor

section Attempts

open DeliveryAttempt NotificationsProcessor

/-- The rows and messages of all attempts made. -/
theorem delivers_afterAttempts (job : NotificationJob)
    (attempts : List DeliveryAttempt) (store : NotificationStore) :
    Delivers job.notificationId store (afterAttempts (process job) attempts store)
      (fun channel => List.replicate
        ((made attempts).countP fun attempt => attempt.stores channel) .success)
      fun channel => (made attempts).countP fun attempt =>
        attempt.stores channel && attempt.arrives channel := by
  induction attempts generalizing store with
  | nil => exact Delivers.of_same rfl rfl
  | cons attempt later ih =>
      obtain ⟨result, after, ran, returns, delivers⟩ := process_spec job attempt store
      cases fails : attempt.fails with
      | false =>
          obtain rfl := returns.mpr fails
          rw [afterAttempts, ran, made, fails]
          convert delivers using 1
          · funext channel
            cases stores : attempt.stores channel <;> simp [stores]
          · funext channel
            cases stores : attempt.stores channel <;> simp [stores]
      | true =>
          cases result with
          | ok =>
              rw [returns.mp rfl] at fails
              contradiction
          | error error =>
              rw [afterAttempts, ran, made, fails]
              convert delivers.trans (ih after) using 1
              · funext channel
                cases stores : attempt.stores channel <;>
                  simp [stores, List.replicate_succ]
              · funext channel
                cases stores : attempt.stores channel <;>
                  cases arrives : attempt.arrives channel <;>
                    simp [stores, arrives, Nat.add_comm]

theorem not_fails_of_telegrams {attempt : DeliveryAttempt}
    (gets : attempt.telegrams = true) : attempt.fails = false := by
  simp only [telegrams, Bool.and_eq_true, Bool.not_eq_true'] at gets
  obtain ⟨⟨reached, chat⟩, written⟩ := gets
  rw [DeliveryAttempt.fails, reached, written]
  cases found : attempt.findById with
  | none =>
      rw [found] at chat
      contradiction
  | some chatId => simp

/-- An attempt that gets to the chat does not throw, so it is the last. -/
theorem countP_telegrams_le_one (attempts : List DeliveryAttempt) :
    (made attempts).countP (fun attempt => attempt.stores .tgBot) ≤ 1 := by
  induction attempts with
  | nil => exact Nat.zero_le 1
  | cons attempt later ih =>
      rw [made]
      split
      · next fails =>
          have silent : ¬ attempt.stores .tgBot = true := by
            intro gets
            rw [not_fails_of_telegrams gets] at fails
            contradiction
          rw [List.countP_cons, if_neg silent]
          exact ih
      · exact List.countP_le_length

/-- Of some events at most one is stored, at most one arrives, and one arrives if
one is stored: this says that at most one is stored and that it arrives. -/
theorem once_iff {α : Type} (stores arrives : α → Bool) (events : List α) :
    (events.countP (fun event => stores event && arrives event) ≤ 1 ∧
        events.countP stores ≤ 1 ∧
          (0 < events.countP stores →
            0 < events.countP fun event => stores event && arrives event)) ↔
      events.countP stores ≤ 1 ∧
        ∀ event ∈ events, stores event = true → arrives event = true := by
  have split : events.countP stores =
      events.countP (fun event => stores event && arrives event) +
        events.countP fun event => stores event && !arrives event := by
    induction events with
    | nil => rfl
    | cons event rest ih =>
        cases stored : stores event <;> cases arrived : arrives event <;>
          simp [stored, arrived, ih] <;> omega
  have lost : (events.countP fun event => stores event && !arrives event) = 0 ↔
      ∀ event ∈ events, stores event = true → arrives event = true := by
    rw [List.countP_eq_zero]
    simp
  rw [← lost]
  omega

end Attempts

/-- At most one attempt gets to the row of the push message, and every sending
after a row succeeds. -/
structure DeliversOnce (attempts : List DeliveryAttempt) : Prop where
  pushedOnce : (DeliveryAttempt.made attempts).countP DeliveryAttempt.pushes ≤ 1
  pushed : ∀ attempt ∈ DeliveryAttempt.made attempts,
    attempt.pushes = true → attempt.pushArrives = true
  written : ∀ attempt ∈ DeliveryAttempt.made attempts,
    attempt.telegrams = true → attempt.sendMessage = true

/-- The notification has neither been sent nor logged on the channels of the job. -/
def NotificationStore.Fresh (store : NotificationStore) (notificationId : Nat) :
    Prop :=
  ∀ channel, channel = .fcm ∨ channel = .tgBot →
    store.statuses notificationId channel = [] ∧
      store.messages notificationId channel = []

/-- On a channel, delivery is once and truthful if at most one attempt gets to the
row and every sending after it succeeds. -/
theorem deliveredOnce_iff {job : NotificationJob} {start : NotificationStore}
    (fresh : start.Fresh job.notificationId) (attempts : List DeliveryAttempt)
    {channel : NotificationChannel} (used : channel = .fcm ∨ channel = .tgBot) :
    (afterAttempts (NotificationsProcessor.process job) attempts start).DeliveredOnce
        job.notificationId channel ↔
      (DeliveryAttempt.made attempts).countP (fun attempt => attempt.stores channel) ≤
          1 ∧
        ∀ attempt ∈ DeliveryAttempt.made attempts,
          attempt.stores channel = true → attempt.arrives channel = true := by
  have delivers := delivers_afterAttempts job attempts start
  have statuses := delivers.statuses channel
  have messages := delivers.messages channel
  rw [(fresh channel used).1, List.nil_append] at statuses
  rw [(fresh channel used).2, List.length_nil, Nat.zero_add] at messages
  rw [← once_iff, ← messages]
  constructor
  · intro once
    refine ⟨once.message, ?_, fun stored => ?_⟩
    · have row := once.row
      rw [statuses, List.length_replicate] at row
      exact row
    · have truthful := once.truthful
      rw [statuses] at truthful
      exact List.length_pos_iff.mpr
        (truthful (List.mem_replicate.mpr ⟨stored.ne', rfl⟩))
  · rintro ⟨message, row, truthful⟩
    refine ⟨message, ?_, fun success => ?_⟩
    · rw [statuses, List.length_replicate]
      exact row
    · rw [statuses] at success
      exact List.length_pos_iff.mp
        (truthful (Nat.pos_of_ne_zero (List.mem_replicate.mp success).1))

/-- A notification is delivered at most once on each channel, and truthfully
logged, if and only if the attempts deliver it once. -/
theorem notification_delivered_once_iff {job : NotificationJob}
    {start : NotificationStore} (fresh : start.Fresh job.notificationId)
    (attempts : List DeliveryAttempt) :
    (∀ channel, channel = .fcm ∨ channel = .tgBot →
      (afterAttempts (NotificationsProcessor.process job) attempts
        start).DeliveredOnce job.notificationId channel) ↔
      DeliversOnce attempts := by
  constructor
  · intro once
    obtain ⟨pushedOnce, pushed⟩ :=
      (deliveredOnce_iff fresh attempts (Or.inl rfl)).mp (once .fcm (Or.inl rfl))
    obtain ⟨_, written⟩ :=
      (deliveredOnce_iff fresh attempts (Or.inr rfl)).mp (once .tgBot (Or.inr rfl))
    exact ⟨pushedOnce, pushed, written⟩
  · rintro ⟨pushedOnce, pushed, written⟩ channel used
    rw [deliveredOnce_iff fresh attempts used]
    rcases used with rfl | rfl
    · exact ⟨pushedOnce, pushed⟩
    · exact ⟨countP_telegrams_le_one attempts, written⟩

/-- An attempt of a user with one device and no chat. -/
private def onePhone (sendEachForMulticast : Option (String → SendResponse))
    (findById : Option (Option Int)) : DeliveryAttempt where
  getUserTokens := some ["phone"]
  createPushDelivery := false
  sendEachForMulticast := sendEachForMulticast
  deleteTokens := false
  findById := findById
  createTelegramDelivery := false
  sendMessage := true

private def sampleJob : NotificationJob :=
  ⟨1, .reviewNew, 1⟩

/-- The notifications after a job of three attempts, the first of which delivers. -/
private def deliveredAtOnce : NotificationStore :=
  afterAttempts (NotificationsProcessor.process sampleJob)
    (List.replicate 3 (onePhone (some fun _ => .success) (some (some 7))))
    newNotifications

theorem notification_delivered_once_iff_sample :
    deliveredAtOnce.DeliveredOnce 1 .fcm ∧ deliveredAtOnce.DeliveredOnce 1 .tgBot := by
  have fresh : newNotifications.Fresh sampleJob.notificationId :=
    fun channel _ => ⟨rfl, rfl⟩
  have once := (notification_delivered_once_iff fresh
    (List.replicate 3 (onePhone (some fun _ => .success) (some (some 7))))).mpr
      ⟨by decide, by decide, by decide⟩
  exact ⟨once .fcm (Or.inl rfl), once .tgBot (Or.inr rfl)⟩

/-- A push message that reaches nobody is logged as sent; and one that was sent is
sent again when the user cannot be read afterwards. -/
theorem push_logged_or_repeated :
    ¬ (afterAttempts (NotificationsProcessor.process sampleJob)
        [onePhone none (some none)] newNotifications).DeliveredOnce 1 .fcm ∧
      ¬ (afterAttempts (NotificationsProcessor.process sampleJob)
        [onePhone (some fun _ => .success) none,
          onePhone (some fun _ => .success) (some none)]
        newNotifications).DeliveredOnce 1 .fcm := by
  constructor
  · intro once
    exact once.truthful (by decide) rfl
  · intro once
    exact absurd once.row (by decide)

end SpareSpace
