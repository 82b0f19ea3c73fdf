import SpareSpace.Entities
import SpareSpace.FallibleState

/-!
# The notification service, its listener and its processor

A signal on the event bus is an object without a declared type.  The listener
stores a notification for the user the object names, tells the user's sockets,
and queues a job that sends the notification on the other channels.  Whatever
fails in the listener is logged and forgotten; what fails in the job makes it run
again, except for the sending itself.  The texts of notifications, which are built
for every type and payload without a failure, are left out.
-/

namespace SpareSpace

open Fallible

inductive NotificationChannel
  | websocket
  | fcm
  | email
  | sms
  | tgBot
  deriving DecidableEq, Repr

inductive NotificationDeliveryStatus
  | pending
  | success
  | failed
  deriving DecidableEq, Repr

/-- The types of the signals of bookings and reviews. -/
inductive SignalType
  | booking (type : NotificationType)
  | reviewNew
  deriving DecidableEq, Repr

structure Notification where
  id : Nat
  userId : Nat
  type : SignalType
  referenceId : Option Nat
  isRead : Bool
  deriving DecidableEq, Repr

structure NotificationDelivery where
  id : Nat
  notificationId : Nat
  channel : NotificationChannel
  status : NotificationDeliveryStatus
  errorMessage : Option String
  deriving DecidableEq, Repr

/-- What has gone out to a user: an event to the sockets, a push message to the
tokens that took it, or a message in a chat. -/
inductive SentMessage
  | socket (userId notificationId : Nat)
  | push (notificationId : Nat) (tokens : List String)
  | telegram (notificationId : Nat) (chatId : Int)
  deriving DecidableEq, Repr

structure NotificationJob where
  userId : Nat
  type : SignalType
  notificationId : Nat
  deriving DecidableEq, Repr

structure NotificationStore where
  notifications : KeyedTable Notification Notification.id
  deliveries : KeyedTable NotificationDelivery NotificationDelivery.id
  sent : List SentMessage
  queue : List NotificationJob
  deletedTokens : List String

abbrev NotificationCall := Fallible HttpException NotificationStore

/-- What a call answers, if it does not fail. -/
def answered {α : Type} (answer : Option α) : NotificationCall α :=
  match answer with
  | some value => pure value
  | none => throw (.database "call failed")

/-- A call that may fail before it takes effect. -/
def attempted {α : Type} (fails : Bool) (call : NotificationCall α) :
    NotificationCall α :=
  if fails then throw (.database "call failed") else call

namespace NotificationStore

variable (store : NotificationStore)

def withSent (message : SentMessage) : NotificationStore :=
  { store with sent := store.sent ++ [message] }

def withJob (job : NotificationJob) : NotificationStore :=
  { store with queue := store.queue ++ [job] }

def insertNotification (userId : Nat) (type : SignalType)
    (referenceId : Option Nat) : NotificationStore :=
  { store with
    notifications := store.notifications.insert
      (fun id => ⟨id, userId, type, referenceId, false⟩) fun _ => rfl }

def insertDelivery (notificationId : Nat) (channel : NotificationChannel)
    (status : NotificationDeliveryStatus) (errorMessage : Option String) :
    NotificationStore :=
  { store with
    deliveries := store.deliveries.insert
      (fun id => ⟨id, notificationId, channel, status, errorMessage⟩)
      fun _ => rfl }

end NotificationStore

/-- Something goes out. -/
def sends (message : SentMessage) : NotificationCall Unit :=
  updates fun store => .ok ((), store.withSent message)

namespace NotificationsService

/-- A notification without a user is rejected by the database. -/
def create (userId : Option Nat) (type : SignalType) (referenceId : Option Nat) :
    NotificationCall Notification :=
  updates fun store =>
    match userId with
    | some userId => .ok (⟨store.notifications.nextId, userId, type, referenceId,
        false⟩, store.insertNotification userId type referenceId)
    | none => .error (.database "null value in column user_id")

/-- A delivery without a status takes the default of its column. -/
def createDelivery (notificationId : Nat) (channel : NotificationChannel)
    (status : Option NotificationDeliveryStatus) (errorMessage : Option String) :
    NotificationCall Unit :=
  updates fun store => .ok ((), store.insertDelivery notificationId channel
    (status.getD .success) errorMessage)

end NotificationsService

/-- An object on the event bus: its numbers by the name of their field. -/
structure BusObject where
  type : SignalType
  fields : List (String × Nat)
  deriving DecidableEq, Repr

def BusObject.field (object : BusObject) (name : String) : Option Nat :=
  object.fields.lookup name

/-- What the listener finds outside its tables, and the calls that fail. -/
structure ListenerAnswers where
  isOnline : Option Bool
  createDelivery : Bool
  add : Bool

namespace NotificationsListenerService

open NotificationsService

def handleWebSocketNotification (answers : ListenerAnswers)
    (notification : Notification) : NotificationCall Unit := do
  attempted answers.createDelivery
    (createDelivery notification.id .websocket none none)
  sends (.socket notification.userId notification.id)

def handleNotificationSignal (answers : ListenerAnswers) (data : BusObject) :
    NotificationCall Unit :=
  tryCatch (do
    let notification ← create (data.field "userId") data.type
      (data.field "referenceId")
    if ← answered answers.isOnline then
      handleWebSocketNotification answers notification
    attempted answers.add (updates fun store =>
      .ok ((), store.withJob
        ⟨notification.userId, notification.type, notification.id⟩)))
    fun _ => pure ()

end NotificationsListenerService

/-- The answer to one token of a multicast. -/
inductive SendResponse
  | success
  | failure (code : Option String)
  deriving DecidableEq, Repr

/-- What the calls of one attempt answer, where they do not fail. -/
structure DeliveryAttempt where
  getUserTokens : Option (List String)
  createPushDelivery : Bool
  sendEachForMulticast : Option (String → SendResponse)
  deleteTokens : Bool
  findById : Option (Option Int)
  createTelegramDelivery : Bool
  sendMessage : Bool

namespace FcmNotificationsService

def isInvalidTokenError (errorCode : Option String) : Bool :=
  errorCode.any ["messaging/invalid-registration-token",
    "messaging/registration-token-not-registered",
    "messaging/not-registered"].contains

/-- Whether the answer says that the token is of no use. -/
def isInvalid : SendResponse → Bool
  | .success => false
  | .failure code => isInvalidTokenError code

def handleFailedTokens (attempt : DeliveryAttempt) (tokens : List String)
    (responses : String → SendResponse) : NotificationCall Unit := do
  let invalidTokens := tokens.filter fun token => isInvalid (responses token)
  if invalidTokens ≠ [] then
    attempted attempt.deleteTokens (updates fun store =>
      .ok ((), { store with deletedTokens := store.deletedTokens ++ invalidTokens }))

/-- Sending never throws: whatever fails is logged. -/
def sendPush (attempt : DeliveryAttempt) (notificationId : Nat)
    (tokens : List String) : NotificationCall Unit := do
  if tokens ≠ [] then
    tryCatch (do
      let responses ← answered attempt.sendEachForMulticast
      sends (.push notificationId
        (tokens.filter fun token => responses token == .success))
      if (tokens.filter fun token => responses token != .success) ≠ [] then
        handleFailedTokens attempt tokens responses)
      fun _ => pure ()

end FcmNotificationsService

/-- The message is sent in the chat, or the sender logs that it was not. -/
def TelegramSenderService.sendMessage (attempt : DeliveryAttempt)
    (notificationId : Nat) (chatId : Int) : NotificationCall Bool := do
  if attempt.sendMessage then
    sends (.telegram notificationId chatId)
    return true
  else
    return false

namespace NotificationsProcessor

open NotificationsService

def handlePushNotification (attempt : DeliveryAttempt) (notificationId : Nat) :
    NotificationCall Unit := do
  let tokens ← answered attempt.getUserTokens
  if tokens ≠ [] then
    attempted attempt.createPushDelivery
      (createDelivery notificationId .fcm none none)
    FcmNotificationsService.sendPush attempt notificationId tokens

def handleTelegramNotification (attempt : DeliveryAttempt) (notificationId : Nat) :
    NotificationCall Unit := do
  match ← answered attempt.findById with
  | none => return ()
  | some chatId =>
      attempted attempt.createTelegramDelivery
        (createDelivery notificationId .tgBot none none)
      let _ ← TelegramSenderService.sendMessage attempt notificationId chatId

/-- One attempt of a job, with what its calls answer. -/
def process (job : NotificationJob) (attempt : DeliveryAttempt) :
    NotificationCall Unit := do
  handlePushNotification attempt job.notificationId
  handleTelegramNotification attempt job.notificationId

end NotificationsProcessor

end SpareSpace
