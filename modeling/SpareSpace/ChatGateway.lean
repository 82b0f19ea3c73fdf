import SpareSpace.ChatService

/-!
# The chat events of the gateway

Six events of authenticated sockets.  Each handler checks who asks, calls the
chat service, and tells the participants: the sockets in the room of the
conversation what has happened, and the two users what the preview of the
conversation shows now.  A handler that throws answers with the error and keeps
what it has done so far.
-/

namespace SpareSpace

open Fallible

/-- An authenticated socket. -/
structure Socket where
  id : Nat
  userId : Nat
  deriving DecidableEq, Repr

@[ext]
structure ConversationPreview where
  unreadsCount : Nat
  lastMessage : Option Message
  deriving DecidableEq, Repr

/-- What the other sockets in the room of a conversation are sent. -/
inductive RoomEvent
  | messageNew (message : Message)
  | messageReadUpdate (userId : Nat) (messageIds : Option (List Nat))
  | messageEdited (message : Message)
  | messageDeleted (deletedMessageIds : List Nat)
  deriving DecidableEq, Repr

inductive ChatEmission
  | toConversation (conversationId : Nat) (sender : Socket) (event : RoomEvent)
  | previewUpdate (userId conversationId : Nat) (preview : ConversationPreview)
  deriving DecidableEq, Repr

/-- The notification signal of a new message, without its titles and names. -/
structure MessageSignal where
  userId : Nat
  referenceId : Nat
  messageId : Nat
  senderId : Nat
  text : String
  listingId : Option Nat
  deriving DecidableEq, Repr

/-- The tables, the sockets in the rooms `conversation:{id}`, and what has been
emitted and signalled so far. -/
structure ChatStore extends ChatTables where
  rooms : List (Nat × Socket)
  emitted : List ChatEmission
  signals : List MessageSignal

abbrev ChatCall := Fallible ChatException ChatStore

namespace ChatStore

variable (store : ChatStore)

def withTables (tables : ChatTables) : ChatStore :=
  { store with toChatTables := tables }

def emit (emission : ChatEmission) : ChatStore :=
  { store with emitted := store.emitted ++ [emission] }

/-- `client.join` of the room of a conversation. -/
def join (conversationId : Nat) (client : Socket) : ChatStore :=
  { store with
    rooms :=
      if (conversationId, client) ∈ store.rooms then
        store.rooms
      else
        store.rooms ++ [(conversationId, client)] }

/-- `client.leave`. -/
def leave (conversationId : Nat) (client : Socket) : ChatStore :=
  { store with rooms := store.rooms.filter (· != (conversationId, client)) }

def signal (signal : MessageSignal) : ChatStore :=
  { store with signals := store.signals ++ [signal] }

end ChatStore

namespace ChatService

def findConversationById (conversationId : Nat) : ChatCall Conversation :=
  reads fun store =>
    match store.liveConversation conversationId with
    | some conversation => .ok conversation
    | none => .error (.conversationNotFound conversationId)

def verifyConversationAccess (conversationId userId : Nat) : ChatCall Unit := do
  let conversation ← findConversationById conversationId
  if userId ≠ conversation.participant1 ∧ userId ≠ conversation.participant2 then
    throw (.conversationAccessDenied conversationId userId)

def getOtherParticipantId (conversationId userId : Nat) : ChatCall Nat := do
  let conversation ← findConversationById conversationId
  if userId = conversation.participant1 then
    return conversation.participant2
  else if userId = conversation.participant2 then
    return conversation.participant1
  else
    throw (.conversationAccessDenied conversation.id userId)

def findMessageById (messageId : Nat) : ChatCall Message :=
  reads fun store =>
    match store.messages.find? messageId with
    | some message => .ok message
    | none => .error (.messageNotFound messageId)

def sendMessage (now : Int) (conversationId senderId : Nat) (text : String) :
    ChatCall Message := do
  let messageId ← updates fun store =>
    .ok (store.messages.nextId,
      store.withTables (store.insertMessage now conversationId senderId text))
  updates fun store =>
    .ok ((), store.withTables (store.setLastMessageAt conversationId (some now)))
  findMessageById messageId

/-- The check of `markMessagesAsRead`, if ids are given. -/
def checkReadable (store : ChatStore) (conversationId readerId : Nat)
    (messageIds : Option (List Nat)) : Except ChatException Unit :=
  match messageIds with
  | none => .ok ()
  | some ids =>
      if ids ≠ [] ∧ (store.messagesIn conversationId
          (ChatTables.readable conversationId readerId messageIds)).length ≠
            ids.length then
        .error (.messageAccessDenied ids conversationId readerId)
      else
        .ok ()

def markMessagesAsRead (conversationId readerId : Nat)
    (messageIds : Option (List Nat)) : ChatCall Unit := do
  reads fun store => checkReadable store conversationId readerId messageIds
  updates fun store =>
    .ok ((), store.withTables (store.setRead conversationId readerId messageIds))

def editMessage (messageId : Nat) (newText : String) : ChatCall Message := do
  updates fun store => .ok ((), store.withTables (store.setText messageId newText))
  findMessageById messageId

def deleteMessages (messageIds : List Nat) (conversationId : Nat) :
    ChatCall Unit := do
  updates fun store => .ok ((), store.withTables (store.deleteByIds messageIds))
  let lastMessage ← reads fun store => .ok (store.getLastMessage conversationId)
  updates fun store =>
    .ok ((), store.withTables (store.setLastMessageAt conversationId
      (lastMessage.map Message.sentAt)))

/-- The condition of `verifyMessageOwnership`. -/
def owned (messageIds : List Nat) (userId : Nat) (message : Message) : Bool :=
  messageIds.contains message.id && message.senderId == userId

def verifyMessageOwnership (messageIds : List Nat) (conversationId userId : Nat) :
    ChatCall Unit :=
  reads fun store =>
    if (store.messagesIn conversationId (owned messageIds userId)).length ≠
        messageIds.length then
      .error (.messageAccessDenied messageIds conversationId userId)
    else
      .ok ()

/-- The query selects the id alone and sorts by the time of sending.  With a limit and the
joined conversation TypeORM sorts the distinct ids outside, where that column is missing, and
the database refuses the query. -/
def getLastMessageId (_conversationId : Nat) : ChatCall (Option Nat) :=
  throw (.queryFailed "column distinctAlias.Message_sent_at does not exist")

end ChatService

/-- The server's preview of a conversation for a user. -/
def ChatTables.preview (tables : ChatTables) (conversationId userId : Nat) :
    ConversationPreview :=
  ⟨(tables.getUnreadMessageIds conversationId userId false).length,
    tables.getLastMessage conversationId⟩

structure WsMessageSendRequestDto where
  conversationId : Nat
  text : String
  lower : 1 ≤ text.length
  upper : text.length ≤ 1000

structure WsMessageReadRequestDto where
  conversationId : Nat
  messageIds : Option (List Nat)
  nonempty : messageIds ≠ some []

structure WsMessageEditRequestDto where
  conversationId : Nat
  messageId : Nat
  newText : String
  lower : 1 ≤ newText.length
  upper : newText.length ≤ 1000

structure WsMessageDeleteRequestDto where
  conversationId : Nat
  messageIds : List Nat
  nonempty : messageIds ≠ []

namespace MainWebSocketGateway

open ChatService

def notifyConversationPreviewUpdate (userId conversationId : Nat) : ChatCall Unit :=
  updates fun store =>
    .ok ((), store.emit
      (.previewUpdate userId conversationId (store.preview conversationId userId)))

/-- `client.to('conversation:{id}').emit`. -/
def emitToConversation (conversationId : Nat) (client : Socket)
    (event : RoomEvent) : ChatCall Unit :=
  updates fun store => .ok ((), store.emit (.toConversation conversationId client event))

/-- Whether some socket of the user is in the room of the conversation. -/
def isInConversation (store : ChatStore) (conversationId userId : Nat) : Bool :=
  store.rooms.any fun member =>
    member.1 == conversationId && member.2.userId == userId

/-- Tell the recipient, and the sender's other devices, of the new preview. -/
def notifyBoth (recipientId userId conversationId : Nat) : ChatCall Unit := do
  notifyConversationPreviewUpdate recipientId conversationId
  notifyConversationPreviewUpdate userId conversationId

def emitMessageNew (conversationId recipientId : Nat) (message : Message)
    (senderSocket : Socket) : ChatCall Unit := do
  notifyBoth recipientId senderSocket.userId conversationId
  emitToConversation conversationId senderSocket (.messageNew message)
  if !(← reads fun store =>
      .ok (isInConversation store conversationId recipientId)) then
    let conversation ← findConversationById conversationId
    updates fun store =>
      .ok ((), store.signal ⟨recipientId, conversationId, message.id,
        message.senderId, message.text, conversation.listingId⟩)

def handleConversationSubscribe (conversationId : Nat) (client : Socket) :
    ChatCall (Option Message) := do
  verifyConversationAccess conversationId client.userId
  updates fun store => .ok ((), store.join conversationId client)
  return none

def handleConversationUnsubscribe (conversationId : Nat) (client : Socket) :
    ChatCall (Option Message) := do
  updates fun store => .ok ((), store.leave conversationId client)
  return none

def handleSendMessage (now : Int) (data : WsMessageSendRequestDto)
    (client : Socket) : ChatCall (Option Message) := do
  verifyConversationAccess data.conversationId client.userId
  let message ← sendMessage now data.conversationId client.userId data.text
  let recipientId ← getOtherParticipantId data.conversationId client.userId
  emitMessageNew data.conversationId recipientId message client
  return some message

/-- Tell both participants of the preview if a condition holds. -/
def notifyParticipantsIf (condition : Bool) (conversationId userId : Nat) :
    ChatCall Unit := do
  if condition then
    let recipientId ← getOtherParticipantId conversationId userId
    notifyBoth recipientId userId conversationId

/-- Whether the last message is read, if there is one. -/
def lastMessageRead (conversationId : Nat) : ChatCall (Option Bool) :=
  reads fun store =>
    .ok ((store.getLastMessage conversationId).map Message.isRead)

def handleReadMessages (data : WsMessageReadRequestDto) (client : Socket) :
    ChatCall (Option Message) := do
  verifyConversationAccess data.conversationId client.userId
  let lastMessageReadBefore ← lastMessageRead data.conversationId
  markMessagesAsRead data.conversationId client.userId data.messageIds
  let lastMessageRead ← lastMessageRead data.conversationId
  notifyParticipantsIf (lastMessageRead != lastMessageReadBefore)
    data.conversationId client.userId
  emitToConversation data.conversationId client
    (.messageReadUpdate client.userId data.messageIds)
  return none

def handleEditMessage (data : WsMessageEditRequestDto) (client : Socket) :
    ChatCall (Option Message) := do
  verifyConversationAccess data.conversationId client.userId
  verifyMessageOwnership [data.messageId] data.conversationId client.userId
  let message ← editMessage data.messageId data.newText
  let lastMessageId ← getLastMessageId data.conversationId
  notifyParticipantsIf (lastMessageId == some data.messageId)
    data.conversationId client.userId
  emitToConversation data.conversationId client (.messageEdited message)
  return some message

def handleDeleteMessages (data : WsMessageDeleteRequestDto) (client : Socket) :
    ChatCall (Option Message) := do
  verifyMessageOwnership data.messageIds data.conversationId client.userId
  let unreadIdsBefore ← reads fun store =>
    .ok (store.getUnreadMessageIds data.conversationId client.userId true)
  let hasDeletedUnread := data.messageIds.any unreadIdsBefore.contains
  let lastMessageIdBefore ← getLastMessageId data.conversationId
  let isLastDeleted := lastMessageIdBefore.any data.messageIds.contains
  deleteMessages data.messageIds data.conversationId
  notifyParticipantsIf (isLastDeleted || hasDeletedUnread) data.conversationId
    client.userId
  emitToConversation data.conversationId client (.messageDeleted data.messageIds)
  return none

end MainWebSocketGateway

/-- The chat events, with payloads that satisfy their DTOs. -/
inductive ChatEvent
  | conversationSubscribe (conversationId : Nat)
  | conversationUnsubscribe (conversationId : Nat)
  | messageSend (data : WsMessageSendRequestDto)
  | messageRead (data : WsMessageReadRequestDto)
  | messageEdit (data : WsMessageEditRequestDto)
  | messageDelete (data : WsMessageDeleteRequestDto)

namespace ChatEvent

open MainWebSocketGateway

/-- The conversation an event names. -/
def conversationId : ChatEvent → Nat
  | conversationSubscribe conversationId => conversationId
  | conversationUnsubscribe conversationId => conversationId
  | messageSend data => data.conversationId
  | messageRead data => data.conversationId
  | messageEdit data => data.conversationId
  | messageDelete data => data.conversationId

/-- The handler subscribed to an event; it answers with the message, if there is
one to show. -/
def handle (now : Int) (client : Socket) :
    ChatEvent → ChatCall (Option Message)
  | conversationSubscribe conversationId =>
      handleConversationSubscribe conversationId client
  | conversationUnsubscribe conversationId =>
      handleConversationUnsubscribe conversationId client
  | messageSend data => handleSendMessage now data client
  | messageRead data => handleReadMessages data client
  | messageEdit data => handleEditMessage data client
  | messageDelete data => handleDeleteMessages data client

end ChatEvent

/-- A whole event of a socket at a time. -/
structure SocketEvent where
  now : Int
  client : Socket
  event : ChatEvent

/-- The store after a whole event, whatever it was answered. -/
def chatStep (store : ChatStore) (label : SocketEvent) : Option ChatStore :=
  some (run (label.event.handle label.now label.client) store).2

end SpareSpace
