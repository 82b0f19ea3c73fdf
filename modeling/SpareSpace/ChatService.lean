import SpareSpace.KeyedTable
import SpareSpace.FallibleState
import Mathlib.Data.List.MinMax
import Mathlib.Data.Prod.Lex

/-!
# The chat service

Conversations of two users, and their messages.  A query that joins the
conversation does not see one that is softly deleted, nor its messages; an
update names its rows by their own columns.  Of messages sent at one time the
one with the greater id counts as the last.  The time stamps `createdAt`,
`updatedAt` and `readAt` are left out.
-/

namespace SpareSpace

open Fallible

/-- Times of sending and ids are compared by the computable linear order. -/
instance sentOrderPreorder : Preorder (Lex (Int × Nat)) :=
  (Prod.Lex.instLinearOrder Int Nat).toPreorder

structure Conversation where
  id : Nat
  participant1 : Nat
  participant2 : Nat
  listingId : Option Nat
  lastMessageAt : Option Int
  deletedAt : Option Int
  deriving DecidableEq, Repr

structure Message where
  id : Nat
  conversationId : Nat
  senderId : Nat
  text : String
  isRead : Bool
  sentAt : Int
  deriving DecidableEq, Repr

/-- The exceptions of the chat. -/
inductive ChatException
  | conversationNotFound (conversationId : Nat)
  | conversationAccessDenied (conversationId userId : Nat)
  | messageNotFound (messageId : Nat)
  | messageAccessDenied (messageIds : List Nat) (conversationId userId : Nat)
  | queryFailed (message : String)
  deriving DecidableEq, Repr

def ChatException.message : ChatException → String
  | conversationNotFound conversationId =>
      s!"Conversation with id {conversationId} not found"
  | conversationAccessDenied conversationId userId =>
      s!"User {userId} does not have access to conversation {conversationId}"
  | messageNotFound messageId => s!"Message with id {messageId} not found"
  | messageAccessDenied messageIds conversationId userId =>
      let ids := ", ".intercalate (messageIds.map toString)
      s!"User {userId} lacks permission for messages [{ids}] in conversation " ++
        s!"{conversationId}. "
  | queryFailed message => message

def Conversation.has (conversation : Conversation) (userId : Nat) : Bool :=
  userId == conversation.participant1 || userId == conversation.participant2

/-- The tables of the chat. -/
structure ChatTables where
  conversations : KeyedTable Conversation Conversation.id
  messages : KeyedTable Message Message.id

namespace ChatTables

variable (tables : ChatTables)

/-- A conversation that is not softly deleted. -/
def liveConversation (conversationId : Nat) : Option Conversation :=
  (tables.conversations.find? conversationId).filter fun conversation =>
    conversation.deletedAt.isNone

/-- `messageRepository.find` in a conversation. -/
def messagesIn (conversationId : Nat) (condition : Message → Bool) :
    List Message :=
  if (tables.liveConversation conversationId).isSome then
    tables.messages.rows.filter fun message =>
      message.conversationId == conversationId && condition message
  else
    []

def getLastMessage (conversationId : Nat) : Option Message :=
  (tables.messagesIn conversationId fun _ => true).argmax fun message =>
    toLex (message.sentAt, message.id)

/-- The condition of `getUnreadMessageIds`. -/
def unread (userId : Nat) (isSender : Bool) (message : Message) : Bool :=
  !message.isRead && (message.senderId == userId) == isSender

def getUnreadMessageIds (conversationId userId : Nat) (isSender : Bool) :
    List Nat :=
  (tables.messagesIn conversationId (unread userId isSender)).map Message.id

/-- `conversationRepository.update` of the time of the last message. -/
def setLastMessageAt (conversationId : Nat) (lastMessageAt : Option Int) :
    ChatTables :=
  { tables with
    conversations := tables.conversations.mapRows
      (fun conversation =>
        if conversation.id = conversationId then
          { conversation with lastMessageAt := lastMessageAt }
        else
          conversation)
      fun conversation => by split <;> rfl }

/-- `messageRepository.save` of a new message. -/
def insertMessage (now : Int) (conversationId senderId : Nat) (text : String) :
    ChatTables :=
  { tables with
    messages := tables.messages.insert
      (fun id => ⟨id, conversationId, senderId, text, false, now⟩) fun _ => rfl }

/-- `messageRepository.update` of the rows that meet a condition. -/
def updateMessages (condition : Message → Bool) (change : Message → Message)
    (keeps : ∀ message, (change message).id = message.id) : ChatTables :=
  { tables with
    messages := tables.messages.mapRows
      (fun message => if condition message then change message else message)
      fun message => by
        split
        · exact keeps message
        · rfl }

/-- `messageRepository.delete` by ids. -/
def deleteByIds (messageIds : List Nat) : ChatTables :=
  { tables with
    messages := tables.messages.deleteWhere fun message =>
      messageIds.contains message.id }

/-- The condition of `markMessagesAsRead`. -/
def readable (conversationId readerId : Nat) (messageIds : Option (List Nat))
    (message : Message) : Bool :=
  message.conversationId == conversationId && !message.isRead &&
    message.senderId != readerId &&
    messageIds.all fun ids => ids.isEmpty || ids.contains message.id

/-- The update of `markMessagesAsRead`. -/
def setRead (conversationId readerId : Nat) (messageIds : Option (List Nat)) :
    ChatTables :=
  tables.updateMessages (readable conversationId readerId messageIds)
    (fun message => { message with isRead := true }) fun _ => rfl

/-- The update of `editMessage`. -/
def setText (messageId : Nat) (newText : String) : ChatTables :=
  tables.updateMessages (fun message => message.id == messageId)
    (fun message => { message with text := newText }) fun _ => rfl

variable {tables} {message : Message}

/-- Messages in the order of sending. -/
def sentOrder (message : Message) : Lex (Int × Nat) :=
  toLex (message.sentAt, message.id)

/-- What is found in a conversation is stored and of this conversation. -/
theorem mem_messagesIn {conversationId : Nat} {condition : Message → Bool}
    (present : message ∈ tables.messagesIn conversationId condition) :
    message ∈ tables.messages.rows ∧ message.conversationId = conversationId ∧
      condition message = true := by
  unfold messagesIn at present
  split at present
  · simp only [List.mem_filter, Bool.and_eq_true, beq_iff_eq] at present
    exact present
  · contradiction

theorem getLastMessage_eq_none_iff {conversationId : Nat} :
    tables.getLastMessage conversationId = none ↔
      tables.messagesIn conversationId (fun _ => true) = [] :=
  List.argmax_eq_none

/-- The last message is the greatest in the order of sending. -/
theorem getLastMessage_eq_some_iff {conversationId : Nat} :
    tables.getLastMessage conversationId = some message ↔
      message ∈ tables.messagesIn conversationId (fun _ => true) ∧
        ∀ other ∈ tables.messagesIn conversationId (fun _ => true),
          sentOrder other ≤ sentOrder message := by
  unfold getLastMessage
  rw [← Option.mem_def, List.mem_argmax_iff]
  constructor
  · rintro ⟨present, greatest, _⟩
    exact ⟨present, greatest⟩
  · rintro ⟨present, greatest⟩
    refine ⟨present, greatest, fun other otherMem atLeast => ?_⟩
    have same : sentOrder other = sentOrder message :=
      le_antisymm (greatest other otherMem) atLeast
    obtain rfl := tables.messages.eq_of_key_eq (mem_messagesIn otherMem).1
      (mem_messagesIn present).1 (congrArg (fun order => (ofLex order).2) same)
    exact le_rfl

theorem mem_insertMessage_iff {now : Int} {conversationId senderId : Nat}
    {text : String} :
    message ∈ (tables.insertMessage now conversationId senderId text).messages.rows ↔
      message ∈ tables.messages.rows ∨
        message = ⟨tables.messages.nextId, conversationId, senderId, text, false,
          now⟩ :=
  KeyedTable.mem_insert_iff _ _ _

theorem mem_setRead_iff {conversationId readerId : Nat}
    {messageIds : Option (List Nat)} :
    message ∈ (tables.setRead conversationId readerId messageIds).messages.rows ↔
      ∃ old ∈ tables.messages.rows,
        (if readable conversationId readerId messageIds old then
          { old with isRead := true } else old) = message :=
  List.mem_map

theorem mem_setText_iff {messageId : Nat} {newText : String} :
    message ∈ (tables.setText messageId newText).messages.rows ↔
      ∃ old ∈ tables.messages.rows,
        (if old.id == messageId then { old with text := newText } else old) =
          message :=
  List.mem_map

theorem mem_deleteByIds_iff {messageIds : List Nat} :
    message ∈ (tables.deleteByIds messageIds).messages.rows ↔
      message ∈ tables.messages.rows ∧ message.id ∉ messageIds := by
  simp [deleteByIds, KeyedTable.mem_deleteWhere_iff]

end ChatTables

end SpareSpace
