import SpareSpace.ChatOutcomes
import SpareSpace.TransitionRuns

/-!
# Who sees and changes a conversation

Rooms admit participants, and messages are sent by participants and changed by
their senders.  The deletion of messages asks for nothing but their ownership, and
removes none.
-/

namespace SpareSpace

open ChatService Fallible TransitionRuns

/-- The user is one of the two participants of a stored conversation. -/
def ChatTables.TakesPart (tables : ChatTables) (conversationId userId : Nat) :
    Prop :=
  ∃ conversation, tables.conversations.find? conversationId = some conversation ∧
    conversation.has userId = true

/-- Sockets in rooms, and senders of messages, take part. -/
structure ChatStore.Confined (store : ChatStore) : Prop where
  rooms : ∀ member ∈ store.rooms, store.TakesPart member.1 member.2.userId
  senders : ∀ message ∈ store.messages.rows,
    store.TakesPart message.conversationId message.senderId

section TakingPart

variable {tables : ChatTables} {conversationId userId : Nat}

theorem takesPart_of_live {conversation : Conversation}
    (live : tables.liveConversation conversationId = some conversation)
    (has : conversation.has userId = true) :
    tables.TakesPart conversationId userId :=
  ⟨conversation, (Option.filter_eq_some_iff.mp live).1, has⟩

theorem takesPart_of_participates
    (participates : tables.Participates conversationId userId) :
    tables.TakesPart conversationId userId := by
  obtain ⟨conversation, live, has⟩ := participates
  exact takesPart_of_live live has

theorem has_of_takesPart {conversation : Conversation}
    (live : tables.liveConversation conversationId = some conversation)
    (takesPart : tables.TakesPart conversationId userId) :
    conversation.has userId = true := by
  obtain ⟨other, found, has⟩ := takesPart
  rw [(Option.filter_eq_some_iff.mp live).1] at found
  obtain rfl := Option.some.inj found
  exact has

/-- The time of the last message does not matter. -/
theorem takesPart_touched_iff (touched : Nat) (lastMessageAt : Option Int) :
    (tables.setLastMessageAt touched lastMessageAt).TakesPart conversationId
        userId ↔
      tables.TakesPart conversationId userId := by
  unfold ChatTables.TakesPart ChatTables.setLastMessageAt
  simp only [KeyedTable.find?_mapRows, Option.map_eq_some_iff]
  constructor
  · rintro ⟨_, ⟨conversation, found, rfl⟩, has⟩
    refine ⟨conversation, found, ?_⟩
    split at has <;> exact has
  · rintro ⟨conversation, found, has⟩
    refine ⟨_, ⟨conversation, found, rfl⟩, ?_⟩
    split <;> exact has

end TakingPart

namespace ChatOutcome

variable {store after : ChatStore} {label : SocketEvent}

/-- Whoever takes part does so after any event. -/
theorem takesPart_iff (outcome : ChatOutcome store label after)
    (conversationId userId : Nat) :
    after.TakesPart conversationId userId ↔
      store.TakesPart conversationId userId := by
  cases outcome with
  | refused => exact Iff.rfl
  | subscribed participates => exact Iff.rfl
  | unsubscribed => exact Iff.rfl
  | sent live has leaves =>
      rw [leaves.tables]
      exact takesPart_touched_iff _ _
  | read live has marked leaves =>
      rw [leaves.tables, marked]
      exact Iff.rfl
  | edited => exact Iff.rfl

/-- The messages after an event: those of before, perhaps changed in flag or
text, and perhaps a new one by the socket's user, who takes part. -/
theorem mem_messages (outcome : ChatOutcome store label after) {message : Message}
    (present : message ∈ after.messages.rows) :
    (∃ old ∈ store.messages.rows, old.id = message.id ∧
      old.conversationId = message.conversationId ∧
        old.senderId = message.senderId) ∨
      (message.senderId = label.client.userId ∧
        store.TakesPart message.conversationId message.senderId) := by
  cases outcome with
  | refused => exact Or.inl ⟨message, present, rfl, rfl, rfl⟩
  | subscribed participates => exact Or.inl ⟨message, present, rfl, rfl, rfl⟩
  | unsubscribed => exact Or.inl ⟨message, present, rfl, rfl, rfl⟩
  | sent live has leaves =>
      rw [leaves.tables] at present
      rcases ChatTables.mem_insertMessage_iff.mp present with old | rfl
      · exact Or.inl ⟨message, old, rfl, rfl, rfl⟩
      · exact Or.inr ⟨rfl, takesPart_of_live live has⟩
  | read live has marked leaves =>
      rw [leaves.tables, marked] at present
      obtain ⟨old, oldMem, rfl⟩ := ChatTables.mem_setRead_iff.mp present
      refine Or.inl ⟨old, oldMem, ?_⟩
      split <;> exact ⟨rfl, rfl, rfl⟩
  | edited =>
      obtain ⟨old, oldMem, rfl⟩ := ChatTables.mem_setText_iff.mp present
      refine Or.inl ⟨old, oldMem, ?_⟩
      split <;> exact ⟨rfl, rfl, rfl⟩

/-- The sockets in rooms after an event: those of before, and perhaps the
event's own, whose user takes part. -/
theorem mem_rooms (outcome : ChatOutcome store label after) {member : Nat × Socket}
    (present : member ∈ after.rooms) :
    member ∈ store.rooms ∨ store.TakesPart member.1 member.2.userId := by
  cases outcome with
  | refused => exact Or.inl present
  | subscribed participates =>
      simp only [ChatStore.join] at present
      split at present
      · exact Or.inl present
      · rcases List.mem_append.mp present with old | new
        · exact Or.inl old
        · rw [List.mem_singleton.mp new]
          exact Or.inr (takesPart_of_participates participates)
  | unsubscribed => exact Or.inl (List.mem_of_mem_filter present)
  | sent live has leaves => exact Or.inl (leaves.rooms ▸ present)
  | read live has marked leaves => exact Or.inl (leaves.rooms ▸ present)
  | edited => exact Or.inl present

theorem confined (outcome : ChatOutcome store label after)
    (before : store.Confined) : after.Confined := by
  constructor
  · intro member present
    rw [outcome.takesPart_iff]
    rcases outcome.mem_rooms present with old | new
    · exact before.rooms member old
    · exact new
  · intro message present
    rw [outcome.takesPart_iff]
    rcases outcome.mem_messages present with ⟨old, oldMem, _, place, sender⟩ | ⟨_, new⟩
    · rw [← place, ← sender]
      exact before.senders old oldMem
    · exact new

/-- A message of somebody else is there after the event, with the same text. -/
theorem others_kept (outcome : ChatOutcome store label after) {message : Message}
    (present : message ∈ store.messages.rows)
    (others : message.senderId ≠ label.client.userId) :
    ∃ isRead, { message with isRead := isRead } ∈ after.messages.rows := by
  cases outcome with
  | refused => exact ⟨message.isRead, present⟩
  | subscribed participates => exact ⟨message.isRead, present⟩
  | unsubscribed => exact ⟨message.isRead, present⟩
  | sent live has leaves =>
      rw [leaves.tables]
      exact ⟨message.isRead, ChatTables.mem_insertMessage_iff.mpr (Or.inl present)⟩
  | @read now client data _ _ _ live has marked leaves =>
      rw [leaves.tables, marked]
      by_cases readable : ChatTables.readable data.conversationId client.userId
          data.messageIds message = true
      · exact ⟨true, ChatTables.mem_setRead_iff.mpr
          ⟨message, present, if_pos readable⟩⟩
      · exact ⟨message.isRead, ChatTables.mem_setRead_iff.mpr
          ⟨message, present, if_neg readable⟩⟩
  | edited live has own =>
      refine ⟨message.isRead, ChatTables.mem_setText_iff.mpr
        ⟨message, present, if_neg fun named => ?_⟩⟩
      obtain ⟨other, otherMem, same, _, sender⟩ :=
        message_of_owned own List.mem_cons_self
      obtain rfl := store.messages.eq_of_key_eq present otherMem
        ((beq_iff_eq.mp named).trans same.symm)
      exact others sender

/-- An event by somebody who takes no part leaves no trace, unless it only
leaves a room. -/
theorem refused_of_stranger (outcome : ChatOutcome store label after)
    (stranger : ¬ store.TakesPart label.event.conversationId label.client.userId)
    (enters : ∀ conversationId,
      label.event ≠ .conversationUnsubscribe conversationId) : after = store := by
  cases outcome with
  | refused => rfl
  | subscribed participates =>
      exact absurd (takesPart_of_participates participates) stranger
  | unsubscribed => exact absurd rfl (enters _)
  | sent live has leaves => exact absurd (takesPart_of_live live has) stranger
  | read live has marked leaves => exact absurd (takesPart_of_live live has) stranger
  | edited live has => exact absurd (takesPart_of_live live has) stranger

end ChatOutcome

theorem confined_of_reachable {start last : ChatStore}
    (noRooms : start.rooms = []) (noMessages : start.messages.rows = [])
    (reached : Reachable chatStep start last) : last.Confined := by
  have atStart : start.Confined := by
    constructor
    · intro member present
      rw [noRooms] at present
      contradiction
    · intro message present
      rw [noMessages] at present
      contradiction
  exact Run.invariant ChatStore.Confined atStart
    (fun _ _ _ before _ taken => (chatOutcome_of_step taken).confined before)
    reached

/-- In every state that chat events lead to from empty rooms and no messages,
room members and senders take part; an event changes or deletes only messages of
its own user, and events that name a conversation by somebody who takes no part
in it change nothing. -/
theorem chat_confined {start last : ChatStore} (noRooms : start.rooms = [])
    (noMessages : start.messages.rows = [])
    (reached : Reachable chatStep start last) :
    last.Confined ∧ ∀ label after, chatStep last label = some after →
      (∀ message ∈ last.messages.rows, message.senderId ≠ label.client.userId →
        ∃ isRead, { message with isRead := isRead } ∈ after.messages.rows) ∧
      (¬ last.TakesPart label.event.conversationId label.client.userId →
        (∀ conversationId, label.event ≠ .conversationUnsubscribe conversationId) →
        after = last) := by
  have confined := confined_of_reachable noRooms noMessages reached
  refine ⟨confined, fun label after taken => ⟨?_, ?_⟩⟩
  · intro message present others
    exact (chatOutcome_of_step taken).others_kept present others
  · intro stranger enters
    exact (chatOutcome_of_step taken).refused_of_stranger stranger enters

/-- A chat of the users 1 and 2, empty. -/
def newChat : ChatStore where
  conversations := KeyedTable.empty.insert
    (fun id => ⟨id, 1, 2, none, none, none⟩) fun _ => rfl
  messages := KeyedTable.empty
  rooms := []
  emitted := []
  signals := []

def greeting : WsMessageSendRequestDto :=
  ⟨1, "hello", by decide, by decide⟩

/-- The participants talk. -/
def firstTalk : List SocketEvent :=
  [⟨1, ⟨20, 2⟩, .conversationSubscribe 1⟩, ⟨1, ⟨10, 1⟩, .messageSend greeting⟩]

/-- A stranger tries to delete the first message. -/
def strangerDeletes : SocketEvent :=
  ⟨2, ⟨30, 3⟩, .messageDelete ⟨1, [1], by decide⟩⟩

theorem chat_confined_sample :
    ∃ last, execute chatStep newChat firstTalk = some last ∧ last.Confined ∧
      chatStep last strangerDeletes = some last := by
  obtain ⟨last, executed⟩ : ∃ last, execute chatStep newChat firstTalk = some last :=
    ⟨_, rfl⟩
  have safe := chat_confined (rfl : newChat.rooms = []) rfl
    (reachable_of_execute chatStep newChat firstTalk executed)
  refine ⟨last, executed, safe.1, ?_⟩
  have refused := (safe.2 strangerDeletes _ rfl).2 ?_ ?_
  · exact congrArg some refused
  · obtain rfl := Option.some.inj executed
    rintro ⟨conversation, found, has⟩
    obtain rfl := Option.some.inj found
    exact absurd has (by decide)
  · intro conversationId
    exact ChatEvent.noConfusion

end SpareSpace
