import SpareSpace.ChatGateway

/-!
# What a chat event does

An event is refused and leaves no trace, or its socket belongs to a participant
and the handler runs to its end.  The id of the last message cannot be queried: an
edition stops there when the message has been changed and before anybody is told,
and a deletion before anything is removed.
-/

namespace SpareSpace

open Fallible

namespace ChatTables

variable (tables : ChatTables)

/-- The time of the last message is no part of who takes part. -/
theorem liveConversation_setLastMessageAt (conversationId other : Nat)
    (lastMessageAt : Option Int) :
    (tables.setLastMessageAt conversationId lastMessageAt).liveConversation other =
      (tables.liveConversation other).map fun conversation =>
        if conversation.id = conversationId then
          { conversation with lastMessageAt := lastMessageAt }
        else
          conversation := by
  unfold liveConversation setLastMessageAt
  rw [KeyedTable.find?_mapRows]
  cases tables.conversations.find? other with
  | none => rfl
  | some conversation =>
      by_cases same : conversation.id = conversationId
      · cases deleted : conversation.deletedAt <;>
          simp [same, Option.filter, deleted]
      · cases deleted : conversation.deletedAt <;>
          simp [same, Option.filter, deleted]

end ChatTables

/-- The participant who is not the given one. -/
def Conversation.other (conversation : Conversation) (userId : Nat) : Nat :=
  if userId = conversation.participant1 then
    conversation.participant2
  else
    conversation.participant1

/-- The user takes part in a live conversation. -/
def ChatTables.Participates (tables : ChatTables) (conversationId userId : Nat) :
    Prop :=
  ∃ conversation, tables.liveConversation conversationId = some conversation ∧
    conversation.has userId = true

/-- Setting the time of the last message keeps a live conversation and its
participants. -/
theorem ChatTables.live_of_touched {tables : ChatTables} {conversationId : Nat}
    {conversation : Conversation}
    (live : tables.liveConversation conversationId = some conversation)
    (lastMessageAt : Option Int) :
    ∃ touched, (tables.setLastMessageAt conversationId
        lastMessageAt).liveConversation conversationId = some touched ∧
      touched.has = conversation.has ∧ touched.other = conversation.other := by
  rw [liveConversation_setLastMessageAt, live, Option.map_some]
  refine ⟨_, rfl, ?_, ?_⟩
  · split <;> rfl
  · split <;> rfl

namespace ChatService

variable {store : ChatStore} {conversationId userId : Nat}
  {conversation : Conversation}

theorem has_iff :
    conversation.has userId = true ↔
      userId = conversation.participant1 ∨ userId = conversation.participant2 := by
  simp [Conversation.has]

theorem run_verifyConversationAccess
    (live : store.liveConversation conversationId = some conversation)
    (has : conversation.has userId = true) :
    run (verifyConversationAccess conversationId userId) store =
      (.ok (), store) := by
  unfold verifyConversationAccess findConversationById
  rw [run_bind, run_reads, live]
  simp only
  rw [if_neg]
  · rfl
  · rcases has_iff.mp has with same | same <;> simp [same]

/-- Whoever is no participant is turned away. -/
theorem verifyConversationAccess_cases (store : ChatStore)
    (conversationId userId : Nat) :
    (∃ error, run (verifyConversationAccess conversationId userId) store =
        (.error error, store) ∧
      ¬ store.Participates conversationId userId) ∨
      (run (verifyConversationAccess conversationId userId) store =
          (.ok (), store) ∧
        store.Participates conversationId userId) := by
  cases live : store.liveConversation conversationId with
  | none =>
      refine Or.inl ⟨.conversationNotFound conversationId, ?_, ?_⟩
      · unfold verifyConversationAccess findConversationById
        rw [run_bind, run_reads, live]
      · rintro ⟨conversation, found, _⟩
        rw [live] at found
        contradiction
  | some conversation =>
      by_cases has : conversation.has userId = true
      · exact Or.inr ⟨run_verifyConversationAccess live has, conversation, live, has⟩
      · refine Or.inl ⟨.conversationAccessDenied conversationId userId, ?_, ?_⟩
        · unfold verifyConversationAccess findConversationById
          rw [run_bind, run_reads, live]
          simp only
          rw [if_pos]
          · rfl
          · rw [has_iff, not_or] at has
            exact has
        · rintro ⟨other, found, takesPart⟩
          obtain rfl := Option.some.inj (live.symm.trans found)
          exact has takesPart

theorem run_getOtherParticipantId
    (live : store.liveConversation conversationId = some conversation)
    (has : conversation.has userId = true) :
    run (getOtherParticipantId conversationId userId) store =
      (.ok (conversation.other userId), store) := by
  unfold getOtherParticipantId findConversationById Conversation.other
  rw [run_bind, run_reads, live]
  simp only
  by_cases first : userId = conversation.participant1
  · rw [if_pos first, if_pos first]
    rfl
  · have second := (has_iff.mp has).resolve_left first
    rw [if_neg first, if_pos second, if_neg first]
    rfl

/-- What `sendMessage` writes. -/
def sent (tables : ChatTables) (now : Int) (conversationId senderId : Nat)
    (text : String) : ChatTables :=
  (tables.insertMessage now conversationId senderId text).setLastMessageAt
    conversationId (some now)

/-- The message that `sendMessage` returns. -/
def newMessage (tables : ChatTables) (now : Int) (conversationId senderId : Nat)
    (text : String) : Message :=
  ⟨tables.messages.nextId, conversationId, senderId, text, false, now⟩

theorem run_sendMessage (store : ChatStore) (now : Int)
    (conversationId senderId : Nat) (text : String) :
    run (sendMessage now conversationId senderId text) store =
      (.ok (newMessage store.toChatTables now conversationId senderId text),
        store.withTables (sent store.toChatTables now conversationId senderId
          text)) := by
  unfold sendMessage
  rw [run_bind, run_updates]
  simp only
  rw [run_bind, run_updates]
  simp only
  unfold findMessageById
  rw [run_reads]
  have found := store.messages.find?_insert
    (fun id => (⟨id, conversationId, senderId, text, false, now⟩ : Message))
    (fun _ => rfl) store.messages.nextId
  rw [if_pos rfl] at found
  simp only [ChatStore.withTables, ChatTables.setLastMessageAt,
    ChatTables.insertMessage, found]
  rfl

theorem markMessagesAsRead_cases (store : ChatStore)
    (conversationId readerId : Nat) (messageIds : Option (List Nat)) :
    (∃ error, run (markMessagesAsRead conversationId readerId messageIds) store =
        (.error error, store)) ∨
      run (markMessagesAsRead conversationId readerId messageIds) store =
        (.ok (), store.withTables
          (store.setRead conversationId readerId messageIds)) := by
  unfold markMessagesAsRead
  rw [run_bind, run_reads]
  cases checkReadable store conversationId readerId messageIds with
  | error error => exact Or.inl ⟨error, rfl⟩
  | ok => exact Or.inr rfl

theorem run_editMessage {message : Message} (newText : String)
    (found : store.messages.find? message.id = some message) :
    run (editMessage message.id newText) store =
      (.ok { message with text := newText },
        store.withTables (store.setText message.id newText)) := by
  unfold editMessage
  rw [run_bind, run_updates]
  simp only
  unfold findMessageById
  rw [run_reads]
  simp only [ChatStore.withTables, ChatTables.setText, ChatTables.updateMessages,
    KeyedTable.find?_mapRows, found, Option.map_some, beq_self_eq_true, if_true]

theorem verifyMessageOwnership_cases (store : ChatStore) (messageIds : List Nat)
    (conversationId userId : Nat) :
    (∃ error, run (verifyMessageOwnership messageIds conversationId userId) store =
        (.error error, store)) ∨
      (run (verifyMessageOwnership messageIds conversationId userId) store =
          (.ok (), store) ∧
        (store.messagesIn conversationId (owned messageIds userId)).length =
          messageIds.length) := by
  unfold verifyMessageOwnership
  rw [run_reads]
  split
  · exact Or.inl ⟨_, rfl⟩
  · next own => exact Or.inr ⟨rfl, not_not.mp own⟩

theorem owned_iff {messageIds : List Nat} {message : Message} :
    owned messageIds userId message = true ↔
      message.id ∈ messageIds ∧ message.senderId = userId := by
  simp [owned]

theorem nodup_messagesIn (tables : ChatTables) (conversationId : Nat)
    (condition : Message → Bool) :
    ((tables.messagesIn conversationId condition).map Message.id).Nodup := by
  unfold ChatTables.messagesIn
  split
  · exact (List.filter_sublist.map Message.id).nodup tables.messages.nodup
  · exact List.nodup_nil

/-- A query for given ids finds as many messages as ids were given exactly when the
conversation is live, no id is given twice, and each finds a message. -/
theorem length_messagesIn_eq_iff {tables : ChatTables} {messageIds : List Nat}
    {condition : Message → Bool}
    (asked : ∀ message, condition message = true → message.id ∈ messageIds)
    (nonempty : messageIds ≠ []) :
    (tables.messagesIn conversationId condition).length = messageIds.length ↔
      (tables.liveConversation conversationId).isSome ∧ messageIds.Nodup ∧
        ∀ id ∈ messageIds, ∃ message ∈ tables.messages.rows, message.id = id ∧
          message.conversationId = conversationId ∧ condition message = true := by
  have found : (tables.messagesIn conversationId condition).map Message.id ⊆
      messageIds := by
    intro other present
    obtain ⟨message, meets, rfl⟩ := List.mem_map.mp present
    exact asked message (ChatTables.mem_messagesIn meets).2.2
  have within := List.subperm_of_subset (nodup_messagesIn tables conversationId _) found
  constructor
  · intro same
    have all := within.perm_of_length_le (by rw [List.length_map, same])
    refine ⟨?_, all.nodup_iff.mp (nodup_messagesIn tables conversationId _), ?_⟩
    · by_contra gone
      rw [ChatTables.messagesIn, if_neg gone] at same
      exact nonempty (List.length_eq_zero_iff.mp same.symm)
    · intro id given
      obtain ⟨message, meets, same⟩ := List.mem_map.mp (all.mem_iff.mpr given)
      obtain ⟨stored, place, holds⟩ := ChatTables.mem_messagesIn meets
      exact ⟨message, stored, same, place, holds⟩
  · rintro ⟨live, distinct, each⟩
    have all : messageIds ⊆ (tables.messagesIn conversationId condition).map Message.id := by
      intro id given
      obtain ⟨message, stored, same, place, holds⟩ := each id given
      refine List.mem_map.mpr ⟨message, ?_, same⟩
      rw [ChatTables.messagesIn, if_pos live]
      simp [stored, place, holds]
    have covered := (List.subperm_of_subset distinct all).length_le
    have bounded := within.length_le
    rw [List.length_map] at covered bounded
    exact le_antisymm bounded covered

/-- If as many messages are found as ids were given, each id is one of them. -/
theorem message_of_owned {tables : ChatTables} {messageIds : List Nat}
    (own : (tables.messagesIn conversationId (owned messageIds userId)).length =
      messageIds.length) {id : Nat} (given : id ∈ messageIds) :
    ∃ message ∈ tables.messages.rows, message.id = id ∧
      message.conversationId = conversationId ∧ message.senderId = userId := by
  obtain ⟨_, _, each⟩ := (length_messagesIn_eq_iff
    (fun message holds => (owned_iff.mp holds).1) (List.ne_nil_of_mem given)).mp own
  obtain ⟨message, stored, same, place, holds⟩ := each id given
  exact ⟨message, stored, same, place, (owned_iff.mp holds).2⟩

end ChatService

/-- The two preview updates of an event, in the order in which they are sent. -/
def previewUpdates (tables : ChatTables) (conversationId recipientId userId : Nat) :
    List ChatEmission :=
  [.previewUpdate recipientId conversationId
      (tables.preview conversationId recipientId),
    .previewUpdate userId conversationId (tables.preview conversationId userId)]

/-- What an event that runs to its end leaves: its tables, the rooms as they
were, and its emissions. -/
structure ChatStore.Leaves (store after : ChatStore) (tables : ChatTables)
    (emissions : List ChatEmission) : Prop where
  tables : after.toChatTables = tables
  rooms : after.rooms = store.rooms
  emitted : after.emitted = store.emitted ++ emissions

theorem ChatStore.Leaves.refl (store : ChatStore) :
    store.Leaves store store.toChatTables [] :=
  ⟨rfl, rfl, (List.append_nil _).symm⟩

theorem ChatStore.Leaves.trans {store middle after : ChatStore}
    {tables other : ChatTables} {first second : List ChatEmission}
    (before : store.Leaves middle other first)
    (later : middle.Leaves after tables second) :
    store.Leaves after tables (first ++ second) := by
  refine ⟨later.tables, later.rooms.trans before.rooms, ?_⟩
  rw [later.emitted, before.emitted, List.append_assoc]

theorem ChatStore.leaves_withTables (store : ChatStore) (tables : ChatTables) :
    store.Leaves (store.withTables tables) tables [] :=
  ⟨rfl, rfl, (List.append_nil _).symm⟩

theorem ChatStore.leaves_emit (store : ChatStore) (emission : ChatEmission) :
    store.Leaves (store.emit emission) store.toChatTables [emission] :=
  ⟨rfl, rfl, rfl⟩

namespace MainWebSocketGateway

open ChatService

variable {store : ChatStore} {conversationId userId : Nat}
  {conversation : Conversation}

theorem notifyBoth_spec (recipientId userId conversationId : Nat)
    (store : ChatStore) :
    ∃ after, run (notifyBoth recipientId userId conversationId) store =
        (.ok (), after) ∧
      store.Leaves after store.toChatTables
        (previewUpdates store.toChatTables conversationId recipientId userId) :=
  ⟨_, rfl, (store.leaves_emit _).trans (ChatStore.leaves_emit _ _)⟩

theorem notifyParticipantsIf_spec (condition : Bool)
    (live : store.liveConversation conversationId = some conversation)
    (has : conversation.has userId = true) :
    ∃ after, run (notifyParticipantsIf condition conversationId userId) store =
        (.ok (), after) ∧
      store.Leaves after store.toChatTables
        (if condition then previewUpdates store.toChatTables conversationId
          (conversation.other userId) userId else []) := by
  unfold notifyParticipantsIf
  cases condition with
  | false => exact ⟨store, rfl, ChatStore.Leaves.refl store⟩
  | true =>
      obtain ⟨after, ran, leaves⟩ := notifyBoth_spec (conversation.other userId)
        userId conversationId store
      refine ⟨after, ?_, leaves⟩
      simp only [if_true]
      rw [run_bind_ok (run_getOtherParticipantId live has)]
      exact ran

/-- The end of a handler: it tells the participants if a condition holds, and the
room in any case. -/
theorem tell_spec (condition : Bool) (client : Socket) (event : RoomEvent)
    (answer : Option Message)
    (live : store.liveConversation conversationId = some conversation)
    (has : conversation.has client.userId = true) :
    ∃ after, run (do
        notifyParticipantsIf condition conversationId client.userId
        emitToConversation conversationId client event
        return answer) store = (.ok answer, after) ∧
      store.Leaves after store.toChatTables
        ((if condition then previewUpdates store.toChatTables conversationId
            (conversation.other client.userId) client.userId else []) ++
          [.toConversation conversationId client event]) := by
  obtain ⟨told, ran, leaves⟩ := notifyParticipantsIf_spec condition live has
  have emits := told.leaves_emit (.toConversation conversationId client event)
  rw [leaves.tables] at emits
  rw [run_bind_ok ran]
  exact ⟨_, rfl, leaves.trans emits⟩

theorem emitMessageNew_spec (recipientId : Nat) (message : Message)
    (client : Socket)
    (live : store.liveConversation conversationId = some conversation) :
    ∃ after, run (emitMessageNew conversationId recipientId message client) store =
        (.ok (), after) ∧
      store.Leaves after store.toChatTables
        (previewUpdates store.toChatTables conversationId recipientId
            client.userId ++
          [.toConversation conversationId client (.messageNew message)]) := by
  obtain ⟨told, ran, leaves⟩ := notifyBoth_spec recipientId client.userId
    conversationId store
  have emits := told.leaves_emit
    (.toConversation conversationId client (.messageNew message))
  rw [leaves.tables] at emits
  unfold emitMessageNew
  rw [run_bind_ok ran]
  have ranEmit : run (emitToConversation conversationId client
      (.messageNew message)) told = (.ok (), told.emit
        (.toConversation conversationId client (.messageNew message))) := rfl
  rw [run_bind_ok ranEmit, run_bind, run_reads]
  simp only
  split
  · have found : run (findConversationById conversationId)
        (told.emit (.toConversation conversationId client (.messageNew message))) =
        (.ok conversation, told.emit
          (.toConversation conversationId client (.messageNew message))) := by
      unfold findConversationById
      rw [run_reads, emits.tables, live]
    rw [run_bind_ok found]
    refine ⟨_, rfl, leaves.trans ?_⟩
    exact ⟨emits.tables, rfl, emits.emitted⟩
  · exact ⟨_, rfl, leaves.trans emits⟩

end MainWebSocketGateway

open ChatService in
/-- How an event may end: it is refused and leaves the store, or it runs to its
end.  An edition leaves the changed message and no emission. -/
inductive ChatOutcome (store : ChatStore) : SocketEvent → ChatStore → Prop
  | refused {label} : ChatOutcome store label store
  | subscribed {now client conversationId}
      (participates : store.Participates conversationId client.userId) :
      ChatOutcome store ⟨now, client, .conversationSubscribe conversationId⟩
        (store.join conversationId client)
  | unsubscribed {now client conversationId} :
      ChatOutcome store ⟨now, client, .conversationUnsubscribe conversationId⟩
        (store.leave conversationId client)
  | sent {now client data conversation after}
      (live : store.liveConversation data.conversationId = some conversation)
      (has : conversation.has client.userId = true)
      (leaves : store.Leaves after
        (sent store.toChatTables now data.conversationId client.userId data.text)
        (previewUpdates
            (sent store.toChatTables now data.conversationId client.userId
              data.text)
            data.conversationId (conversation.other client.userId)
            client.userId ++
          [.toConversation data.conversationId client (.messageNew
            (newMessage store.toChatTables now data.conversationId client.userId
              data.text))])) :
      ChatOutcome store ⟨now, client, .messageSend data⟩ after
  | read {now client data conversation tables after}
      (live : store.liveConversation data.conversationId = some conversation)
      (has : conversation.has client.userId = true)
      (marked : tables = store.setRead data.conversationId client.userId
        data.messageIds)
      (leaves : store.Leaves after tables
        ((if (tables.getLastMessage data.conversationId).map Message.isRead !=
            (store.getLastMessage data.conversationId).map Message.isRead then
          previewUpdates tables data.conversationId
            (conversation.other client.userId) client.userId else []) ++
          [.toConversation data.conversationId client
            (.messageReadUpdate client.userId data.messageIds)])) :
      ChatOutcome store ⟨now, client, .messageRead data⟩ after
  | edited {now client data conversation}
      (live : store.liveConversation data.conversationId = some conversation)
      (has : conversation.has client.userId = true)
      (own : (store.messagesIn data.conversationId
        (owned [data.messageId] client.userId)).length = 1) :
      ChatOutcome store ⟨now, client, .messageEdit data⟩
        (store.withTables (store.setText data.messageId data.newText))

namespace MainWebSocketGateway

open ChatService

theorem handleSendMessage_outcome (store : ChatStore) (now : Int)
    (data : WsMessageSendRequestDto) (client : Socket) :
    ChatOutcome store ⟨now, client, .messageSend data⟩
      (run (handleSendMessage now data client) store).2 := by
  unfold handleSendMessage
  rcases verifyConversationAccess_cases store data.conversationId client.userId with
    ⟨error, refused, _⟩ | ⟨passed, conversation, live, has⟩
  · rw [run_bind, refused]
    exact .refused
  · rw [run_bind_ok passed, run_bind_ok (run_sendMessage _ _ _ _ _)]
    obtain ⟨touched, liveAfter, sameHas, sameOther⟩ := @ChatTables.live_of_touched
      (store.insertMessage now data.conversationId client.userId data.text) _ _
      live (some now)
    rw [← sameHas] at has
    rw [run_bind_ok (run_getOtherParticipantId liveAfter has)]
    obtain ⟨after, ran, leaves⟩ := @emitMessageNew_spec
      (store.withTables
        (sent store.toChatTables now data.conversationId client.userId data.text))
      _ _ (touched.other client.userId)
      (newMessage store.toChatTables now data.conversationId client.userId data.text)
      client liveAfter
    rw [run_bind_ok ran]
    rw [sameHas] at has
    rw [sameOther] at leaves
    exact .sent live has ((store.leaves_withTables _).trans leaves)

theorem handleReadMessages_outcome (store : ChatStore) (now : Int)
    (data : WsMessageReadRequestDto) (client : Socket) :
    ChatOutcome store ⟨now, client, .messageRead data⟩
      (run (handleReadMessages data client) store).2 := by
  unfold handleReadMessages
  rcases verifyConversationAccess_cases store data.conversationId client.userId with
    ⟨error, refused, _⟩ | ⟨passed, conversation, live, has⟩
  · rw [run_bind, refused]
    exact .refused
  · rw [run_bind_ok passed]
    unfold lastMessageRead
    rw [run_bind, run_reads]
    simp only
    rcases markMessagesAsRead_cases store data.conversationId client.userId
      data.messageIds with ⟨error, denied⟩ | marks
    · rw [run_bind, denied]
      exact .refused
    · rw [run_bind_ok marks, run_bind, run_reads]
      simp only
      obtain ⟨after, ran, leaves⟩ := @tell_spec
        (store.withTables (store.setRead data.conversationId client.userId
          data.messageIds)) _ _
        (((store.withTables (store.setRead data.conversationId client.userId
            data.messageIds)).getLastMessage data.conversationId).map
            Message.isRead !=
          (store.getLastMessage data.conversationId).map Message.isRead)
        client (.messageReadUpdate client.userId data.messageIds) none live has
      rw [ran]
      exact .read live has rfl ((store.leaves_withTables _).trans leaves)

/-- An edition of one's own message changes it and ends with the error of the query for the
last message. -/
theorem run_handleEditMessage {data : WsMessageEditRequestDto} {client : Socket}
    (live : store.liveConversation data.conversationId = some conversation)
    (has : conversation.has client.userId = true)
    (own : (store.messagesIn data.conversationId
      (owned [data.messageId] client.userId)).length = 1) :
    ∃ error, run (handleEditMessage data client) store =
      (.error error, store.withTables (store.setText data.messageId data.newText)) := by
  have owns : run (verifyMessageOwnership [data.messageId] data.conversationId client.userId)
      store = (.ok (), store) := by
    unfold verifyMessageOwnership
    rw [run_reads, own, if_neg]
    exact not_not.mpr rfl
  obtain ⟨message, mine⟩ := List.exists_mem_of_length_pos (by
    rw [own]
    exact Nat.one_pos)
  obtain ⟨stored, _, condition⟩ := ChatTables.mem_messagesIn mine
  have same := List.mem_singleton.mp (owned_iff.mp condition).1
  have edits := run_editMessage data.newText (store.messages.find?_key_of_mem stored)
  rw [same] at edits
  unfold handleEditMessage
  rw [run_bind_ok (run_verifyConversationAccess live has), run_bind_ok owns,
    run_bind_ok edits]
  exact ⟨_, rfl⟩

theorem handleEditMessage_outcome (store : ChatStore) (now : Int)
    (data : WsMessageEditRequestDto) (client : Socket) :
    ChatOutcome store ⟨now, client, .messageEdit data⟩
      (run (handleEditMessage data client) store).2 := by
  rcases verifyConversationAccess_cases store data.conversationId client.userId with
    ⟨error, refused, _⟩ | ⟨passed, conversation, live, has⟩
  · unfold handleEditMessage
    rw [run_bind, refused]
    exact .refused
  · rcases verifyMessageOwnership_cases store [data.messageId] data.conversationId
      client.userId with ⟨error, denied⟩ | ⟨owns, own⟩
    · unfold handleEditMessage
      rw [run_bind_ok passed, run_bind, denied]
      exact .refused
    · obtain ⟨error, ran⟩ := run_handleEditMessage live has own
      rw [ran]
      exact .edited live has own

/-- A deletion always ends with an error, and deletes nothing. -/
theorem run_handleDeleteMessages (store : ChatStore) (data : WsMessageDeleteRequestDto)
    (client : Socket) :
    ∃ error, run (handleDeleteMessages data client) store = (.error error, store) := by
  unfold handleDeleteMessages
  rcases verifyMessageOwnership_cases store data.messageIds data.conversationId
    client.userId with ⟨error, denied⟩ | ⟨owns, -⟩
  · rw [run_bind, denied]
    exact ⟨error, rfl⟩
  · rw [run_bind_ok owns]
    exact ⟨_, rfl⟩

theorem handleConversationSubscribe_outcome (store : ChatStore) (now : Int)
    (conversationId : Nat) (client : Socket) :
    ChatOutcome store ⟨now, client, .conversationSubscribe conversationId⟩
      (run (handleConversationSubscribe conversationId client) store).2 := by
  unfold handleConversationSubscribe
  rcases verifyConversationAccess_cases store conversationId client.userId with
    ⟨error, refused, _⟩ | ⟨passed, participates⟩
  · rw [run_bind, refused]
    exact .refused
  · rw [run_bind_ok passed]
    exact .subscribed participates

end MainWebSocketGateway

open MainWebSocketGateway

/-- Every whole event ends in one of these ways. -/
theorem chatOutcome_of_step {store after : ChatStore} {label : SocketEvent}
    (taken : chatStep store label = some after) : ChatOutcome store label after := by
  obtain rfl := Option.some.inj taken
  obtain ⟨now, client, event⟩ := label
  cases event with
  | conversationSubscribe conversationId =>
      exact handleConversationSubscribe_outcome store now conversationId client
  | conversationUnsubscribe conversationId => exact .unsubscribed
  | messageSend data => exact handleSendMessage_outcome store now data client
  | messageRead data => exact handleReadMessages_outcome store now data client
  | messageEdit data => exact handleEditMessage_outcome store now data client
  | messageDelete data =>
      obtain ⟨error, ran⟩ := run_handleDeleteMessages store data client
      change ChatOutcome store _ (run (handleDeleteMessages data client) store).2
      rw [ran]
      exact .refused

end SpareSpace
