import SpareSpace.ChatAccess
import SpareSpace.LatestUpdates

/-!
# The previews that clients show

An event on a conversation compares the last message before and after what it
changes, and tells both participants when a preview changes.  One exception is
documented: reading messages tells nobody while the flag of the last message stays,
although the reader then has fewer unread messages.  So as long as the last message
is not edited, the one on a client is the server's, and the whole preview is as long
as its user makes no such read either.
-/

namespace SpareSpace

open ChatService Fallible LatestUpdates TransitionRuns

section Messages

namespace ChatTables

variable {tables : ChatTables} {conversationId : Nat}

/-- What is found after an update of messages that keeps their conversation. -/
theorem messagesIn_updateMessages {condition : Message → Bool}
    {change : Message → Message}
    {keeps : ∀ message, (change message).id = message.id}
    (place : ∀ message, (change message).conversationId = message.conversationId)
    (wanted : Message → Bool) :
    (tables.updateMessages condition change keeps).messagesIn conversationId wanted =
      (tables.messagesIn conversationId fun message =>
        wanted (if condition message then change message else message)).map
          fun message => if condition message then change message else message := by
  unfold messagesIn
  change (if (tables.liveConversation conversationId).isSome then
    (List.map _ tables.messages.rows).filter _ else []) = _
  split
  · rw [List.filter_map]
    congr 2
    funext message
    simp only [Function.comp_apply]
    congr 1
    split
    · rw [place]
    · rfl
  · rfl

/-- The last message after an update that keeps the order of sending. -/
theorem getLastMessage_updateMessages {condition : Message → Bool}
    {change : Message → Message}
    {keeps : ∀ message, (change message).id = message.id}
    (place : ∀ message, (change message).conversationId = message.conversationId)
    (time : ∀ message, (change message).sentAt = message.sentAt) :
    (tables.updateMessages condition change keeps).getLastMessage conversationId =
      (tables.getLastMessage conversationId).map fun message =>
        if condition message then change message else message := by
  have order (message : Message) :
      sentOrder (if condition message then change message else message) =
        sentOrder message := by
    unfold sentOrder
    split
    · rw [keeps, time]
    · rfl
  cases last : tables.getLastMessage conversationId with
  | none =>
      rw [getLastMessage_eq_none_iff] at last
      rw [Option.map_none, getLastMessage_eq_none_iff,
        messagesIn_updateMessages place, last]
      rfl
  | some message =>
      rw [getLastMessage_eq_some_iff] at last
      rw [Option.map_some, getLastMessage_eq_some_iff,
        messagesIn_updateMessages place]
      refine ⟨List.mem_map_of_mem last.1, fun other present => ?_⟩
      obtain ⟨old, oldMem, rfl⟩ := List.mem_map.mp present
      rw [order, order]
      exact last.2 old oldMem

theorem getLastMessage_setRead (readerId : Nat) (messageIds : Option (List Nat)) :
    (tables.setRead conversationId readerId messageIds).getLastMessage
        conversationId =
      (tables.getLastMessage conversationId).map fun message =>
        if readable conversationId readerId messageIds message then
          { message with isRead := true } else message :=
  getLastMessage_updateMessages (fun _ => rfl) fun _ => rfl

theorem getLastMessage_setText (messageId : Nat) (newText : String) :
    (tables.setText messageId newText).getLastMessage conversationId =
      (tables.getLastMessage conversationId).map fun message =>
        if message.id == messageId then { message with text := newText }
        else message :=
  getLastMessage_updateMessages (fun _ => rfl) fun _ => rfl

theorem messagesIn_congr {first second : Message → Bool}
    (same : ∀ message ∈ tables.messages.rows,
      message.conversationId = conversationId → first message = second message) :
    tables.messagesIn conversationId first =
      tables.messagesIn conversationId second := by
  unfold messagesIn
  split
  · refine List.filter_congr fun message present => ?_
    by_cases place : message.conversationId = conversationId
    · rw [same message present place]
    · rw [beq_false_of_ne place, Bool.false_and, Bool.false_and]
  · rfl

/-- An update that keeps which messages are unread keeps their number. -/
theorem getUnreadMessageIds_updateMessages {condition : Message → Bool}
    {change : Message → Message}
    {keeps : ∀ message, (change message).id = message.id}
    (place : ∀ message, (change message).conversationId = message.conversationId)
    {userId : Nat} {isSender : Bool}
    (same : ∀ message ∈ tables.messages.rows,
      message.conversationId = conversationId → condition message = true →
        unread userId isSender (change message) = unread userId isSender message) :
    (tables.updateMessages condition change keeps).getUnreadMessageIds
        conversationId userId isSender =
      tables.getUnreadMessageIds conversationId userId isSender := by
  unfold getUnreadMessageIds
  rw [messagesIn_updateMessages place, List.map_map]
  have kept : (Message.id ∘ fun message =>
      if condition message then change message else message) = Message.id := by
    funext message
    simp only [Function.comp_apply]
    split
    · exact keeps message
    · rfl
  rw [kept, messagesIn_congr]
  intro message present inside
  by_cases meets : condition message = true
  · rw [if_pos meets]
    exact same message present inside meets
  · rw [if_neg meets]

/-- Whoever finds the flag of the last message unchanged finds all of it. -/
theorem getLastMessage_setRead_of_flag {readerId : Nat}
    {messageIds : Option (List Nat)}
    (flag : ((tables.setRead conversationId readerId messageIds).getLastMessage
        conversationId).map Message.isRead =
      (tables.getLastMessage conversationId).map Message.isRead) :
    (tables.setRead conversationId readerId messageIds).getLastMessage
        conversationId = tables.getLastMessage conversationId := by
  rw [getLastMessage_setRead] at flag ⊢
  cases last : tables.getLastMessage conversationId with
  | none => rfl
  | some message =>
      rw [last] at flag
      simp only [Option.map_some, Option.some.injEq] at flag ⊢
      split
      · next marks =>
          rw [if_pos marks] at flag
          have unread : message.isRead = false := by
            simp only [readable, Bool.and_eq_true, Bool.not_eq_true'] at marks
            exact marks.1.1.2
          rw [unread] at flag
          contradiction
      · rfl

/-- Reading leaves what is unread for the user who sent it. -/
theorem getUnreadMessageIds_setRead {readerId userId : Nat}
    (messageIds : Option (List Nat))
    (senders : ∀ message ∈ tables.messages.rows,
      message.conversationId = conversationId →
        message.senderId = readerId ∨ message.senderId = userId) :
    (tables.setRead conversationId readerId messageIds).getUnreadMessageIds
        conversationId userId false =
      tables.getUnreadMessageIds conversationId userId false := by
  unfold setRead
  refine getUnreadMessageIds_updateMessages ?_ ?_
  · exact fun _ => rfl
  · intro message present inside marks
    have notReader : message.senderId ≠ readerId := by
      simp only [readable, Bool.and_eq_true, bne_iff_ne] at marks
      exact marks.1.2
    have own := (senders message present inside).resolve_left notReader
    simp [unread, own]

theorem getUnreadMessageIds_setText (messageId : Nat) (newText : String)
    (userId : Nat) (isSender : Bool) :
    (tables.setText messageId newText).getUnreadMessageIds conversationId userId
        isSender =
      tables.getUnreadMessageIds conversationId userId isSender := by
  unfold setText
  refine getUnreadMessageIds_updateMessages ?_ ?_
  · exact fun _ => rfl
  · exact fun _ _ _ _ => rfl

/-- A message other than the last one may be edited. -/
theorem getLastMessage_setText_of_ne {messageId : Nat} {newText : String}
    (another : (tables.getLastMessage conversationId).map Message.id ≠ some messageId) :
    (tables.setText messageId newText).getLastMessage conversationId =
      tables.getLastMessage conversationId := by
  rw [getLastMessage_setText]
  cases last : tables.getLastMessage conversationId with
  | none => rfl
  | some message =>
      rw [last] at another
      simp only [Option.map_some] at another ⊢
      split
      · next same => exact absurd (congrArg some (beq_iff_eq.mp same)) another
      · rfl

end ChatTables

end Messages

/-- The preview that an emission carries for a user. -/
def ChatEmission.previewFor (conversationId userId : Nat) :
    ChatEmission → Option ConversationPreview
  | .toConversation _ _ _ => none
  | .previewUpdate user conversation preview =>
      if user = userId ∧ conversation = conversationId then some preview else none

section Telling

variable {tables : ChatTables} {conversationId userId : Nat}
  {conversation : Conversation}

theorem eq_or_other {userId other : Nat} (has : conversation.has userId = true)
    (takesPart : conversation.has other = true) :
    other = userId ∨ other = conversation.other userId := by
  rw [has_iff] at has takesPart
  unfold Conversation.other
  split <;> omega

theorem previewFor_of_mem_updates {emission : ChatEmission}
    {recipientId clientId : Nat} {client : Socket} {event : RoomEvent} {told : Bool}
    (present : emission ∈ (if told then
      previewUpdates tables conversationId recipientId clientId else []) ++
        [.toConversation conversationId client event])
    {preview : ConversationPreview}
    (carried : emission.previewFor conversationId userId = some preview) :
    preview = tables.preview conversationId userId := by
  rcases List.mem_append.mp present with update | room
  · cases told with
    | false => contradiction
    | true =>
        rcases List.mem_pair.mp update with rfl | rfl
        · obtain ⟨⟨rfl, _⟩, same⟩ := Option.ite_none_right_eq_some.mp carried
          exact (Option.some.inj same).symm
        · obtain ⟨⟨rfl, _⟩, same⟩ := Option.ite_none_right_eq_some.mp carried
          exact (Option.some.inj same).symm
  · obtain rfl := List.mem_singleton.mp room
    contradiction

/-- If both participants are told, each of them is. -/
theorem exists_update {clientId : Nat} (has : conversation.has clientId = true)
    (takesPart : conversation.has userId = true) (rest : List ChatEmission) :
    ∃ emission ∈ previewUpdates tables conversationId (conversation.other clientId)
        clientId ++ rest,
      emission.previewFor conversationId userId =
        some (tables.preview conversationId userId) := by
  refine ⟨.previewUpdate userId conversationId
    (tables.preview conversationId userId), List.mem_append_left _ ?_,
    if_pos ⟨rfl, rfl⟩⟩
  rcases eq_or_other has takesPart with rfl | rfl
  · exact List.mem_cons_of_mem _ List.mem_cons_self
  · exact List.mem_cons_self

end Telling

/-- A read by the user that changes the preview, but not the flag of the last
message. -/
def ReadsQuietly (userId : Nat) (store : ChatStore) (label : SocketEvent) : Prop :=
  label.client.userId = userId ∧ ∃ data, label.event = .messageRead data ∧
    ((store.setRead data.conversationId userId data.messageIds).getLastMessage
        data.conversationId).map Message.isRead =
      (store.getLastMessage data.conversationId).map Message.isRead ∧
    (store.setRead data.conversationId userId data.messageIds).preview
        data.conversationId userId ≠
      store.preview data.conversationId userId

/-- An edition of the last message of its conversation. -/
def EditsLast (store : ChatStore) (label : SocketEvent) : Prop :=
  ∃ data, label.event = .messageEdit data ∧
    (store.getLastMessage data.conversationId).map Message.id = some data.messageId

/-- What an event emits to a user about a conversation: no preview but the one
it leaves, and this one unless the last message stays and the unread messages are
as many as before or read quietly. -/
structure Informs (store after : ChatStore) (label : SocketEvent)
    (conversationId userId : Nat) (emissions : List ChatEmission) : Prop where
  emitted : after.emitted = store.emitted ++ emissions
  exact : ∀ emission ∈ emissions, ∀ preview,
    emission.previewFor conversationId userId = some preview →
      preview = after.preview conversationId userId
  complete :
    (∃ emission ∈ emissions, emission.previewFor conversationId userId =
      some (after.preview conversationId userId)) ∨
    ((after.preview conversationId userId).lastMessage =
        (store.preview conversationId userId).lastMessage ∧
      (ReadsQuietly userId store label ∨
        (after.preview conversationId userId).unreadsCount =
          (store.preview conversationId userId).unreadsCount))

namespace ChatOutcome

variable {store after : ChatStore} {label : SocketEvent}
  {conversationId userId : Nat} {conversation : Conversation}

theorem informs_of_same (emitted : after.emitted = store.emitted)
    (same : after.toChatTables = store.toChatTables) :
    Informs store after label conversationId userId [] where
  emitted := by rw [emitted, List.append_nil]
  exact := by
    intro emission present
    contradiction
  complete := by
    rw [same]
    exact Or.inr ⟨rfl, Or.inr rfl⟩

/-- It is enough to look at the events that tell nobody. -/
theorem informs_of_leaves {tables : ChatTables} {told : Bool} {client : Socket}
    {event : RoomEvent} (has : conversation.has client.userId = true)
    (takesPart : conversation.has userId = true)
    (leaves : store.Leaves after tables ((if told then
      previewUpdates tables conversationId (conversation.other client.userId)
        client.userId else []) ++ [.toConversation conversationId client event]))
    (untold : told = false →
      (tables.preview conversationId userId).lastMessage =
          (store.preview conversationId userId).lastMessage ∧
        (ReadsQuietly userId store label ∨
          (tables.preview conversationId userId).unreadsCount =
            (store.preview conversationId userId).unreadsCount)) :
    ∃ emissions, Informs store after label conversationId userId emissions := by
  refine ⟨_, leaves.emitted, ?_, ?_⟩
  · intro emission present preview carried
    rw [leaves.tables]
    exact previewFor_of_mem_updates present carried
  · rw [leaves.tables]
    cases told with
    | true => exact Or.inl (exists_update has takesPart _)
    | false => exact Or.inr (untold rfl)

/-- Senders of a conversation's messages are its two participants. -/
theorem sender_eq_or (before : store.Confined)
    (live : store.liveConversation conversationId = some conversation)
    {clientId : Nat} (has : conversation.has clientId = true)
    (takesPart : conversation.has userId = true) (differ : userId ≠ clientId)
    {message : Message} (present : message ∈ store.messages.rows)
    (inside : message.conversationId = conversationId) :
    message.senderId = clientId ∨ message.senderId = userId := by
  have sends := has_of_takesPart live (inside ▸ before.senders message present)
  rw [has_iff] at has takesPart sends
  omega

/-- No event takes back what has been emitted. -/
theorem emitted_append (outcome : ChatOutcome store label after) :
    store.emitted <+: after.emitted := by
  cases outcome with
  | refused | subscribed | unsubscribed | edited => exact List.prefix_rfl
  | sent live has leaves =>
      rw [leaves.emitted]
      exact List.prefix_append _ _
  | read live has marked leaves =>
      rw [leaves.emitted]
      exact List.prefix_append _ _

theorem informs (outcome : ChatOutcome store label after) (before : store.Confined)
    (named : label.event.conversationId = conversationId) (edits : ¬ EditsLast store label)
    (participates : store.Participates conversationId userId) :
    ∃ emissions, Informs store after label conversationId userId emissions := by
  obtain ⟨own, found, takesPart⟩ := participates
  cases outcome with
  | refused => exact ⟨[], informs_of_same rfl rfl⟩
  | subscribed participates => exact ⟨[], informs_of_same rfl rfl⟩
  | unsubscribed => exact ⟨[], informs_of_same rfl rfl⟩
  | @sent now client data _ _ live has leaves =>
      obtain rfl : data.conversationId = conversationId := named
      obtain rfl := Option.some.inj (live.symm.trans found)
      refine @informs_of_leaves store after _ _ _ _ _ true client _ has takesPart
        leaves ?_
      intro untold
      contradiction
  | @read now client data _ tables _ live has marked leaves =>
      obtain rfl : data.conversationId = conversationId := named
      obtain rfl := Option.some.inj (live.symm.trans found)
      refine informs_of_leaves has takesPart leaves fun untold => ?_
      have flag := bne_eq_false_iff_eq.mp untold
      rw [marked] at flag
      have last := ChatTables.getLastMessage_setRead_of_flag flag
      refine ⟨by rw [marked]; exact last, ?_⟩
      by_cases reader : userId = client.userId
      · rw [or_iff_not_imp_right]
        intro counts
        refine ⟨reader.symm, data, rfl, reader ▸ flag, fun same => counts ?_⟩
        rw [marked, ← reader, same]
      · refine Or.inr (congrArg List.length ?_)
        rw [marked]
        exact ChatTables.getUnreadMessageIds_setRead data.messageIds
          fun message present inside =>
            sender_eq_or before live has takesPart reader present inside
  | @edited now client data _ live has =>
      obtain rfl : data.conversationId = conversationId := named
      have another := fun last => edits ⟨data, rfl, last⟩
      refine ⟨[], (List.append_nil _).symm, nofun, Or.inr ⟨?_, Or.inr ?_⟩⟩
      · exact ChatTables.getLastMessage_setText_of_ne another
      · exact congrArg List.length (ChatTables.getUnreadMessageIds_setText _ _ _ _)

theorem participates (outcome : ChatOutcome store label after)
    (before : store.Participates conversationId userId) :
    after.Participates conversationId userId := by
  have touched (tables : ChatTables) (touchedId : Nat) (lastMessageAt : Option Int)
      (same : tables.conversations = store.conversations) :
      (tables.setLastMessageAt touchedId lastMessageAt).Participates conversationId
        userId := by
    obtain ⟨conversation, live, has⟩ := before
    unfold ChatTables.Participates
    rw [ChatTables.liveConversation_setLastMessageAt, ChatTables.liveConversation,
      same]
    refine ⟨_, congrArg (Option.map _) live, ?_⟩
    dsimp only
    split <;> exact has
  cases outcome with
  | refused => exact before
  | subscribed participates => exact before
  | unsubscribed => exact before
  | sent live has leaves =>
      rw [leaves.tables]
      exact touched _ _ _ rfl
  | read live has marked leaves =>
      rw [leaves.tables, marked]
      exact before
  | edited => exact before

end ChatOutcome

/-- What a client shows that fetched the preview in one state and applies every
update since. -/
def shownPreview (conversationId userId : Nat) (fetched now : ChatStore) :
    ConversationPreview :=
  shown (ChatEmission.previewFor conversationId userId)
    (fetched.preview conversationId userId)
    (now.emitted.drop fetched.emitted.length)

section Clients

variable {fetched store after : ChatStore} {label : SocketEvent}
  {conversationId userId : Nat} {emissions : List ChatEmission}

theorem shownPreview_fetched :
    shownPreview conversationId userId fetched fetched =
      fetched.preview conversationId userId := by
  unfold shownPreview
  rw [List.drop_length]
  rfl

/-- The updates of one more event are applied to what is shown. -/
theorem shownPreview_append (since : fetched.emitted <+: store.emitted)
    (emitted : after.emitted = store.emitted ++ emissions) :
    shownPreview conversationId userId fetched after =
      shown (ChatEmission.previewFor conversationId userId)
        (shownPreview conversationId userId fetched store) emissions := by
  unfold shownPreview
  rw [emitted, List.drop_append_of_le_length since.length_le, shown_append]

theorem Informs.shown_lastMessage
    (informs : Informs store after label conversationId userId emissions)
    (since : fetched.emitted <+: store.emitted)
    (before : (shownPreview conversationId userId fetched store).lastMessage =
      (store.preview conversationId userId).lastMessage) :
    (shownPreview conversationId userId fetched after).lastMessage =
      (after.preview conversationId userId).lastMessage := by
  rw [shownPreview_append since informs.emitted,
    shown_map ConversationPreview.lastMessage, before]
  refine shown_eq ?_ ?_
  · intro emission present last carried
    obtain ⟨preview, carriesPreview, rfl⟩ := Option.map_eq_some_iff.mp carried
    rw [informs.exact emission present preview carriesPreview]
  · rcases informs.complete with ⟨emission, present, carried⟩ | ⟨same, _⟩
    · exact Or.inr ⟨emission, present, by rw [carried]; rfl⟩
    · exact Or.inl same.symm

theorem Informs.shown_preview
    (informs : Informs store after label conversationId userId emissions)
    (aloud : ¬ ReadsQuietly userId store label)
    (since : fetched.emitted <+: store.emitted)
    (before : shownPreview conversationId userId fetched store =
      store.preview conversationId userId) :
    shownPreview conversationId userId fetched after =
      after.preview conversationId userId := by
  rw [shownPreview_append since informs.emitted, before]
  refine shown_eq informs.exact ?_
  rcases informs.complete with told | ⟨last, quiet | count⟩
  · exact Or.inr told
  · exact absurd quiet aloud
  · exact Or.inl (ConversationPreview.ext count.symm last.symm)

end Clients

/-- What the steps of a run on one conversation keep. -/
structure Follows (conversationId userId : Nat) (fetched store : ChatStore) :
    Prop where
  confined : store.Confined
  participates : store.Participates conversationId userId
  since : fetched.emitted <+: store.emitted

theorem Follows.step {fetched store after : ChatStore} {label : SocketEvent}
    {conversationId userId : Nat}
    (before : Follows conversationId userId fetched store)
    (taken : chatStep store label = some after) :
    Follows conversationId userId fetched after := by
  have outcome := chatOutcome_of_step taken
  exact ⟨outcome.confined before.confined, outcome.participates before.participates,
    before.since.trans outcome.emitted_append⟩

theorem Follows.informs {fetched store after : ChatStore} {label : SocketEvent}
    {conversationId userId : Nat}
    (before : Follows conversationId userId fetched store)
    (named : label.event.conversationId = conversationId)
    (edits : ¬ EditsLast store label) (taken : chatStep store label = some after) :
    ∃ emissions, Informs store after label conversationId userId emissions :=
  (chatOutcome_of_step taken).informs before.confined named edits before.participates

/-- In every run of events on a conversation, from any state that a chat leads to,
each event that does not edit the last message tells a participant the exact preview
whenever it changes, except that a user's own read may leave the flag of the last
message and tell nobody.  As long as the last message is not edited, what a client
shows as the last message is the server's, and so is its whole preview if its user
makes no such read. -/
theorem previews_converge {origin fetched last : ChatStore}
    {conversationId userId : Nat} (noRooms : origin.rooms = [])
    (noMessages : origin.messages.rows = [])
    (reached : Reachable chatStep origin fetched)
    (participates : fetched.Participates conversationId userId)
    (run : Run chatStep
      (fun _ label => label.event.conversationId = conversationId) fetched last) :
    (∀ label after, label.event.conversationId = conversationId →
      ¬ EditsLast last label → chatStep last label = some after →
        ∃ emissions, Informs last after label conversationId userId emissions) ∧
      (Run chatStep (fun store label =>
          label.event.conversationId = conversationId ∧ ¬ EditsLast store label)
          fetched last →
        (shownPreview conversationId userId fetched last).lastMessage =
          (last.preview conversationId userId).lastMessage) ∧
      (Run chatStep (fun store label =>
          label.event.conversationId = conversationId ∧ ¬ EditsLast store label ∧
            ¬ ReadsQuietly userId store label) fetched last →
        shownPreview conversationId userId fetched last =
          last.preview conversationId userId) := by
  have atStart : Follows conversationId userId fetched fetched :=
    ⟨confined_of_reachable noRooms noMessages reached, participates,
      List.prefix_rfl⟩
  refine ⟨?_, fun unedited => ?_, fun aloud => ?_⟩
  · have follows : Follows conversationId userId fetched last :=
      Run.invariant (Follows conversationId userId fetched) atStart
        (fun _ _ _ before _ taken => before.step taken) run
    intro label after named edits taken
    exact follows.informs named edits taken
  · have shows : Follows conversationId userId fetched last ∧
        (shownPreview conversationId userId fetched last).lastMessage =
          (last.preview conversationId userId).lastMessage := by
      refine Run.invariant (fun store => Follows conversationId userId fetched store ∧
          (shownPreview conversationId userId fetched store).lastMessage =
            (store.preview conversationId userId).lastMessage)
        ⟨atStart, by rw [shownPreview_fetched]⟩ ?_ unedited
      rintro before label after ⟨follows, shows⟩ ⟨named, edits⟩ taken
      obtain ⟨emissions, informs⟩ := follows.informs named edits taken
      exact ⟨follows.step taken, informs.shown_lastMessage follows.since shows⟩
    exact shows.2
  · have shows : Follows conversationId userId fetched last ∧
        shownPreview conversationId userId fetched last =
          last.preview conversationId userId := by
      refine Run.invariant (fun store =>
          Follows conversationId userId fetched store ∧
            shownPreview conversationId userId fetched store =
              store.preview conversationId userId)
        ⟨atStart, shownPreview_fetched⟩ ?_ aloud
      rintro before label after ⟨follows, shows⟩ ⟨named, edits, loud⟩ taken
      obtain ⟨emissions, informs⟩ := follows.informs named edits taken
      exact ⟨follows.step taken, informs.shown_preview loud follows.since shows⟩
    exact shows.2

/-- User 1 greets twice, and user 2 reads the first greeting only. -/
def readsFirst : SocketEvent :=
  ⟨3, ⟨20, 2⟩, .messageRead ⟨1, some [1], by decide⟩⟩

def twoGreetings : List SocketEvent :=
  [⟨1, ⟨10, 1⟩, .messageSend greeting⟩, ⟨2, ⟨10, 1⟩, .messageSend greeting⟩]

/-- A read may change the preview of its reader and tell nobody; the reader's
other device then shows the old one. -/
theorem quiet_read_tells_nobody :
    ∃ store after, execute chatStep newChat twoGreetings = some store ∧
      chatStep store readsFirst = some after ∧
      after.preview 1 2 ≠ store.preview 1 2 ∧
      (∀ emission ∈ after.emitted.drop store.emitted.length,
        emission.previewFor 1 2 = none) ∧
      shownPreview 1 2 newChat after ≠ after.preview 1 2 :=
  ⟨_, _, rfl, rfl, by decide, by decide, by decide⟩

/-- An edition of the last message changes the preview and tells nobody, as the query for
the id of the last message fails. -/
example :
    ∃ store after, execute chatStep newChat twoGreetings = some store ∧
      chatStep store ⟨3, ⟨10, 1⟩, .messageEdit ⟨1, 2, "bye", by decide, by decide⟩⟩ =
        some after ∧
      after.preview 1 2 ≠ store.preview 1 2 ∧ after.emitted = store.emitted :=
  ⟨_, _, rfl, rfl, by decide, rfl⟩

private def editsAndReadsAloud (store : ChatStore) (label : SocketEvent) : Bool :=
  label.event.conversationId == 1 &&
    match label.event with
    | .messageEdit data =>
        (store.getLastMessage data.conversationId).map Message.id != some data.messageId
    | .messageRead data =>
        label.client.userId != 2 ||
          ((store.setRead data.conversationId 2 data.messageIds).getLastMessage
              data.conversationId).map Message.isRead !=
            (store.getLastMessage data.conversationId).map Message.isRead
    | _ => true

private theorem aloud_of_check (store : ChatStore) (label : SocketEvent)
    (checked : editsAndReadsAloud store label = true) :
    label.event.conversationId = 1 ∧ ¬ EditsLast store label ∧ ¬ ReadsQuietly 2 store label := by
  obtain ⟨now, client, event⟩ := label
  simp only [editsAndReadsAloud, Bool.and_eq_true, beq_iff_eq] at checked
  refine ⟨checked.1, ?_, ?_⟩
  · rintro ⟨data, rfl, last⟩
    exact bne_iff_ne.mp checked.2 last
  · rintro ⟨reader, data, rfl, flag, -⟩
    rcases Bool.or_eq_true_iff.mp checked.2 with other | read
    · exact bne_iff_ne.mp other reader
    · exact bne_iff_ne.mp read flag

/-- User 1 greets twice and changes the first greeting; user 2 reads both and answers, and
user 1 reads the answer and cannot delete the greetings. -/
private def answeredGreetings : List SocketEvent :=
  twoGreetings ++
    [⟨3, ⟨10, 1⟩, .messageEdit ⟨1, 1, "hi", by decide, by decide⟩⟩,
      ⟨4, ⟨20, 2⟩, .messageRead ⟨1, none, by decide⟩⟩, ⟨5, ⟨20, 2⟩, .messageSend greeting⟩,
      ⟨6, ⟨10, 1⟩, .messageRead ⟨1, some [3], by decide⟩⟩,
      ⟨7, ⟨10, 1⟩, .messageDelete ⟨1, [1, 2], by decide⟩⟩]

theorem previews_converge_sample :
    ∃ last, execute chatStep newChat answeredGreetings = some last ∧
      shownPreview 1 2 newChat last = last.preview 1 2 ∧
      last.preview 1 2 = ⟨0, some ⟨3, 1, 2, "hello", true, 5⟩⟩ := by
  have aloud : Run chatStep (fun store label => label.event.conversationId = 1 ∧
      ¬ EditsLast store label ∧ ¬ ReadsQuietly 2 store label) newChat _ :=
    Run.start.executeChecked editsAndReadsAloud aloud_of_check answeredGreetings rfl
  have shows := (previews_converge (rfl : newChat.rooms = []) rfl Run.start ⟨_, rfl, rfl⟩
    (aloud.weaken fun _ _ allowed => allowed.1)).2.2 aloud
  exact ⟨_, rfl, shows, by decide⟩

end SpareSpace
