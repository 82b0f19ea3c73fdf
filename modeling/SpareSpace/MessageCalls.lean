import SpareSpace.ChatService
import SpareSpace.Entities
import SpareSpace.InterleavedCalls

/-!
# Interleaved sending and deletion of messages

The calls that write the time of the last message of one conversation, cut at
every repository call.  Sending writes the time at which it writes; deletion
writes what it has read after removing its messages, perhaps long before.  The
time of the last message is right at rest if each write is right for the messages
then stored, or is followed by the write of another call.
-/

namespace SpareSpace

open InterleavedCalls TransitionRuns

/-- The tables of the chat at a time.  No message is sent in the future. -/
structure MessageStore extends ChatTables where
  clock : Int
  past : ∀ message ∈ messages.rows, message.sentAt ≤ clock

namespace MessageStore

variable (store : MessageStore)

def elapse (elapsed : Nat) : MessageStore where
  toChatTables := store.toChatTables
  clock := store.clock + elapsed
  past := by
    intro message present
    have := store.past message present
    omega

def insertMessage (conversationId senderId : Nat) (text : String) :
    MessageStore where
  toChatTables :=
    store.toChatTables.insertMessage store.clock conversationId senderId text
  clock := store.clock
  past := by
    intro message present
    rcases ChatTables.mem_insertMessage_iff.mp present with old | rfl
    · exact store.past message old
    · exact le_rfl

def deleteByIds (messageIds : List Nat) : MessageStore where
  toChatTables := store.toChatTables.deleteByIds messageIds
  clock := store.clock
  past := fun message present =>
    store.past message (ChatTables.mem_deleteByIds_iff.mp present).1

def setLastMessageAt (conversationId : Nat) (lastMessageAt : Option Int) :
    MessageStore where
  toChatTables := store.toChatTables.setLastMessageAt conversationId lastMessageAt
  clock := store.clock
  past := store.past

/-- The messages that remain in a conversation, deleted or not. -/
def remaining (conversationId : Nat) : List Message :=
  store.messages.rows.filter (·.conversationId == conversationId)

end MessageStore

/-- The program points of the calls, each before the step it is named for. -/
inductive MessageCall
  | save (senderId : Nat) (text : String)
  | updateLastMessageAt (messageId : Nat)
  | findMessageById (messageId : Nat)
  | delete (messageIds : List Nat)
  | getLastMessage
  | writeLastMessageAt (lastMessage : Option Message)
  | sent (message : Message)
  | deleted
  | threwHttp (error : HttpException)
  | threw (error : ChatException)

namespace MessageCall

/-- The steps of the calls on a conversation.  The input is the time since the
step before. -/
def next (conversationId : Nat) (elapsed : Nat) (before : MessageStore)
    (call : MessageCall) : Option (MessageStore × MessageCall) :=
  let store := before.elapse elapsed
  match call with
  | save senderId text =>
      if (store.conversations.find? conversationId).isSome then
        some (store.insertMessage conversationId senderId text,
          updateLastMessageAt store.messages.nextId)
      else
        some (store, threwHttp (.database "foreign key violation"))
  | updateLastMessageAt messageId =>
      some (store.setLastMessageAt conversationId (some store.clock),
        findMessageById messageId)
  | findMessageById messageId =>
      match store.messages.find? messageId with
      | some message => some (store, sent message)
      | none => some (store, threw (.messageNotFound messageId))
  | delete messageIds => some (store.deleteByIds messageIds, getLastMessage)
  | getLastMessage =>
      some (store, writeLastMessageAt (store.getLastMessage conversationId))
  | writeLastMessageAt lastMessage =>
      some (store.setLastMessageAt conversationId
        (lastMessage.map Message.sentAt), deleted)
  | sent _ | deleted | threwHttp _ | threw _ => none

/-- `sendMessage` and `deleteMessages`. -/
def starts : MessageCall → Bool
  | save _ _ | delete _ => true
  | _ => false

/-- Whether the call has neither returned nor thrown. -/
def inFlight : MessageCall → Bool
  | sent _ | deleted | threwHttp _ | threw _ => false
  | _ => true

/-- Whether the call has changed messages and has still to write the time. -/
def writes : MessageCall → Prop
  | updateLastMessageAt _ | getLastMessage | writeLastMessageAt _ => True
  | _ => False

end MessageCall

/-- Any sending and deletion of messages of one conversation. -/
def messageSystem (conversationId : Nat) :
    System MessageStore MessageCall Nat where
  starts := MessageCall.starts
  next := MessageCall.next conversationId

/-- A time of the last message that is right for some messages. -/
structure Dates (lastMessageAt : Option Int) (messages : List Message) : Prop where
  none_iff : lastMessageAt = none ↔ messages = []
  notEarlier : ∀ time, lastMessageAt = some time →
    ∀ message ∈ messages, message.sentAt ≤ time

/-- The time of the last message is right for the remaining messages. -/
def MessageStore.Dated (conversationId : Nat) (store : MessageStore) : Prop :=
  ∀ conversation ∈ store.conversations.rows, conversation.id = conversationId →
    Dates conversation.lastMessageAt (store.remaining conversationId)

namespace MessageCall

/-- A call writes a time that is right for the messages now stored, or another
call will write one. -/
def WritesRight (conversationId : Nat) (config : Config MessageStore MessageCall) :
    Move MessageCall Nat → Prop
  | .spawn _ => True
  | .act index _ =>
      match config.calls[index]? with
      | some (updateLastMessageAt _) =>
          config.store.remaining conversationId ≠ [] ∨
            Another config.calls index writes
      | some (writeLastMessageAt lastMessage) =>
          Dates (lastMessage.map Message.sentAt)
              (config.store.remaining conversationId) ∨
            Another config.calls index writes
      | _ => True

variable {conversationId elapsed : Nat} {store after : MessageStore}
  {call moved : MessageCall}

theorem dates_clock (remain : store.remaining conversationId ≠ []) :
    Dates (some store.clock) (store.remaining conversationId) where
  none_iff := iff_of_false (Option.some_ne_none _) remain
  notEarlier := by
    rintro time ⟨⟩ message present
    exact store.past message (List.mem_of_mem_filter present)

/-- A written time is right if it is right for the messages. -/
theorem dated_of_written {lastMessageAt : Option Int}
    (dates : Dates lastMessageAt (store.remaining conversationId)) :
    (store.setLastMessageAt conversationId lastMessageAt).Dated conversationId := by
  intro conversation present named
  obtain ⟨old, oldMem, rfl⟩ := List.mem_map.mp present
  by_cases same : old.id = conversationId
  · rw [if_pos same]
    exact dates
  · rw [if_neg same] at named
    exact absurd named same

/-- A step without another writing call beside it leaves the time right, or its
call to write it. -/
theorem dated_or_written_step {config : Config MessageStore MessageCall}
    {index : Nat} (right : WritesRight conversationId config (.act index elapsed))
    (stood : config.calls[index]? = some call)
    (moves : next conversationId elapsed config.store call = some (after, moved))
    (alone : ¬ Another config.calls index writes)
    (before : config.store.Dated conversationId ∨ writes call) :
    after.Dated conversationId ∨ writes moved := by
  cases call with
  | save senderId text =>
      have dated := before.resolve_right id
      simp only [next] at moves
      split at moves
      · obtain ⟨rfl, rfl⟩ := Prod.mk.inj (Option.some.inj moves)
        exact Or.inr trivial
      · obtain ⟨rfl, rfl⟩ := Prod.mk.inj (Option.some.inj moves)
        exact Or.inl dated
  | updateLastMessageAt messageId =>
      obtain ⟨rfl, rfl⟩ := Prod.mk.inj (Option.some.inj moves)
      simp only [WritesRight, stood] at right
      have stays := right.resolve_right alone
      exact Or.inl (dated_of_written
        (@dates_clock _ (config.store.elapse elapsed) stays))
  | findMessageById messageId =>
      have dated := before.resolve_right id
      simp only [next] at moves
      split at moves
      · obtain ⟨rfl, rfl⟩ := Prod.mk.inj (Option.some.inj moves)
        exact Or.inl dated
      · obtain ⟨rfl, rfl⟩ := Prod.mk.inj (Option.some.inj moves)
        exact Or.inl dated
  | delete messageIds =>
      obtain ⟨rfl, rfl⟩ := Prod.mk.inj (Option.some.inj moves)
      exact Or.inr trivial
  | getLastMessage =>
      obtain ⟨rfl, rfl⟩ := Prod.mk.inj (Option.some.inj moves)
      exact Or.inr trivial
  | writeLastMessageAt lastMessage =>
      obtain ⟨rfl, rfl⟩ := Prod.mk.inj (Option.some.inj moves)
      simp only [WritesRight, stood] at right
      have dates := right.resolve_right alone
      exact Or.inl (@dated_of_written _ (config.store.elapse elapsed) _ dates)
  | sent | deleted | threwHttp | threw => contradiction

end MessageCall

/-- With no call in flight the time of the last message is null exactly when no
message remains, and else not earlier than any of them, in every run in which each
write is right when it is made or followed by another call's. -/
theorem last_message_dated_at_rest {conversationId : Nat}
    {start last : Config MessageStore MessageCall}
    (dated : start.store.Dated conversationId)
    (reached : Run (messageSystem conversationId).step
      (MessageCall.WritesRight conversationId) start last)
    (rest : ∀ call ∈ last.calls, call.inFlight = false) :
    last.store.Dated conversationId := by
  have written := holds_or_mended (messageSystem conversationId)
    (MessageStore.Dated conversationId) MessageCall.writes dated
    (fun _ _ _ _ _ _ right stood moves alone before =>
      MessageCall.dated_or_written_step right stood moves alone before) reached
  refine written.resolve_right ?_
  rintro ⟨call, present, writing⟩
  have idle := rest call present
  cases call <;> contradiction

/-- A conversation with one message. -/
private def oneMessage : Config MessageStore MessageCall where
  store :=
    { conversations := KeyedTable.empty.insert
        (fun id => ⟨id, 1, 2, none, some 5, none⟩) fun _ => rfl
      messages := KeyedTable.empty.insert
        (fun id => ⟨id, 1, 1, "hello", true, 5⟩) fun _ => rfl
      clock := 5
      past := by
        intro message present
        rw [List.mem_singleton.mp present] }
  calls := []

/-- The call at an index takes some steps. -/
private def worksOn (index count : Nat) : List (Move MessageCall Nat) :=
  List.replicate count (.act index 1)

private theorem oneMessage_dated : oneMessage.store.Dated 1 := by
  intro conversation present _
  rw [List.mem_singleton.mp present]
  refine ⟨by decide, ?_⟩
  rintro time ⟨⟩ message present
  rw [List.mem_singleton.mp (List.mem_of_mem_filter present)]

/-- Only sending writes, and only while there are messages. -/
private def sendsOnly (config : Config MessageStore MessageCall) :
    Move MessageCall Nat → Bool
  | .spawn _ => true
  | .act index _ =>
      match config.calls[index]? with
      | some (.updateLastMessageAt _) => !(config.store.remaining 1).isEmpty
      | some (.writeLastMessageAt _) => false
      | _ => true

private theorem writesRight_of_sendsOnly (config : Config MessageStore MessageCall)
    (label : Move MessageCall Nat) (sends : sendsOnly config label = true) :
    MessageCall.WritesRight 1 config label := by
  cases label with
  | spawn => trivial
  | act index elapsed =>
      simp only [sendsOnly, MessageCall.WritesRight] at sends ⊢
      split
      · next stood =>
          simp only [stood, Bool.not_eq_true', List.isEmpty_eq_false_iff] at sends
          exact Or.inl sends
      · next stood => simp [stood] at sends
      · trivial

/-- Two users send at once. -/
theorem last_message_dated_at_rest_sample :
    ∃ last, Run (messageSystem 1).step (MessageCall.WritesRight 1) oneMessage last ∧
      last.store.Dated 1 ∧
      last.store.conversations.rows.map Conversation.lastMessageAt = [some 10] := by
  have reached : Run (messageSystem 1).step (MessageCall.WritesRight 1) oneMessage _ :=
    Run.start.executeChecked sendsOnly writesRight_of_sendsOnly
      ([.spawn (.save 1 "a"), .spawn (.save 2 "b"), .act 0 1, .act 1 1] ++
        worksOn 1 2 ++ worksOn 0 2) rfl
  exact ⟨_, reached, last_message_dated_at_rest oneMessage_dated reached (by decide),
    by decide⟩

/-- A deletion reads that no message is left, and writes this after a message has
been sent. -/
theorem last_message_lost :
    ∃ last, Reachable (messageSystem 1).step oneMessage last ∧
      (∀ call ∈ last.calls, call.inFlight = false) ∧
      ¬ last.store.Dated 1 := by
  refine ⟨_, reachable_of_execute _ _ ([.spawn (.delete [1]),
    .spawn (.save 2 "here?")] ++ worksOn 0 2 ++ worksOn 1 3 ++ worksOn 0 1) rfl,
    by decide, fun dated => ?_⟩
  have dates := dated ⟨1, 1, 2, none, none, none⟩ (by decide) rfl
  exact absurd (dates.none_iff.mp rfl) (by decide)

end SpareSpace
