import SpareSpace.ChatOutcomes

/-!
# Checks of several messages at once

The gateway names messages by a list of ids, and the chat service compares the number of
rows that an `IN` query finds with the length of the list.  A repeated id is one row of
the query and two of the list; an id of a message that is read already is no row at all.
Against the checks of one message at a time the ownership check fails on repeated ids,
and the check of `markMessagesAsRead` on every list that it should accept: after the
call it refuses the same list.
-/

namespace SpareSpace

open Fallible

namespace ChatTables

variable (tables : ChatTables) (conversationId userId : Nat)

/-- The id is that of a message of the conversation sent by the user. -/
def Sent (id : Nat) : Prop :=
  ∃ message ∈ tables.messages.rows, message.id = id ∧
    message.conversationId = conversationId ∧ message.senderId = userId

/-- The id is that of a message of the conversation sent by somebody else. -/
def Received (id : Nat) : Prop :=
  ∃ message ∈ tables.messages.rows, message.id = id ∧
    message.conversationId = conversationId ∧ message.senderId ≠ userId

theorem id_read (message : Message) : { message with isRead := true }.id = message.id :=
  rfl

/-- The messages with the listed ids are read, and the others as they were. -/
def markListed (messageIds : List Nat) : ChatTables :=
  tables.updateMessages (fun message => messageIds.contains message.id)
    (fun message => { message with isRead := true }) id_read

end ChatTables

namespace ChatStore

variable (store : ChatStore) (conversationId userId : Nat) (messageIds : List Nat)

/-- The ownership check of a list agrees with the checks of its elements. -/
def OwnershipElementwise : Prop :=
  run (ChatService.verifyMessageOwnership messageIds conversationId userId) store =
      (.ok (), store) ↔
    ∀ id ∈ messageIds, store.Sent conversationId userId id

/-- Reading a list of messages agrees with reading each: it succeeds for messages of the
others, the listed messages are read then and no other changes, and reading the list once
more succeeds and changes nothing. -/
def ReadingElementwise : Prop :=
  let read := run (ChatService.markMessagesAsRead conversationId userId (some messageIds))
  ((read store).1 = .ok () ↔ ∀ id ∈ messageIds, store.Received conversationId userId id) ∧
    ((read store).1 = .ok () →
      (read store).2 = store.withTables (store.markListed messageIds) ∧
        read (read store).2 = (.ok (), (read store).2))

end ChatStore

namespace ChatService

variable {conversationId userId : Nat} {messageIds : List Nat}

theorem readable_iff {message : Message} (nonempty : messageIds ≠ []) :
    ChatTables.readable conversationId userId (some messageIds) message = true ↔
      message.conversationId = conversationId ∧ message.isRead = false ∧
        message.senderId ≠ userId ∧ message.id ∈ messageIds := by
  simp [ChatTables.readable, nonempty, and_assoc]

/-- The ownership check asks of a list that no id is repeated. -/
theorem verifyMessageOwnership_ok_iff (store : ChatStore) (nonempty : messageIds ≠ []) :
    run (verifyMessageOwnership messageIds conversationId userId) store =
        (.ok (), store) ↔
      (store.liveConversation conversationId).isSome ∧ messageIds.Nodup ∧
        ∀ id ∈ messageIds, store.Sent conversationId userId id := by
  have counted := @length_messagesIn_eq_iff conversationId store.toChatTables messageIds
    (owned messageIds userId) (fun message holds => (owned_iff.mp holds).1) nonempty
  have accepts : run (verifyMessageOwnership messageIds conversationId userId) store =
        (.ok (), store) ↔
      (store.messagesIn conversationId (owned messageIds userId)).length =
        messageIds.length := by
    rw [verifyMessageOwnership, run_reads]
    split
    · next other => exact iff_of_false (by simp) other
    · next same => exact iff_of_true rfl (not_not.mp same)
  rw [accepts, counted]
  refine and_congr_right fun _ => and_congr_right fun _ => forall₂_congr fun id given => ?_
  constructor
  · rintro ⟨message, stored, same, place, holds⟩
    exact ⟨message, stored, same, place, (owned_iff.mp holds).2⟩
  · rintro ⟨message, stored, rfl, place, sender⟩
    exact ⟨message, stored, rfl, place, owned_iff.mpr ⟨given, sender⟩⟩

/-- Reading a list succeeds when the query for the unread messages of the others finds as
many as are listed, and writes the listed ones. -/
theorem run_markMessagesAsRead (store : ChatStore) (nonempty : messageIds ≠ []) :
    run (markMessagesAsRead conversationId userId (some messageIds)) store =
      if (store.messagesIn conversationId
          (ChatTables.readable conversationId userId (some messageIds))).length =
            messageIds.length then
        (.ok (), store.withTables
          (store.setRead conversationId userId (some messageIds)))
      else
        (.error (.messageAccessDenied messageIds conversationId userId), store) := by
  rw [markMessagesAsRead, run_bind, run_reads]
  simp only [checkReadable, nonempty, ne_eq, not_false_eq_true, true_and]
  split_ifs <;> rfl

/-- Each listed message of a list that is accepted is an unread message of the others. -/
theorem unread_of_accepted {store : ChatStore} (nonempty : messageIds ≠ [])
    (accepted : (run (markMessagesAsRead conversationId userId (some messageIds))
      store).1 = .ok ()) :
    ∀ id ∈ messageIds, ∃ message ∈ store.messages.rows, message.id = id ∧
      message.conversationId = conversationId ∧ message.isRead = false ∧
        message.senderId ≠ userId := by
  rw [run_markMessagesAsRead store nonempty] at accepted
  split at accepted
  · next same =>
      have counted := (length_messagesIn_eq_iff
        (fun message holds => ((readable_iff nonempty).mp holds).2.2.2) nonempty).mp same
      intro id given
      obtain ⟨message, stored, named, place, holds⟩ := counted.2.2 id given
      obtain ⟨_, unread, sender, _⟩ := (readable_iff nonempty).mp holds
      exact ⟨message, stored, named, place, unread, sender⟩
  · cases accepted

/-- A list that was accepted once is refused the next time. -/
theorem refused_again {store : ChatStore} (nonempty : messageIds ≠ [])
    (accepted : (run (markMessagesAsRead conversationId userId (some messageIds))
      store).1 = .ok ()) :
    (run (markMessagesAsRead conversationId userId (some messageIds))
      (run (markMessagesAsRead conversationId userId (some messageIds)) store).2).1 ≠
        .ok () := by
  intro again
  obtain ⟨id, given⟩ := List.exists_mem_of_ne_nil messageIds nonempty
  obtain ⟨message, stored, named, place, unread, sender⟩ :=
    unread_of_accepted nonempty again id given
  rw [run_markMessagesAsRead store nonempty] at accepted stored
  split at accepted
  · next same =>
      rw [if_pos same] at stored
      obtain ⟨old, _, written⟩ := ChatTables.mem_setRead_iff.mp stored
      split at written
      · subst written
        exact Bool.noConfusion unread
      · next other =>
          subst written
          exact other ((readable_iff nonempty).mpr
            ⟨place, unread, sender, named ▸ given⟩)
  · cases accepted

/-- For a list of ids, the ownership check agrees with the checks of its elements exactly
when, if all of them are the user's messages, none is repeated and the conversation is
live.  Reading the list agrees with reading its elements exactly when the list names
something that is no message of the others. -/
theorem bulk_checks_elementwise_iff (store : ChatStore) (conversationId userId : Nat)
    (messageIds : List Nat) (nonempty : messageIds ≠ []) :
    (store.OwnershipElementwise conversationId userId messageIds ↔
      ((∀ id ∈ messageIds, store.Sent conversationId userId id) →
        (store.liveConversation conversationId).isSome ∧ messageIds.Nodup)) ∧
    (store.ReadingElementwise conversationId userId messageIds ↔
      ∃ id ∈ messageIds, ¬ store.Received conversationId userId id) := by
  constructor
  · rw [ChatStore.OwnershipElementwise, verifyMessageOwnership_ok_iff store nonempty]
    tauto
  · constructor
    · rintro ⟨agrees, effect⟩
      by_contra none
      simp only [not_exists, not_and, not_not] at none
      have accepted := agrees.mpr none
      exact refused_again nonempty accepted (congrArg Prod.fst (effect accepted).2)
    · rintro ⟨id, given, foreign⟩
      have refused : (run (markMessagesAsRead conversationId userId (some messageIds))
          store).1 ≠ .ok () := by
        intro accepted
        obtain ⟨message, stored, named, place, _, sender⟩ :=
          unread_of_accepted nonempty accepted id given
        exact foreign ⟨message, stored, named, place, sender⟩
      exact ⟨iff_of_false refused fun all => foreign (all id given),
        fun accepted => absurd accepted refused⟩

/-- A conversation of users 1 and 2 with one message of user 2, not read yet. -/
private def greeted : ChatStore where
  conversations := KeyedTable.empty.insert
    (fun id => ⟨id, 1, 2, none, some 9, none⟩) fun _ => rfl
  messages := KeyedTable.empty.insert (fun id => ⟨id, 1, 2, "hi", false, 9⟩) fun _ => rfl
  rooms := []
  emitted := []
  signals := []

/-- Ids of a message of somebody else are refused, as each of them would be. -/
theorem bulk_checks_elementwise_of_foreign :
    greeted.OwnershipElementwise 1 1 [1, 1] ∧ greeted.ReadingElementwise 1 2 [1, 1] := by
  obtain ⟨ownership, _⟩ := bulk_checks_elementwise_iff greeted 1 1 [1, 1] (by decide)
  obtain ⟨_, reading⟩ := bulk_checks_elementwise_iff greeted 1 2 [1, 1] (by decide)
  have foreign : ¬ greeted.Sent 1 1 1 := by
    simp [ChatTables.Sent, greeted, KeyedTable.insert, KeyedTable.empty]
  have own : ¬ greeted.Received 1 2 1 := by
    simp [ChatTables.Received, greeted, KeyedTable.insert, KeyedTable.empty]
  exact ⟨ownership.mpr fun all => absurd (all 1 (by decide)) foreign,
    reading.mpr ⟨1, by decide, own⟩⟩

/-- The sender does not own a message that is listed twice, and the reader of it is
refused the second time. -/
theorem bulk_checks_refuse_repetitions :
    ¬ greeted.OwnershipElementwise 1 2 [1, 1] ∧ ¬ greeted.ReadingElementwise 1 1 [1] := by
  constructor
  · intro ownership
    have sent : greeted.Sent 1 2 1 :=
      ⟨⟨1, 1, 2, "hi", false, 9⟩, List.mem_singleton_self _, rfl, rfl, rfl⟩
    have accepted := ownership.mpr (by simpa using sent)
    have distinct := ((verifyMessageOwnership_ok_iff greeted (by decide)).mp accepted).2.1
    revert distinct
    decide
  · rintro ⟨agrees, effect⟩
    have received : greeted.Received 1 1 1 :=
      ⟨⟨1, 1, 2, "hi", false, 9⟩, List.mem_singleton_self _, rfl, rfl, by decide⟩
    have accepted := agrees.mpr (by simpa using received)
    exact refused_again (by decide) accepted (congrArg Prod.fst (effect accepted).2)

end ChatService

end SpareSpace
