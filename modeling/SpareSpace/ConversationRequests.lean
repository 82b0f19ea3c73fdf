import SpareSpace.ChatOutcomes
import SpareSpace.ConversationCalls

/-!
# Deleting and restoring a conversation over HTTP

The two requests of the chat controller that hide a conversation and bring it
back.  Both first ask whether the user takes part in it, which is looked up
among the conversations that are not softly deleted; the restoration itself
looks among all.  So the service's restoration undoes the service's deletion,
and the request to restore is refused exactly because the deletion has worked.
-/

namespace SpareSpace

open Fallible

/-- The body of the request to delete; the flag is false by default. -/
structure DeleteConversationDto where
  permanent : Bool
  deriving DecidableEq, Repr

namespace ChatService

def deleteConversation (now : Int) (conversationId : Nat) (permanent : Bool) :
    ChatCall Unit :=
  updates fun store =>
    .ok ((), store.withTables
      (if permanent then
        store.deletePermanently conversationId
      else
        store.setDeletedAt conversationId (some now)))

def restoreConversation (conversationId : Nat) : ChatCall Unit := do
  reads fun store =>
    if (store.conversations.find? conversationId).isSome then
      .ok ()
    else
      .error (.conversationNotFound conversationId)
  updates fun store =>
    .ok ((), store.withTables (store.setDeletedAt conversationId none))

end ChatService

namespace ChatController

open ChatService

/-- `DELETE chat/conversations/:id`; the body may be missing. -/
def deleteConversation (now : Int) (conversationId userId : Nat)
    (dto : Option DeleteConversationDto) : ChatCall Unit := do
  verifyConversationAccess conversationId userId
  ChatService.deleteConversation now conversationId
    (dto.any DeleteConversationDto.permanent)

/-- `PATCH chat/conversations/:id/restore`. -/
def restoreConversation (conversationId userId : Nat) : ChatCall Unit := do
  verifyConversationAccess conversationId userId
  ChatService.restoreConversation conversationId

end ChatController

namespace ChatTables

variable {tables : ChatTables} {conversationId : Nat}

/-- A softly deleted conversation is not found by the queries that skip deleted
rows. -/
theorem liveConversation_setDeletedAt (deletedAt : Int) :
    (tables.setDeletedAt conversationId (some deletedAt)).liveConversation
      conversationId = none := by
  unfold liveConversation setDeletedAt
  rw [KeyedTable.find?_mapRows]
  cases found : tables.conversations.find? conversationId with
  | none => rfl
  | some conversation =>
      have named := tables.conversations.key_of_find? found
      simp [named]

theorem liveConversation_deletePermanently :
    (tables.deletePermanently conversationId).liveConversation conversationId =
      none := by
  unfold liveConversation
  cases found : (tables.deletePermanently conversationId).conversations.find?
      conversationId with
  | none => rfl
  | some conversation =>
      have present := (tables.deletePermanently
        conversationId).conversations.mem_of_find? found
      have kept := (KeyedTable.mem_deleteWhere_iff _).mp present
      have named := (tables.deletePermanently
        conversationId).conversations.key_of_find? found
      simp [named] at kept

/-- Clearing the mark of deletion that was set on a live conversation leaves the
conversations as they were. -/
theorem rows_setDeletedAt_undo {deletedAt : Int} {conversation : Conversation}
    (live : tables.liveConversation conversationId = some conversation) :
    ((tables.setDeletedAt conversationId (some deletedAt)).setDeletedAt
      conversationId none).conversations.rows = tables.conversations.rows := by
  obtain ⟨found, unmarked⟩ := Option.filter_eq_some_iff.mp live
  have stored := tables.conversations.mem_of_find? found
  have named := tables.conversations.key_of_find? found
  simp only [setDeletedAt, KeyedTable.mapRows, List.map_map]
  refine (List.map_congr_left fun row present => ?_).trans (List.map_id _)
  by_cases same : row.id = conversationId
  · obtain rfl := tables.conversations.eq_of_key_eq present stored
      (same.trans named.symm)
    have cleared : row.deletedAt = none := by simpa using unmarked
    have rebuilt : { row with deletedAt := none } = row := by rw [← cleared]
    simpa only [Function.comp_apply, if_pos same, id_eq] using rebuilt
  · simp [same]

end ChatTables

namespace ChatService

variable {store : ChatStore} {conversationId : Nat}

/-- The service's restoration undoes its soft deletion of a live conversation. -/
theorem restoreConversation_undo {now : Int} {conversation : Conversation}
    (live : store.liveConversation conversationId = some conversation) :
    ∃ restored, run (do
        deleteConversation now conversationId false
        restoreConversation conversationId) store = (.ok (), restored) ∧
      restored.conversations.rows = store.conversations.rows ∧
        restored.messages = store.messages := by
  obtain ⟨found, _⟩ := Option.filter_eq_some_iff.mp live
  have present : ((store.setDeletedAt conversationId
      (some now)).conversations.find? conversationId).isSome := by
    simp [ChatTables.setDeletedAt, found]
  refine ⟨store.withTables ((store.setDeletedAt conversationId
    (some now)).setDeletedAt conversationId none), ?_,
    ChatTables.rows_setDeletedAt_undo live, rfl⟩
  have looked : (store.withTables (store.setDeletedAt conversationId
      (some now))).conversations.find? conversationId =
        (store.setDeletedAt conversationId
          (some now)).conversations.find? conversationId :=
    rfl
  unfold deleteConversation restoreConversation
  simp only [run_bind, run_updates, run_reads, Bool.false_eq_true, if_false,
    looked, present, if_true]
  rfl

/-- A conversation that is not live lets nobody in. -/
theorem run_verifyConversationAccess_none {userId : Nat}
    (gone : store.liveConversation conversationId = none) :
    run (verifyConversationAccess conversationId userId) store =
      (.error (.conversationNotFound conversationId), store) := by
  unfold verifyConversationAccess findConversationById
  rw [run_bind, run_reads, gone]

end ChatService

namespace ChatController

variable {store : ChatStore} {conversationId userId : Nat} {now : Int}
  {dto : Option DeleteConversationDto}

/-- After a deletion that has succeeded, the request to restore is refused. -/
theorem restore_refused {deleted : ChatStore}
    (ran : run (deleteConversation now conversationId userId dto) store =
      (.ok (), deleted)) :
    run (restoreConversation conversationId userId) deleted =
      (.error (.conversationNotFound conversationId), deleted) := by
  obtain ⟨_, middle, _, removed⟩ := bind_ok ran
  have gone : deleted.liveConversation conversationId = none := by
    obtain rfl := (Prod.mk.inj removed).2
    cases dto.any DeleteConversationDto.permanent with
    | true => exact ChatTables.liveConversation_deletePermanently
    | false => exact ChatTables.liveConversation_setDeletedAt now
  unfold restoreConversation
  rw [run_bind, ChatService.run_verifyConversationAccess_none gone]

/-- A participant's request to delete a live conversation succeeds. -/
theorem run_deleteConversation {conversation : Conversation}
    (live : store.liveConversation conversationId = some conversation)
    (has : conversation.has userId = true) :
    ∃ deleted, run (deleteConversation now conversationId userId none) store =
      (.ok (), deleted) := by
  refine ⟨store.withTables (store.setDeletedAt conversationId (some now)), ?_⟩
  unfold deleteConversation
  rw [run_bind_ok (ChatService.run_verifyConversationAccess live has)]
  rfl

/-- The request to delete and then the request to restore both succeed, and the
conversation and its messages are as before. -/
def Undone (store : ChatStore) (now : Int) (conversationId userId : Nat)
    (dto : Option DeleteConversationDto) : Prop :=
  ∃ deleted restored,
    run (deleteConversation now conversationId userId dto) store =
        (.ok (), deleted) ∧
      run (restoreConversation conversationId userId) deleted =
          (.ok (), restored) ∧
        restored.liveConversation conversationId =
            store.liveConversation conversationId ∧
          restored.messagesIn conversationId (fun _ => true) =
            store.messagesIn conversationId fun _ => true

end ChatController

open ChatController

/-- Whatever is stored, whoever asks and whatever the body is: a deletion is never
undone, since the request to restore is refused once the deletion has succeeded. -/
theorem deletion_never_undone (store : ChatStore) (now : Int)
    (conversationId userId : Nat) (dto : Option DeleteConversationDto) :
    ¬ Undone store now conversationId userId dto := by
  rintro ⟨deleted, restored, removed, refused, _⟩
  rw [restore_refused removed] at refused
  exact absurd (Prod.mk.inj refused).1 (by simp)

/-- A conversation of users 1 and 3 without messages. -/
private def quietConversation : ChatStore where
  conversations := KeyedTable.empty.insert
    (fun id => ⟨id, 1, 3, none, none, none⟩) fun _ => rfl
  messages := .empty
  rooms := []
  emitted := []
  signals := []

/-- The deletion succeeds and hides the conversation, and the restoration is
refused. -/
theorem hidden_conversation_stays_hidden :
    ¬ ∀ (store : ChatStore) (now : Int) (conversationId userId : Nat)
        (conversation : Conversation),
        store.liveConversation conversationId = some conversation →
          conversation.has userId = true →
            Undone store now conversationId userId none := by
  intro undone
  obtain ⟨deleted, _, removed, refused, _⟩ :=
    undone quietConversation 0 1 1 ⟨1, 1, 3, none, none, none⟩ rfl rfl
  rw [restore_refused removed] at refused
  exact absurd (Prod.mk.inj refused).1 (by simp)

end SpareSpace
