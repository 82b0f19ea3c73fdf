import SpareSpace.ChatGateway
import SpareSpace.Entities
import SpareSpace.InterleavedCalls
import SpareSpace.NamedRows
import Mathlib.Data.Sym.Sym2

/-!
# Interleaved creations, deletions and restorations of conversations

The calls of the chat service that create, delete and restore conversations, cut
at every repository call.  A creation looks for a conversation of the two users,
in either order, and inserts one if it finds none; a restoration looks at nothing
but the row itself.  No constraint of the table stands behind them.
-/

namespace SpareSpace

open InterleavedCalls NamedRows TransitionRuns

/-- The tables of the chat and those that a creation checks. -/
structure ConversationStore extends ChatTables where
  users : List Nat
  listings : KeyedTable Listing Listing.id

inductive ConversationException
  | http (error : HttpException)
  | chat (error : ChatException)
  deriving DecidableEq, Repr

/-- An optional number as a condition sees it: zero counts as none. -/
def truthy (listingId : Option Nat) : Option Nat :=
  listingId.filter (· != 0)

/-- The program points of the calls, each before the step it is named for. -/
inductive ConversationCall
  | validateExistence (currentUserId companionId : Nat) (listingId : Option Nat)
  | isCompanionOwner (currentUserId companionId listingId : Nat)
  | isCurrentUserOwner (currentUserId companionId listingId : Nat)
      (companionOwns : Bool)
  | findExisting (currentUserId companionId : Nat) (listingId : Option Nat)
  | save (currentUserId companionId : Nat) (listingId : Option Nat)
  | findConversationById (conversationId currentUserId : Nat)
  | getLastMessage (conversation : Conversation) (currentUserId : Nat)
  | getUnreadsCount (conversation : Conversation) (lastMessage : Option Message)
      (currentUserId : Nat)
  | deleteConversation (conversationId : Nat) (permanent : Bool)
  | findWithDeleted (conversationId : Nat)
  | restore (conversationId : Nat)
  | found (conversation : Conversation) (preview : ConversationPreview)
  | finished
  | threw (error : ConversationException)

namespace ConversationStore

variable (store : ConversationStore)

def withTables (tables : ChatTables) : ConversationStore :=
  { store with toChatTables := tables }

def isListingOwner (listingId userId : Nat) : Bool :=
  (store.listings.find? listingId).any (·.userId == userId)

/-- The condition of `findExistingConversation`. -/
def between (user1Id user2Id : Nat) (listingId : Option Nat)
    (conversation : Conversation) : Bool :=
  conversation.deletedAt.isNone && conversation.listingId == listingId &&
    (conversation.participant1 == user1Id && conversation.participant2 == user2Id ||
      conversation.participant1 == user2Id && conversation.participant2 == user1Id)

def findExistingConversation (user1Id user2Id : Nat) (listingId : Option Nat) :
    Option Conversation :=
  store.conversations.rows.find? (between user1Id user2Id listingId)

/-- Whether the foreign keys of a new conversation are stored. -/
def referencesStored (user1Id user2Id : Nat) (listingId : Option Nat) : Bool :=
  store.users.contains user1Id && store.users.contains user2Id &&
    listingId.all fun id => (store.listings.find? id).isSome

end ConversationStore

namespace ChatTables

variable (tables : ChatTables)

/-- `conversationRepository.save` of a new conversation. -/
def insertConversation (user1Id user2Id : Nat) (listingId : Option Nat) :
    ChatTables :=
  { tables with
    conversations := tables.conversations.insert
      (fun id => ⟨id, user1Id, user2Id, listingId, none, none⟩) fun _ => rfl }

/-- `conversationRepository.softDelete` and `restore`. -/
def setDeletedAt (conversationId : Nat) (deletedAt : Option Int) : ChatTables :=
  { tables with
    conversations := tables.conversations.mapRows
      (fun conversation =>
        if conversation.id = conversationId then
          { conversation with deletedAt := deletedAt }
        else
          conversation)
      fun conversation => by split <;> rfl }

/-- The transaction of a permanent deletion. -/
def deletePermanently (conversationId : Nat) : ChatTables where
  conversations := tables.conversations.deleteWhere (·.id == conversationId)
  messages := tables.messages.deleteWhere (·.conversationId == conversationId)

end ChatTables

namespace ConversationCall

/-- The steps of the calls.  The input is the clock. -/
def next (now : Int) (store : ConversationStore) :
    ConversationCall → Option (ConversationStore × ConversationCall)
  | validateExistence currentUserId companionId listingId =>
      if !store.users.contains companionId then
        some (store, threw (.http (.notFound s!"User {companionId} not found")))
      else if currentUserId = companionId then
        some (store, threw
          (.http (.badRequest "Cannot create conversation with self")))
      else
        match truthy listingId with
        | some id => some (store, isCompanionOwner currentUserId companionId id)
        | none => some (store, findExisting currentUserId companionId none)
  | isCompanionOwner currentUserId companionId listingId =>
      some (store, isCurrentUserOwner currentUserId companionId listingId
        (store.isListingOwner listingId companionId))
  | isCurrentUserOwner currentUserId companionId listingId companionOwns =>
      if !companionOwns && !store.isListingOwner listingId currentUserId then
        some (store, threw (.http (.badRequest
          "At least one of the participants must be the listing owner")))
      else
        some (store, findExisting currentUserId companionId (some listingId))
  | findExisting currentUserId companionId listingId =>
      match store.findExistingConversation currentUserId companionId listingId with
      | some existing => some (store, findConversationById existing.id currentUserId)
      | none => some (store, save currentUserId companionId listingId)
  | save currentUserId companionId listingId =>
      if store.referencesStored currentUserId companionId listingId then
        some (store.withTables
            (store.insertConversation currentUserId companionId listingId),
          findConversationById store.conversations.nextId currentUserId)
      else
        some (store, threw (.http (.database "foreign key violation")))
  | findConversationById conversationId currentUserId =>
      match store.liveConversation conversationId with
      | some conversation => some (store, getLastMessage conversation currentUserId)
      | none => some (store, threw (.chat (.conversationNotFound conversationId)))
  | getLastMessage conversation currentUserId =>
      some (store, getUnreadsCount conversation (store.getLastMessage conversation.id)
        currentUserId)
  | getUnreadsCount conversation lastMessage currentUserId =>
      some (store, found conversation
        ⟨(store.getUnreadMessageIds conversation.id currentUserId false).length,
          lastMessage⟩)
  | deleteConversation conversationId permanent =>
      if permanent then
        some (store.withTables (store.deletePermanently conversationId), finished)
      else
        some (store.withTables (store.setDeletedAt conversationId (some now)),
          finished)
  | findWithDeleted conversationId =>
      if (store.conversations.find? conversationId).isSome then
        some (store, restore conversationId)
      else
        some (store, threw (.chat (.conversationNotFound conversationId)))
  | restore conversationId =>
      some (store.withTables (store.setDeletedAt conversationId none), finished)
  | found _ _ | finished | threw _ => none

/-- `getOrCreateConversation`, `deleteConversation` and `restoreConversation`. -/
def starts : ConversationCall → Bool
  | validateExistence _ _ _ | deleteConversation _ _ | findWithDeleted _ => true
  | _ => false

end ConversationCall

def conversationSystem : System ConversationStore ConversationCall Int where
  starts := ConversationCall.starts
  next := ConversationCall.next

/-- The two users of a conversation, in no order, and its listing. -/
def Conversation.parties (conversation : Conversation) :
    Sym2 Nat × Option Nat :=
  (s(conversation.participant1, conversation.participant2), conversation.listingId)

/-- The parties of a conversation that is not softly deleted. -/
def Conversation.liveParties (conversation : Conversation) :
    Option (Sym2 Nat × Option Nat) :=
  if conversation.deletedAt = none then some conversation.parties else none

/-- A conversation is inserted, or restored, only while no other conversation of
the same parties is live. -/
def ConversationCall.WritesFirst (config : Config ConversationStore ConversationCall) :
    Move ConversationCall Int → Prop
  | .spawn _ => True
  | .act index _ =>
      match config.calls[index]? with
      | some (save currentUserId companionId listingId) =>
          config.store.findExistingConversation currentUserId companionId
            listingId = none
      | some (restore conversationId) =>
          ∀ restored ∈ config.store.conversations.rows,
            restored.id = conversationId →
              ∀ other ∈ config.store.conversations.rows,
                other.id ≠ conversationId →
                  other.liveParties ≠ some restored.parties
      | _ => True

section Parties

variable {conversations : List Conversation} {conversation : Conversation}

theorem liveParties_eq_some_iff {parties : Sym2 Nat × Option Nat} :
    conversation.liveParties = some parties ↔
      conversation.deletedAt = none ∧ conversation.parties = parties := by
  unfold Conversation.liveParties
  split
  · next live => simp [live]
  · next deleted => simp [deleted]

/-- The search finds exactly the live conversations of the parties. -/
theorem between_iff {user1Id user2Id : Nat} {listingId : Option Nat} :
    ConversationStore.between user1Id user2Id listingId conversation = true ↔
      conversation.liveParties = some (s(user1Id, user2Id), listingId) := by
  rw [liveParties_eq_some_iff]
  simp only [ConversationStore.between, Bool.and_eq_true, Bool.or_eq_true,
    beq_iff_eq, Option.isNone_iff_eq_none, Conversation.parties, Prod.mk.injEq,
    Sym2.eq_iff]
  tauto

theorem liveParties_ne_of_not_found {store : ConversationStore}
    {user1Id user2Id : Nat} {listingId : Option Nat}
    (none : store.findExistingConversation user1Id user2Id listingId = none) :
    ∀ other ∈ store.conversations.rows,
      other.liveParties ≠ some (s(user1Id, user2Id), listingId) := by
  intro other present same
  exact List.find?_eq_none.mp none other present (between_iff.mpr same)

end Parties

namespace ChatTables

variable {tables : ChatTables} (conversationId : Nat)

/-- Setting the mark of deletion keeps one live conversation of each parties,
unless it makes a second one live. -/
theorem oneEach_setDeletedAt {deletedAt : Option Int}
    (oneEach : OneEach Conversation.liveParties tables.conversations.rows)
    (free : deletedAt = none → ∀ restored ∈ tables.conversations.rows,
      restored.id = conversationId → ∀ other ∈ tables.conversations.rows,
        other.id ≠ conversationId →
          other.liveParties ≠ some restored.parties) :
    OneEach Conversation.liveParties
      (tables.setDeletedAt conversationId deletedAt).conversations.rows := by
  have members : ∀ row ∈ (tables.setDeletedAt conversationId
      deletedAt).conversations.rows, ∃ old ∈ tables.conversations.rows,
        (if old.id = conversationId then
          { old with deletedAt := deletedAt } else old) = row :=
    fun row => List.mem_map.mp
  cases stored : tables.conversations.find? conversationId with
  | none =>
      refine oneEach.of_subset fun row present => ?_
      obtain ⟨old, oldMem, rfl⟩ := members row present
      rw [if_neg]
      · exact oldMem
      · rintro rfl
        rw [tables.conversations.find?_key_of_mem oldMem] at stored
        contradiction
  | some target =>
      have targetMem := tables.conversations.mem_of_find? stored
      have targetId := tables.conversations.key_of_find? stored
      refine @OneEach.write _ _ _ _ _ oneEach { target with deletedAt := deletedAt }
        (fun row => row.id ≠ conversationId) ?_ ?_
      · intro row present
        obtain ⟨old, oldMem, rfl⟩ := members row present
        by_cases same : old.id = conversationId
        · obtain rfl := tables.conversations.eq_of_key_eq oldMem targetMem
            (same.trans targetId.symm)
          exact Or.inl (if_pos same)
        · rw [if_neg same]
          exact Or.inr ⟨oldMem, same⟩
      · intro row present stays shared named
        obtain ⟨live, rfl⟩ := liveParties_eq_some_iff.mp named
        exact free live target targetMem targetId row present stays

end ChatTables

namespace ConversationCall

variable {now : Int} {store after : ConversationStore}
  {call moved : ConversationCall}

/-- What a step does to the conversations. -/
inductive Effect (store after : ConversationStore) : ConversationCall → Prop
  | keep {point} (kept : after.conversations = store.conversations) :
      Effect store after point
  | insert {currentUserId companionId listingId}
      (inserted : after.toChatTables =
        store.insertConversation currentUserId companionId listingId) :
      Effect store after (save currentUserId companionId listingId)
  | delete {conversationId deletedAt}
      (marked : after.toChatTables =
        store.setDeletedAt conversationId (some deletedAt)) :
      Effect store after (deleteConversation conversationId false)
  | deletePermanently {conversationId}
      (removed : after.toChatTables = store.deletePermanently conversationId) :
      Effect store after (deleteConversation conversationId true)
  | restore {conversationId}
      (restored : after.toChatTables = store.setDeletedAt conversationId none) :
      Effect store after (restore conversationId)

theorem effect_of_next (moves : next now store call = some (after, moved)) :
    Effect store after call := by
  cases call with
  | validateExistence currentUserId companionId listingId =>
      simp only [next] at moves
      split at moves
      · obtain ⟨rfl, rfl⟩ := Prod.mk.inj (Option.some.inj moves)
        exact .keep rfl
      · split at moves
        · obtain ⟨rfl, rfl⟩ := Prod.mk.inj (Option.some.inj moves)
          exact .keep rfl
        · split at moves
          · obtain ⟨rfl, rfl⟩ := Prod.mk.inj (Option.some.inj moves)
            exact .keep rfl
          · obtain ⟨rfl, rfl⟩ := Prod.mk.inj (Option.some.inj moves)
            exact .keep rfl
  | isCompanionOwner currentUserId companionId listingId =>
      obtain ⟨rfl, rfl⟩ := Prod.mk.inj (Option.some.inj moves)
      exact .keep rfl
  | isCurrentUserOwner currentUserId companionId listingId companionOwns =>
      simp only [next] at moves
      split at moves
      · obtain ⟨rfl, rfl⟩ := Prod.mk.inj (Option.some.inj moves)
        exact .keep rfl
      · obtain ⟨rfl, rfl⟩ := Prod.mk.inj (Option.some.inj moves)
        exact .keep rfl
  | findExisting currentUserId companionId listingId =>
      simp only [next] at moves
      split at moves
      · obtain ⟨rfl, rfl⟩ := Prod.mk.inj (Option.some.inj moves)
        exact .keep rfl
      · obtain ⟨rfl, rfl⟩ := Prod.mk.inj (Option.some.inj moves)
        exact .keep rfl
  | save currentUserId companionId listingId =>
      simp only [next] at moves
      split at moves
      · obtain ⟨rfl, rfl⟩ := Prod.mk.inj (Option.some.inj moves)
        exact .insert rfl
      · obtain ⟨rfl, rfl⟩ := Prod.mk.inj (Option.some.inj moves)
        exact .keep rfl
  | findConversationById conversationId currentUserId =>
      simp only [next] at moves
      split at moves
      · obtain ⟨rfl, rfl⟩ := Prod.mk.inj (Option.some.inj moves)
        exact .keep rfl
      · obtain ⟨rfl, rfl⟩ := Prod.mk.inj (Option.some.inj moves)
        exact .keep rfl
  | getLastMessage conversation currentUserId =>
      obtain ⟨rfl, rfl⟩ := Prod.mk.inj (Option.some.inj moves)
      exact .keep rfl
  | getUnreadsCount conversation lastMessage currentUserId =>
      obtain ⟨rfl, rfl⟩ := Prod.mk.inj (Option.some.inj moves)
      exact .keep rfl
  | deleteConversation conversationId permanent =>
      cases permanent with
      | true =>
          obtain ⟨rfl, rfl⟩ := Prod.mk.inj (Option.some.inj moves)
          exact .deletePermanently rfl
      | false =>
          obtain ⟨rfl, rfl⟩ := Prod.mk.inj (Option.some.inj moves)
          exact .delete rfl
  | findWithDeleted conversationId =>
      simp only [next] at moves
      split at moves
      · obtain ⟨rfl, rfl⟩ := Prod.mk.inj (Option.some.inj moves)
        exact .keep rfl
      · obtain ⟨rfl, rfl⟩ := Prod.mk.inj (Option.some.inj moves)
        exact .keep rfl
  | restore conversationId =>
      obtain ⟨rfl, rfl⟩ := Prod.mk.inj (Option.some.inj moves)
      exact .restore rfl
  | found | finished | threw => contradiction

theorem Effect.oneEach {config : Config ConversationStore ConversationCall}
    {index : Nat} (effect : Effect config.store after call)
    (stood : config.calls[index]? = some call)
    (first : WritesFirst config (.act index now))
    (oneEach : OneEach Conversation.liveParties config.store.conversations.rows) :
    OneEach Conversation.liveParties after.conversations.rows := by
  cases effect with
  | keep kept =>
      rw [kept]
      exact oneEach
  | insert inserted =>
      simp only [WritesFirst, stood] at first
      rw [inserted]
      refine oneEach.add
        (fun row => (config.store.conversations.mem_insert_iff _ _).mp) ?_
      intro other present shared named same
      exact liveParties_ne_of_not_found first other present (same.trans named.symm)
  | delete marked =>
      rw [marked]
      exact ChatTables.oneEach_setDeletedAt _ oneEach (by simp)
  | deletePermanently removed =>
      rw [removed]
      exact oneEach.of_subset fun row present => List.mem_of_mem_filter present
  | restore restored =>
      simp only [WritesFirst, stood] at first
      rw [restored]
      exact ChatTables.oneEach_setDeletedAt _ oneEach fun _ => first

end ConversationCall

/-- Of each two users and listing at most one conversation is live, if each is
inserted or restored while no other is. -/
theorem one_live_conversation_each
    {start last : Config ConversationStore ConversationCall}
    (oneEach : OneEach Conversation.liveParties start.store.conversations.rows)
    (reached : Run conversationSystem.step ConversationCall.WritesFirst start
      last) :
    OneEach Conversation.liveParties last.store.conversations.rows := by
  refine store_invariant conversationSystem
    (fun store => OneEach Conversation.liveParties store.conversations.rows) oneEach ?_
    reached
  intro config index now call store moved first stood moves oneEach
  exact (ConversationCall.effect_of_next moves).oneEach stood first oneEach

/-- Users without conversations. -/
private def noConversations : Config ConversationStore ConversationCall where
  store :=
    { conversations := KeyedTable.empty
      messages := KeyedTable.empty
      users := [1, 2, 3]
      listings := KeyedTable.empty }
  calls := []

/-- The call at an index takes some steps. -/
private def proceeds (index count : Nat) : List (Move ConversationCall Int) :=
  List.replicate count (.act index 0)

/-- The conversation that a call has returned. -/
private def ConversationCall.foundId : ConversationCall → Option Nat
  | found conversation _ => some conversation.id
  | _ => none

private def writesAlone (config : Config ConversationStore ConversationCall) :
    Move ConversationCall Int → Bool
  | .spawn _ => true
  | .act index _ =>
      match config.calls[index]? with
      | some (.save currentUserId companionId listingId) =>
          (config.store.findExistingConversation currentUserId companionId
            listingId).isNone
      | some (.restore conversationId) =>
          config.store.conversations.rows.all fun restored =>
            restored.id != conversationId || config.store.conversations.rows.all fun other =>
              other.id == conversationId || other.liveParties != some restored.parties
      | _ => true

private theorem writesFirst_of_writesAlone
    (config : Config ConversationStore ConversationCall)
    (label : Move ConversationCall Int) (alone : writesAlone config label = true) :
    ConversationCall.WritesFirst config label := by
  cases label with
  | spawn => trivial
  | act index now =>
      simp only [writesAlone, ConversationCall.WritesFirst] at alone ⊢
      split
      · next stood =>
          simp only [stood, Option.isNone_iff_eq_none] at alone
          exact alone
      · next conversationId stood =>
          simp only [stood, List.all_eq_true, Bool.or_eq_true, bne_iff_ne, beq_iff_eq] at alone
          intro restored stored named other present different
          have clear := (alone restored stored).resolve_left fun others => others named
          exact (clear other present).resolve_left different
      · trivial

/-- Two users write to each other, the second while the first is creating their
conversation, which the second then finds; a third user writes to the first, and the first
conversation is deleted and restored. -/
private def writesToTwo : List (Move ConversationCall Int) :=
  [.spawn (.validateExistence 1 2 none), .spawn (.validateExistence 2 1 none)] ++
    proceeds 0 2 ++ proceeds 1 1 ++ proceeds 0 1 ++ proceeds 1 4 ++ proceeds 0 3 ++
    .spawn (.validateExistence 3 1 none) :: proceeds 2 6 ++
    [.spawn (.deleteConversation 1 false), .act 3 0] ++
    [.spawn (.findWithDeleted 1), .act 4 0, .act 4 0]

theorem one_live_conversation_each_sample :
    ∃ last, Run conversationSystem.step ConversationCall.WritesFirst noConversations last ∧
      OneEach Conversation.liveParties last.store.conversations.rows ∧
      last.store.conversations.rows.map Conversation.liveParties =
        [some (s(2, 1), none), some (s(1, 3), none)] ∧
      (last.calls.take 2).map ConversationCall.foundId = [some 1, some 1] := by
  have reached : Run conversationSystem.step ConversationCall.WritesFirst noConversations _ :=
    Run.start.executeChecked writesAlone writesFirst_of_writesAlone writesToTwo rfl
  exact ⟨_, reached, one_live_conversation_each (OneEach.nil _) reached, by decide, by decide⟩

/-- Two users write to each other at once, and both find no conversation. -/
private def bothCreate : List (Move ConversationCall Int) :=
  [.spawn (.validateExistence 1 2 none), .spawn (.validateExistence 2 1 none)] ++
    proceeds 0 2 ++ proceeds 1 2 ++ [.act 0 0, .act 1 0]

/-- A deleted conversation is restored beside the one created since. -/
private def createsAgain : List (Move ConversationCall Int) :=
  .spawn (.validateExistence 1 2 none) :: proceeds 0 6 ++
    [.spawn (.deleteConversation 1 false), .act 1 0] ++
    .spawn (.validateExistence 1 2 none) :: proceeds 2 6 ++
    [.spawn (.findWithDeleted 1), .act 3 0, .act 3 0]

theorem two_live_conversations :
    (∃ last, execute conversationSystem.step noConversations bothCreate = some last ∧
      ¬ OneEach Conversation.liveParties last.store.conversations.rows) ∧
    ∃ last, execute conversationSystem.step noConversations createsAgain = some last ∧
      ¬ OneEach Conversation.liveParties last.store.conversations.rows := by
  constructor
  · refine ⟨_, rfl, fun oneEach => ?_⟩
    have same := oneEach ⟨1, 1, 2, none, none, none⟩ (by decide)
      ⟨2, 2, 1, none, none, none⟩ (by decide) (s(1, 2), none) rfl (by decide)
    contradiction
  · refine ⟨_, rfl, fun oneEach => ?_⟩
    have same := oneEach ⟨1, 1, 2, none, none, none⟩ (by decide)
      ⟨2, 1, 2, none, none, none⟩ (by decide) (s(1, 2), none) rfl rfl
    contradiction

end SpareSpace
