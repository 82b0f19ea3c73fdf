import SpareSpace.UpdateRuns

/-!
# A start command without interference

The steps of one start command, any of whose calls to the cache and the repositories
may fail instead of taking effect.  The command marks the token as used before it
unlinks the user it has found and links the owner of the token, and it answers every
exception on the way with a message.  What comes after the mark decides whether the
command is atomic.
-/

namespace SpareSpace

open ColumnRecords Relation UsersService

/-- The moment at which a start command looks for its token, and which of its calls
fail. -/
structure CommandRun where
  findByTelegramIdFails : Bool
  now : Int
  findTokenFails : Bool
  saveTokenFails : Bool
  unlink : UpdateRun
  link : UpdateRun

/-- The next step of a start command.  An exception of `verifyToken` or of an update
ends the command with the message about an invalid token. -/
def CommandRun.next (crypto : Crypto) (run : CommandRun) :
    TelegramStore × TelegramCall → Option (TelegramStore × TelegramCall)
  | (store, .findByTelegramId command) =>
      if run.findByTelegramIdFails then
        some (store, .threw callFailed)
      else
        TelegramCall.next crypto run.now store (.findByTelegramId command)
  | (store, .verifyToken command token existingId) =>
      if run.findTokenFails then
        some (store, .replied .invalidToken none)
      else
        TelegramCall.next crypto run.now store (.verifyToken command token existingId)
  | (store, .saveToken command existingId token) =>
      if run.saveTokenFails then
        some (store, .replied .invalidToken none)
      else
        TelegramCall.next crypto run.now store (.saveToken command existingId token)
  | (store, .unlinkExisting command existingId token call) =>
      (run.unlink.next crypto existingId (store, call)).map fun moved =>
        (moved.1, TelegramCall.afterUnlinkExisting command existingId token moved.2)
  | (store, .link command reply token call) =>
      (run.link.next crypto token.userId (store, call)).map fun moved =>
        (moved.1, TelegramCall.afterLink command reply token moved.2)
  | (store, call) => TelegramCall.next crypto run.now store call

/-- Without failing calls and with a clock that stands still, these are the steps that
interleave. -/
theorem CommandRun.next_of_sound (crypto : Crypto) (now : Int) (store : TelegramStore)
    (call : TelegramCall) :
    CommandRun.next crypto ⟨false, now, false, false, ⟨fun _ => now, fun _ => false⟩,
        ⟨fun _ => now, fun _ => false⟩⟩ (store, call) =
      TelegramCall.next crypto now store call := by
  have updates (userId : Nat) (call : UserCall) :
      UpdateRun.next crypto ⟨fun _ => now, fun _ => false⟩ userId (store, call) =
        store.onUser crypto now userId call := by
    unfold UpdateRun.next
    cases call.updateStep <;> rfl
  cases call <;> simp [CommandRun.next, TelegramCall.next, updates]

/-- The run of a step function leads from one state to another. -/
abbrev Leads {State : Type} (next : State → Option State) : State → State → Prop :=
  ReflTransGen fun state after => next state = some after

/-- The columns of a user that tell a Telegram account. -/
def UserAccount.telegramFields (user : UserAccount) :
    Option Int × Option Int × Option String :=
  (user.account.row .telegramId, user.account.row .telegramChatId,
    user.account.row .telegramUsername)

/-- A user is linked to the Telegram account and the chat of a command, and no other
user to the account. -/
def TelegramStore.Linked (store : TelegramStore) (command : StartCommand)
    (userId : Nat) : Prop :=
  (∃ user, store.accounts.find? userId = some user ∧
    user.telegramId = some command.telegramId ∧
      user.account.row .telegramChatId = some command.chatId) ∧
  ∀ other ∈ store.accounts.rows, other.id ≠ userId →
    other.telegramId ≠ some command.telegramId

/-- The Telegram fields of all users are as before, and the token can be used whenever
it could. -/
def TelegramStore.Unchanged (before after : TelegramStore) (token : String) : Prop :=
  (∀ userId, (after.accounts.find? userId).map UserAccount.telegramFields =
    (before.accounts.find? userId).map UserAccount.telegramFields) ∧
  ∀ now, after.findToken now token = before.findToken now token

namespace CommandRun

variable (run : CommandRun) (store after : TelegramStore) (command : StartCommand)

/-- The owner of the token is linked, or nothing has happened. -/
def Atomic (token : String) : Prop :=
  (∃ found, store.findToken run.now token = some found ∧
    after.Linked command found.userId) ∨ store.Unchanged after token

/-- The command gets past the mark that it puts on its token. -/
structure Accepts (token : String) (found : TelegramAuthToken) : Prop where
  findByTelegramId : run.findByTelegramIdFails = false
  length : utf16Length token = 64
  findToken : run.findTokenFails = false
  valid : store.findToken run.now token = some found
  saveToken : run.saveTokenFails = false

/-- What must hold of a command whose token has been accepted: the account is free and
the owner of the token is saved; or the owner has the account in this chat already; or
another user has it and is saved without it, and then the owner is saved, unless the
owner has it as well. -/
def Links (ownerId : Nat) : Prop :=
  match store.findByTelegramId command.telegramId with
  | none =>
      run.link.Saves store.accounts.rows (store.accounts.find? ownerId)
        command.linkColumns
  | some existing =>
      if existing.id = ownerId then
        store.Linked command ownerId
      else
        run.unlink.Saves store.accounts.rows (some existing) unlinkColumns ∧
          (∀ other ∈ store.accounts.rows, other.id ≠ existing.id →
            other.id ≠ ownerId → other.telegramId ≠ some command.telegramId) ∧
          (run.link.Saves
              (store.accounts.rows.filter fun row => row.id != existing.id)
              (store.accounts.find? ownerId) command.linkColumns ∨
            ∃ owner, store.accounts.find? ownerId = some owner ∧
              owner.telegramId = some command.telegramId ∧
                owner.account.row .telegramChatId = some command.chatId)

variable {run store after command} {crypto : Crypto}

/-- The steps of an update, taken by the command it belongs to. -/
theorem leads_of_steps {update : UpdateRun} {userId : Nat}
    {wrap following : UserCall → TelegramCall}
    (moves : ∀ state, run.next crypto (state.1, wrap state.2) =
      (update.next crypto userId state).map fun moved => (moved.1, following moved.2))
    (flies : ∀ call, call.inFlight = true → following call = wrap call)
    {state last : TelegramStore × UserCall}
    (steps : update.Steps crypto userId state last) :
    Leads (run.next crypto) (state.1, following state.2) (last.1, following last.2) := by
  induction steps using ReflTransGen.head_induction_on with
  | refl => exact .refl
  | head first _ ih =>
      obtain ⟨inFlight, taken⟩ := first
      refine .head ?_ ih
      rw [flies _ inFlight, moves, taken, Option.map_some]

theorem link_leads (crypto : Crypto) (run : CommandRun) (store : TelegramStore)
    (command : StartCommand) (reply : StartReply) (token : TelegramAuthToken) :
    ∃ last, Leads (run.next crypto)
        (store, .link command reply token (UserCall.update command.linkColumns))
        (last.1, TelegramCall.afterLink command reply token last.2) ∧
      run.link.Outcome store token.userId command.linkColumns last := by
  obtain ⟨last, steps, outcome⟩ :=
    run.link.update_steps crypto store token.userId command.linkColumns
  refine ⟨last, @leads_of_steps run crypto run.link token.userId
    (.link command reply token) (TelegramCall.afterLink command reply token)
    (fun _ => rfl) (fun call inFlight => ?_) _ _ steps, outcome⟩
  cases call <;> first | rfl | contradiction

theorem unlink_leads (crypto : Crypto) (run : CommandRun) (store : TelegramStore)
    (command : StartCommand) (existingId : Nat) (token : TelegramAuthToken) :
    ∃ last, Leads (run.next crypto)
        (store, .unlinkExisting command existingId token (UserCall.update unlinkColumns))
        (last.1, TelegramCall.afterUnlinkExisting command existingId token last.2) ∧
      run.unlink.Outcome store existingId unlinkColumns last := by
  obtain ⟨last, steps, outcome⟩ :=
    run.unlink.update_steps crypto store existingId unlinkColumns
  refine ⟨last, @leads_of_steps run crypto run.unlink existingId
    (.unlinkExisting command existingId token)
    (TelegramCall.afterUnlinkExisting command existingId token)
    (fun _ => rfl) (fun call inFlight => ?_) _ _ steps, outcome⟩
  cases call <;> first | rfl | contradiction

/-- A marked token cannot be used. -/
theorem not_unchanged_of_marked {token : String} {found : TelegramAuthToken}
    {telegramId : Int} {now : Int} (valid : store.findToken now token = some found)
    (tokens : after.tokens = (store.saveToken found telegramId).tokens) :
    ¬ store.Unchanged after token := by
  intro unchanged
  have again := unchanged.2 now
  rw [valid] at again
  have present := List.mem_of_find?_eq_some again
  have unused := List.find?_some again
  simp only [Bool.and_eq_true, Bool.not_eq_true'] at unused
  rw [tokens] at present
  rcases (store.tokens.mem_save_iff).mp present with marked | ⟨_, different⟩
  · rw [marked] at unused
    exact absurd unused.1.2 (by simp)
  · exact absurd rfl different

/-- Once the token is marked, all that counts is whether its owner is linked. -/
theorem atomic_iff_linked {token : String} {found : TelegramAuthToken}
    {telegramId : Int} (valid : store.findToken run.now token = some found)
    (tokens : after.tokens = (store.saveToken found telegramId).tokens) :
    run.Atomic store after command token ↔ after.Linked command found.userId := by
  unfold Atomic
  rw [or_iff_left (not_unchanged_of_marked valid tokens), valid]
  simp

/-- The columns of the users decide who is linked. -/
theorem linked_of_sameRows {userId : Nat} (rows : UpdateRun.SameRows store after)
    (linked : store.Linked command userId) : after.Linked command userId := by
  have stored {id : Nat} {first second : TelegramStore}
      (rows : UpdateRun.SameRows first second) {user : UserAccount}
      (found : first.accounts.find? id = some user) :
      ∃ same, second.accounts.find? id = some same ∧
        same.account.row = user.account.row := by
    have row := rows id
    rwa [found, Option.map_some, Option.map_eq_some_iff] at row
  obtain ⟨⟨user, found, telegramId, chatId⟩, others⟩ := linked
  constructor
  · obtain ⟨same, foundAfter, row⟩ := stored rows found
    exact ⟨same, foundAfter, by rw [UserAccount.telegramId, row]; exact telegramId,
      by rw [row, chatId]⟩
  · intro other otherMem different
    obtain ⟨before, foundBefore, row⟩ := stored (fun id => (rows id).symm)
      (after.accounts.find?_key_of_mem otherMem)
    have key := store.accounts.key_of_find? foundBefore
    have apart := others before (store.accounts.mem_of_find? foundBefore)
      (key.symm ▸ different)
    rwa [UserAccount.telegramId, row] at apart

/-- A user who is saved with the columns of a command is linked if no other user has
the account. -/
theorem linked_saveAccount_iff {ownerId : Nat} {later : Account} {user : User}
    {loaded : PartialUser}
    (row : later.row = assign user (overlay loaded command.linkColumns)) :
    (store.saveAccount ⟨ownerId, later⟩).Linked command ownerId ↔
      ∀ other ∈ store.accounts.rows, other.id ≠ ownerId →
        other.telegramId ≠ some command.telegramId := by
  have linked : (store.saveAccount ⟨ownerId, later⟩).accounts.find? ownerId =
      some ⟨ownerId, later⟩ := by
    simp [TelegramStore.saveAccount]
  constructor
  · rintro ⟨_, others⟩ other otherMem different
    exact others other (store.accounts.mem_save_iff.mpr (Or.inr ⟨otherMem, different⟩))
      different
  · intro others
    refine ⟨⟨_, linked, ?_, ?_⟩, fun other otherMem different => ?_⟩
    · rw [UserAccount.telegramId, row]
      rfl
    · rw [row]
      rfl
    · rcases store.accounts.mem_save_iff.mp otherMem with same | ⟨old, _⟩
      · exact absurd (congrArg UserAccount.id same) different
      · exact others other old different

theorem afterFind_of_length {token : String} (existingId : Option Nat)
    (given : command.verificationToken = some token) (length : utf16Length token = 64) :
    TelegramCall.afterFind command existingId = .verifyToken command token existingId := by
  have notEmpty : token ≠ "" := by
    rintro rfl
    exact absurd length (by decide)
  simp [TelegramCall.afterFind, given, Option.filter, notEmpty, length]

theorem afterFind_of_not_length {token : String} (existingId : Option Nat)
    (given : command.verificationToken = some token) (length : utf16Length token ≠ 64) :
    ∃ reply, TelegramCall.afterFind command existingId = .replied reply none := by
  unfold TelegramCall.afterFind
  split
  · exact ⟨_, rfl⟩
  · next other same =>
      obtain ⟨same, _⟩ := Option.filter_eq_some_iff.mp same
      rw [given] at same
      obtain rfl := Option.some.inj same
      exact ⟨_, if_pos length⟩

/-- The first step of a command that does not fail. -/
theorem next_findByTelegramId (finds : run.findByTelegramIdFails = false) :
    run.next crypto (store, .findByTelegramId command) =
      some (store, TelegramCall.afterFind command
        ((store.findByTelegramId command.telegramId).map UserAccount.id)) := by
  simp [next, finds, TelegramCall.next]

/-- A command whose token is not accepted ends without having written anything. -/
theorem leads_of_refused {token : String} (given : command.verificationToken = some token)
    (refused : ¬ ∃ found, run.Accepts store token found) :
    ∃ ended, Leads (run.next crypto) (store, .findByTelegramId command) (store, ended) ∧
      run.next crypto (store, ended) = none := by
  cases finds : run.findByTelegramIdFails with
  | true =>
      have fails : run.next crypto (store, .findByTelegramId command) =
          some (store, .threw callFailed) := if_pos finds
      exact ⟨_, .single fails, rfl⟩
  | false =>
      have first := @next_findByTelegramId run store command crypto finds
      by_cases length : utf16Length token = 64
      · rw [afterFind_of_length _ given length] at first
        cases verifies : run.findTokenFails with
        | true =>
            have fails (existingId : Option Nat) :
                run.next crypto (store, .verifyToken command token existingId) =
                  some (store, .replied .invalidToken none) := if_pos verifies
            exact ⟨_, .head first (.single (fails _)), rfl⟩
        | false =>
            have second (existingId : Option Nat) :
                run.next crypto (store, .verifyToken command token existingId) =
                  TelegramCall.next crypto run.now store
                    (.verifyToken command token existingId) :=
              if_neg (by simp [verifies])
            simp only [TelegramCall.next] at second
            cases valid : store.findToken run.now token with
            | none =>
                simp only [valid] at second
                exact ⟨_, .head first (.single (second _)), rfl⟩
            | some found =>
                simp only [valid] at second
                have saves : run.saveTokenFails = true := by
                  by_contra works
                  exact refused ⟨found, finds, length, verifies, valid,
                    Bool.eq_false_iff.mpr works⟩
                have fails (existingId : Option Nat) :
                    run.next crypto (store, .saveToken command existingId found) =
                      some (store, .replied .invalidToken none) := if_pos saves
                exact ⟨_, .head first (.head (second _) (.single (fails _))), rfl⟩
      · obtain ⟨reply, replied⟩ := @afterFind_of_not_length command token
          ((store.findByTelegramId command.telegramId).map UserAccount.id) given length
        rw [replied] at first
        exact ⟨_, .single first, rfl⟩

/-- An accepted token is marked. -/
theorem leads_of_accepted {token : String} {found : TelegramAuthToken}
    (given : command.verificationToken = some token)
    (accepts : run.Accepts store token found) :
    Leads (run.next crypto) (store, .findByTelegramId command)
      (store.saveToken found command.telegramId, TelegramCall.afterVerify command found
        ((store.findByTelegramId command.telegramId).map UserAccount.id)) := by
  have first := @next_findByTelegramId run store command crypto accepts.findByTelegramId
  rw [afterFind_of_length _ given accepts.length] at first
  have second (existingId : Option Nat) :
      run.next crypto (store, .verifyToken command token existingId) =
        some (store, .saveToken command existingId found) := by
    simp [next, accepts.findToken, TelegramCall.next, accepts.valid]
  have third (existingId : Option Nat) :
      run.next crypto (store, .saveToken command existingId found) =
        some (store.saveToken found command.telegramId,
          TelegramCall.afterVerify command found existingId) := by
    simp [next, accepts.saveToken, TelegramCall.next]
  exact .head first (.head (second _) (.single (third _)))

section Unlinked

variable {existing : UserAccount} {unlinked : Account} {ownerId : Nat}

theorem find?_unlinked (different : existing.id ≠ ownerId) :
    (store.saveAccount ⟨existing.id, unlinked⟩).accounts.find? ownerId =
      store.accounts.find? ownerId := by
  simp [TelegramStore.saveAccount, Ne.symm different]

/-- A property of rows that the row of the unlinked user has is left to the others. -/
theorem forall_unlinked_iff {property : UserAccount → Prop}
    (holds : property ⟨existing.id, unlinked⟩) :
    (∀ row ∈ (store.saveAccount ⟨existing.id, unlinked⟩).accounts.rows, property row) ↔
      ∀ row ∈ store.accounts.rows, row.id ≠ existing.id → property row := by
  simp only [TelegramStore.saveAccount, KeyedTable.mem_save_iff]
  constructor
  · intro all row present different
    exact all row (Or.inr ⟨present, different⟩)
  · rintro all row (rfl | ⟨present, different⟩)
    · exact holds
    · exact all row present different

/-- A row without Telegram shares nothing with a user who is being linked. -/
theorem not_shared_of_unlinked (noAccount : unlinked.row .telegramId = none)
    (noChat : unlinked.row .telegramChatId = none) (column : UniqueColumn) :
    column.shared command.linkColumns unlinked.row = false := by
  cases column <;> simp [UniqueColumn.shared, StartCommand.linkColumns, noAccount, noChat]

theorem saves_unlinked_iff (different : existing.id ≠ ownerId)
    (noAccount : unlinked.row .telegramId = none)
    (noChat : unlinked.row .telegramChatId = none) :
    run.link.Saves (store.saveAccount ⟨existing.id, unlinked⟩).accounts.rows
        ((store.saveAccount ⟨existing.id, unlinked⟩).accounts.find? ownerId)
        command.linkColumns ↔
      run.link.Saves (store.accounts.rows.filter fun row => row.id != existing.id)
        (store.accounts.find? ownerId) command.linkColumns := by
  rw [find?_unlinked different]
  have free (column : UniqueColumn) :
      (∀ row ∈ (store.saveAccount ⟨existing.id, unlinked⟩).accounts.rows,
          column.shared command.linkColumns row.account.row = false) ↔
        ∀ row ∈ store.accounts.rows.filter fun row => row.id != existing.id,
          column.shared command.linkColumns row.account.row = false := by
    rw [forall_unlinked_iff (not_shared_of_unlinked noAccount noChat column)]
    simp only [List.mem_filter, bne_iff_ne, and_imp]
  constructor
  · rintro ⟨unique, loads, deletes, saves⟩
    exact ⟨fun column given => ⟨(unique column given).1,
      (free column).mp (unique column given).2⟩, loads, deletes, saves⟩
  · rintro ⟨unique, loads, deletes, saves⟩
    exact ⟨fun column given => ⟨(unique column given).1,
      (free column).mpr (unique column given).2⟩, loads, deletes, saves⟩

/-- After the unlinking only third users stand in the way. -/
theorem others_unlinked_iff (noAccount : unlinked.row .telegramId = none) :
    (∀ other ∈ (store.saveAccount ⟨existing.id, unlinked⟩).accounts.rows,
        other.id ≠ ownerId → other.telegramId ≠ some command.telegramId) ↔
      ∀ other ∈ store.accounts.rows, other.id ≠ existing.id →
        other.id ≠ ownerId → other.telegramId ≠ some command.telegramId := by
  refine @forall_unlinked_iff store existing unlinked (fun other =>
    other.id ≠ ownerId → other.telegramId ≠ some command.telegramId) fun _ => ?_
  rw [UserAccount.telegramId, noAccount]
  exact (Option.some_ne_none _).symm

end Unlinked

/-- A command whose token is marked ends, and it has linked the owner of the token if and
only if a condition holds. -/
def EndsLinked (crypto : Crypto) (run : CommandRun) (store : TelegramStore)
    (command : StartCommand) (found : TelegramAuthToken) (call : TelegramCall)
    (condition : Prop) : Prop :=
  ∃ after ended, Leads (run.next crypto)
      (store.saveToken found command.telegramId, call) (after, ended) ∧
    run.next crypto (after, ended) = none ∧
    after.tokens = (store.saveToken found command.telegramId).tokens ∧
    (after.Linked command found.userId ↔ condition)

/-- A free account is linked if the update of the owner saves. -/
theorem endsLinked_of_free (crypto : Crypto) (run : CommandRun) (found : TelegramAuthToken)
    (free : ∀ user ∈ store.accounts.rows, user.telegramId ≠ some command.telegramId) :
    EndsLinked crypto run store command found
      (.link command .welcome found (UserCall.update command.linkColumns))
      (run.link.Saves store.accounts.rows (store.accounts.find? found.userId)
        command.linkColumns) := by
  obtain ⟨last, leads, outcome⟩ := link_leads crypto run
    (store.saveToken found command.telegramId) command .welcome found
  cases outcome with
  | saved saves owner row =>
      refine ⟨_, _, leads, rfl, rfl, iff_of_true ?_ saves⟩
      rw [linked_saveAccount_iff row]
      exact fun other otherMem _ => free other otherMem
  | threw stops tokens rows =>
      refine ⟨_, _, leads, rfl, tokens, iff_of_false (fun linked => ?_) stops⟩
      obtain ⟨⟨user, stored, telegramId, _⟩, _⟩ :=
        linked_of_sameRows (fun id => (rows id).symm) linked
      exact free user (store.accounts.mem_of_find? stored) telegramId

section Relinked

variable {existing : UserAccount} {found : TelegramAuthToken}

/-- After the user who had the account has been saved without it, the owner of the token
is linked if no third user has it and the update of the owner saves, or the owner has it
already. -/
theorem link_after_unlink (crypto : Crypto) (run : CommandRun) (store : TelegramStore)
    (command : StartCommand) {unlinked : Account} (different : existing.id ≠ found.userId)
    (noAccount : unlinked.row .telegramId = none)
    (noChat : unlinked.row .telegramChatId = none) :
    ∃ after ended, Leads (run.next crypto)
        (store.saveAccount ⟨existing.id, unlinked⟩,
          .link command .accountRelinked found (UserCall.update command.linkColumns))
        (after, ended) ∧
      run.next crypto (after, ended) = none ∧ after.tokens = store.tokens ∧
      (after.Linked command found.userId ↔
        (∀ other ∈ store.accounts.rows, other.id ≠ existing.id →
          other.id ≠ found.userId → other.telegramId ≠ some command.telegramId) ∧
        (run.link.Saves (store.accounts.rows.filter fun row => row.id != existing.id)
            (store.accounts.find? found.userId) command.linkColumns ∨
          ∃ owner, store.accounts.find? found.userId = some owner ∧
            owner.telegramId = some command.telegramId ∧
              owner.account.row .telegramChatId = some command.chatId)) := by
  obtain ⟨last, links, outcome⟩ := link_leads crypto run
    (store.saveAccount ⟨existing.id, unlinked⟩) command .accountRelinked found
  have goes := @saves_unlinked_iff run store command existing unlinked found.userId
    different noAccount noChat
  have others := @others_unlinked_iff store command existing unlinked found.userId noAccount
  cases outcome with
  | saved saves _ row =>
      refine ⟨_, _, links, rfl, rfl, ?_⟩
      rw [linked_saveAccount_iff row, others]
      exact ⟨fun third => ⟨third, Or.inl (goes.mp saves)⟩, fun holds => holds.1⟩
  | threw stops tokens rows =>
      refine ⟨_, _, links, rfl, tokens, ?_⟩
      rw [goes] at stops
      have kept := Iff.intro
        (@linked_of_sameRows _ _ command found.userId fun id => (rows id).symm)
        (@linked_of_sameRows _ _ command found.userId rows)
      rw [kept, TelegramStore.Linked, others, find?_unlinked different]
      constructor
      · rintro ⟨owner, third⟩
        exact ⟨third, Or.inr owner⟩
      · rintro ⟨third, saves | owner⟩
        · exact absurd saves stops
        · exact ⟨owner, third⟩

/-- The account of another user is linked if that user is saved without it and the owner
is linked then. -/
theorem endsLinked_of_other (crypto : Crypto) (run : CommandRun)
    (stored : store.accounts.find? existing.id = some existing)
    (has : existing.telegramId = some command.telegramId)
    (different : existing.id ≠ found.userId) :
    EndsLinked crypto run store command found
      (.unlinkExisting command existing.id found (UserCall.update unlinkColumns))
      (run.unlink.Saves store.accounts.rows (some existing) unlinkColumns ∧
        (∀ other ∈ store.accounts.rows, other.id ≠ existing.id →
          other.id ≠ found.userId → other.telegramId ≠ some command.telegramId) ∧
        (run.link.Saves (store.accounts.rows.filter fun row => row.id != existing.id)
            (store.accounts.find? found.userId) command.linkColumns ∨
          ∃ owner, store.accounts.find? found.userId = some owner ∧
            owner.telegramId = some command.telegramId ∧
              owner.account.row .telegramChatId = some command.chatId)) := by
  obtain ⟨last, unlinks, outcome⟩ := unlink_leads crypto run
    (store.saveToken found command.telegramId) command existing.id found
  have storedStill : (store.saveToken found command.telegramId).accounts.find?
      existing.id = some existing :=
    stored
  cases outcome with
  | threw stops tokens rows =>
      rw [storedStill] at stops
      refine ⟨_, _, unlinks, rfl, tokens, iff_of_false (fun linked => ?_) fun holds =>
        stops holds.1⟩
      obtain ⟨_, others⟩ := linked_of_sameRows (fun id => (rows id).symm) linked
      exact others existing (store.accounts.mem_of_find? stored) different has
  | @saved user unlinked loaded saves _ row =>
      rw [storedStill] at saves
      have noAccount : unlinked.row .telegramId = none := by
        rw [row]
        rfl
      have noChat : unlinked.row .telegramChatId = none := by
        rw [row]
        rfl
      obtain ⟨after, ended, links, ends, tokens, linked⟩ := @link_after_unlink existing
        found crypto run (store.saveToken found command.telegramId) command unlinked
        different noAccount noChat
      exact ⟨after, ended, unlinks.trans links, ends, tokens,
        linked.trans (and_iff_right saves).symm⟩

end Relinked

/-- The end of a command whose token is marked. -/
theorem links_spec (crypto : Crypto) (run : CommandRun) (store : TelegramStore)
    (command : StartCommand) (found : TelegramAuthToken) :
    EndsLinked crypto run store command found
      (TelegramCall.afterVerify command found
        ((store.findByTelegramId command.telegramId).map UserAccount.id))
      (run.Links store command found.userId) := by
  unfold Links
  cases search : store.findByTelegramId command.telegramId with
  | none =>
      refine endsLinked_of_free crypto run found ?_
      simpa [TelegramStore.findByTelegramId] using search
  | some existing =>
      have stored := store.accounts.find?_key_of_mem (List.mem_of_find?_eq_some search)
      have has : existing.telegramId = some command.telegramId := by
        simpa using List.find?_some search
      by_cases same : existing.id = found.userId
      · refine ⟨_, _, .refl, ?_, rfl, ?_⟩
        · simp [TelegramCall.afterVerify, same]
          rfl
        · simp only [if_pos same]
          rfl
      · simp only [if_neg same, TelegramCall.afterVerify, Option.map_some]
        exact endsLinked_of_other crypto run stored has same

end CommandRun

open CommandRun

/-- The run of a command without failing calls. -/
private def soundRun : CommandRun :=
  ⟨false, 0, false, false, ⟨fun _ => 0, fun _ => false⟩, ⟨fun _ => 0, fun _ => false⟩⟩

/-- The token of user 2. -/
private def secondToken : String :=
  String.ofList (List.replicate 64 'b')

private def chatMember (telegram : PartialUser) : User :=
  assign (newRow "+79001234567" "password" "Ivan" "Petrov" none 0) telegram

/-- User 1 is linked to Telegram account 77 in chat 77; user 2 is not linked and has a
token. -/
private def oneLinked : TelegramStore where
  accounts := (KeyedTable.empty.insert
    (newAccount (chatMember (StartCommand.linkColumns ⟨77, 77, none, none⟩)))
      (newAccount_id _)).insert (newAccount (chatMember fun _ => none)) (newAccount_id _)
  tokens := KeyedTable.empty.insert
    (fun id => ⟨id, 2, secondToken, none, false, 600⟩) fun _ => rfl

/-- The states that a step function goes through, up to a number of steps. -/
private def follow {State : Type} (next : State → Option State) : Nat → State → State
  | 0, state => state
  | count + 1, state =>
      match next state with
      | some after => follow next count after
      | none => state

private theorem leads_follow {State : Type} (next : State → Option State) (count : Nat)
    (state : State) : Leads next state (follow next count state) := by
  induction count generalizing state with
  | zero => exact .refl
  | succ count ih =>
      rw [follow]
      cases taken : next state with
      | none => exact .refl
      | some after => exact .head taken (ih after)

end SpareSpace
