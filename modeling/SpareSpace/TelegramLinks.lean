import SpareSpace.AuthService
import SpareSpace.NamedRows
import SpareSpace.UserCalls

/-!
# Interleaved linking of Telegram accounts

The start command of the bot and the unlinking of an account, cut at every
repository and cache call.  The bot does not wait for one command before the
next.  A Telegram account is free when an update looks for it and may be taken
when the update saves; a token is unused when it is found and may be used when
it is marked.  The column `telegram_id` is not unique.
-/

namespace SpareSpace

open ColumnRecords InterleavedCalls NamedRows TransitionRuns UsersService

structure TelegramAuthToken where
  id : Nat
  userId : Nat
  token : String
  telegramId : Option Int
  used : Bool
  expiresAt : Int
  deriving DecidableEq, Repr

structure TelegramStore where
  accounts : KeyedTable UserAccount UserAccount.id
  tokens : KeyedTable TelegramAuthToken TelegramAuthToken.id

/-- The Telegram account that a user is linked to. -/
def UserAccount.telegramId (user : UserAccount) : Option Int :=
  user.account.row .telegramId

/-- Whether a row has the value that an update gives a unique column. -/
def UniqueColumn.shared (update : PartialUser) (row : User) : UniqueColumn → Bool
  | phone => (update .phone).any fun value => row .phone == value
  | email => (update .email).any fun value => row .email == value
  | telegramId => (update .telegramId).any fun value => row .telegramId == value
  | telegramChatId =>
      (update .telegramChatId).any fun value => row .telegramChatId == value

namespace TelegramStore

variable (store : TelegramStore)

/-- `usersService.findByTelegramId`. -/
def findByTelegramId (telegramId : Int) : Option UserAccount :=
  store.accounts.rows.find? fun user => user.telegramId == some telegramId

/-- The token that `verifyToken` finds: unused and not expired. -/
def findToken (now : Int) (token : String) : Option TelegramAuthToken :=
  store.tokens.rows.find? fun row =>
    row.token == token && !row.used && decide (now < row.expiresAt)

/-- Mark a token as used by a Telegram account. -/
def saveToken (token : TelegramAuthToken) (telegramId : Int) : TelegramStore :=
  { store with
    tokens := store.tokens.save
      { token with used := true, telegramId := some telegramId } }

def saveAccount (user : UserAccount) : TelegramStore :=
  { store with accounts := store.accounts.save user }

/-- What a call of the users service finds outside the account it is on. -/
def environment (now : Int) : UserCall → UserEnvironment
  | .checking update _ =>
      ⟨now, fun column =>
        store.accounts.rows.any fun user => column.shared update user.account.row⟩
  | _ => ⟨now, fun _ => false⟩

/-- A step of a call of the users service on the account of a user. -/
def onUser (crypto : Crypto) (now : Int) (userId : Nat) (call : UserCall) :
    Option (TelegramStore × UserCall) :=
  match store.accounts.find? userId with
  | none => some (store, .threw (userNotFound userId))
  | some user =>
      (UserCall.next crypto (store.environment now call) user.account call).map
        fun moved => (store.saveAccount ⟨userId, moved.1⟩, moved.2)

end TelegramStore

/-- A start command: who sent it, in which chat, and with which token. -/
structure StartCommand where
  telegramId : Int
  chatId : Int
  verificationToken : Option String
  username : Option String
  deriving DecidableEq, Repr

/-- The columns of a linked account. -/
def StartCommand.linkColumns (command : StartCommand) : PartialUser
  | .telegramId => some (some command.telegramId)
  | .telegramChatId => some (some command.chatId)
  | .telegramUsername =>
      some ((command.username.filter (· ≠ "")).map fun username => "@" ++ username)
  | _ => none

/-- The columns of an account without Telegram. -/
def unlinkColumns : PartialUser
  | .telegramId => some none
  | .telegramChatId => some none
  | .telegramUsername => some none
  | _ => none

/-- The messages that end a start command. -/
inductive StartReply
  | welcome
  | bindingInstructions
  | invalidToken
  | alreadyLinked
  | accountRelinked
  deriving DecidableEq, Repr

/-- The program points of the calls, each before the step it is named for.  From
the acceptance of a token on, a command keeps the token. -/
inductive TelegramCall
  | findByTelegramId (command : StartCommand)
  | verifyToken (command : StartCommand) (token : String) (existingId : Option Nat)
  | saveToken (command : StartCommand) (existingId : Option Nat)
      (token : TelegramAuthToken)
  | unlinkExisting (command : StartCommand) (existingId : Nat)
      (token : TelegramAuthToken) (call : UserCall)
  | link (command : StartCommand) (reply : StartReply) (token : TelegramAuthToken)
      (call : UserCall)
  | replied (reply : StartReply) (accepted : Option TelegramAuthToken)
  | unlinkTelegramAccount (userId : Nat) (telegramId : Option Int)
  | checkLinked (userId : Nat) (telegramId : Int) (call : UserCall)
  | unlink (userId : Nat) (call : UserCall)
  | unlinked
  | threw (error : HttpException)

namespace TelegramCall

/-- What follows the search for the user of the Telegram account. -/
def afterFind (command : StartCommand) (existingId : Option Nat) : TelegramCall :=
  match command.verificationToken.filter (· ≠ "") with
  | none =>
      replied (if existingId.isSome then .welcome else .bindingInstructions) none
  | some token =>
      if utf16Length token ≠ 64 then
        replied .invalidToken none
      else
        verifyToken command token existingId

/-- What follows the acceptance of a token. -/
def afterVerify (command : StartCommand) (token : TelegramAuthToken) :
    Option Nat → TelegramCall
  | none => link command .welcome token (UserCall.update command.linkColumns)
  | some existingId =>
      if existingId = token.userId then
        replied .alreadyLinked (some token)
      else
        unlinkExisting command existingId token (UserCall.update unlinkColumns)

/-- What follows a step of the update that unlinks the user found. -/
def afterUnlinkExisting (command : StartCommand) (existingId : Nat)
    (token : TelegramAuthToken) : UserCall → TelegramCall
  | .updated _ =>
      link command .accountRelinked token (UserCall.update command.linkColumns)
  | .threw _ => replied .invalidToken (some token)
  | call => unlinkExisting command existingId token call

/-- What follows a step of the update that links the user of the token. -/
def afterLink (command : StartCommand) (reply : StartReply)
    (token : TelegramAuthToken) : UserCall → TelegramCall
  | .updated _ => replied reply (some token)
  | .threw _ => replied .invalidToken (some token)
  | call => link command reply token call

/-- What follows a step of the load before an unlinking that names the Telegram
account. -/
def afterCheck (userId : Nat) (telegramId : Int) : UserCall → TelegramCall
  | .found user =>
      if (user .telegramId).join ≠ some telegramId then
        threw (.conflict "Указанный Telegram аккаунт не привязан к пользователю")
      else
        unlink userId (UserCall.update unlinkColumns)
  | .threw error => threw error
  | call => checkLinked userId telegramId call

/-- What follows a step of the update of `unlinkTelegramAccount`. -/
def afterUnlink (userId : Nat) : UserCall → TelegramCall
  | .updated _ => unlinked
  | .threw error => threw error
  | call => unlink userId call

def next (crypto : Crypto) (now : Int) (store : TelegramStore) :
    TelegramCall → Option (TelegramStore × TelegramCall)
  | findByTelegramId command =>
      some (store, afterFind command
        ((store.findByTelegramId command.telegramId).map UserAccount.id))
  | verifyToken command token existingId =>
      match store.findToken now token with
      | none => some (store, replied .invalidToken none)
      | some found => some (store, saveToken command existingId found)
  | saveToken command existingId token =>
      some (store.saveToken token command.telegramId,
        afterVerify command token existingId)
  | unlinkExisting command existingId token call =>
      (store.onUser crypto now existingId call).map fun moved =>
        (moved.1, afterUnlinkExisting command existingId token moved.2)
  | link command reply token call =>
      (store.onUser crypto now token.userId call).map fun moved =>
        (moved.1, afterLink command reply token moved.2)
  | unlinkTelegramAccount userId telegramId =>
      match telegramId.filter (· ≠ 0) with
      | none => some (store, unlink userId (UserCall.update unlinkColumns))
      | some telegramId =>
          some (store, checkLinked userId telegramId UserCall.findById)
  | checkLinked userId telegramId call =>
      (store.onUser crypto now userId call).map fun moved =>
        (moved.1, afterCheck userId telegramId moved.2)
  | unlink userId call =>
      (store.onUser crypto now userId call).map fun moved =>
        (moved.1, afterUnlink userId moved.2)
  | replied _ _ | unlinked | threw _ => none

/-- The start command and the unlinking, as they arrive. -/
def starts : TelegramCall → Bool
  | findByTelegramId _ | unlinkTelegramAccount _ _ => true
  | _ => false

/-- The call of the users service that is under way, and on whom. -/
def userCall : TelegramCall → Option (Nat × UserCall)
  | unlinkExisting _ existingId _ call => some (existingId, call)
  | link _ _ token call => some (token.userId, call)
  | checkLinked userId _ call | unlink userId call => some (userId, call)
  | _ => none

/-- The token that `verifyToken` has accepted for the command. -/
def accepted : TelegramCall → Option Nat
  | unlinkExisting _ _ token _ | link _ _ token _ => some token.id
  | replied _ token => token.map TelegramAuthToken.id
  | _ => none

end TelegramCall

/-- Start commands from any Telegram accounts and unlinkings of any users. -/
def telegramSystem (crypto : Crypto) : System TelegramStore TelegramCall Int where
  starts := TelegramCall.starts
  next := TelegramCall.next crypto

/-- No other user is linked to the Telegram account that an entity gives. -/
def TelegramStore.Free (store : TelegramStore) (userId : Nat)
    (entity : PartialUser) : Prop :=
  ∀ telegramId, entity .telegramId = some (some telegramId) →
    ∀ other ∈ store.accounts.rows, other.id ≠ userId →
      other.telegramId ≠ some telegramId

namespace TelegramCall

/-- A user is saved with a Telegram account only while no other user has it. -/
def SavesFree (config : Config TelegramStore TelegramCall) :
    Move TelegramCall Int → Prop
  | .spawn _ => True
  | .act index _ => ∀ call userId change user,
      config.calls[index]? = some call →
        call.userCall = some (userId, .saving change user) →
          config.store.Free userId (overlay user change.patch)

/-- A token is marked as used only while it is stored as unused. -/
def MarksUnused (config : Config TelegramStore TelegramCall) :
    Move TelegramCall Int → Prop
  | .spawn _ => True
  | .act index _ => ∀ command existingId token,
      config.calls[index]? = some (saveToken command existingId token) →
        ∃ row, config.store.tokens.find? token.id = some row ∧ row.used = false

/-- What a step does: it leaves the store, accepts a token, or is a step of a call
of the users service. -/
inductive Effect (crypto : Crypto) (now : Int) (store after : TelegramStore) :
    TelegramCall → TelegramCall → Prop
  | keep {call moved} (kept : after = store)
      (same : moved.accepted = call.accepted) :
      Effect crypto now store after call moved
  | accept {command existingId token}
      (marked : after = store.saveToken token command.telegramId) :
      Effect crypto now store after (saveToken command existingId token)
        (afterVerify command token existingId)
  | user {call moved userId inner later}
      (on : call.userCall = some (userId, inner))
      (moves : store.onUser crypto now userId inner = some (after, later))
      (same : moved.accepted = call.accepted) :
      Effect crypto now store after call moved

theorem accepted_afterFind (command : StartCommand) (existingId : Option Nat) :
    (afterFind command existingId).accepted = none := by
  unfold afterFind
  split
  · rfl
  · split <;> rfl

theorem accepted_afterVerify (command : StartCommand) (token : TelegramAuthToken)
    (existingId : Option Nat) :
    (afterVerify command token existingId).accepted = some token.id := by
  cases existingId with
  | none => rfl
  | some existingId =>
      simp only [afterVerify]
      split <;> rfl

theorem accepted_afterUnlinkExisting (command : StartCommand) (existingId : Nat)
    (token : TelegramAuthToken) (call : UserCall) :
    (afterUnlinkExisting command existingId token call).accepted =
      some token.id := by
  cases call <;> rfl

theorem accepted_afterLink (command : StartCommand) (reply : StartReply)
    (token : TelegramAuthToken) (call : UserCall) :
    (afterLink command reply token call).accepted = some token.id := by
  cases call <;> rfl

theorem accepted_afterCheck (userId : Nat) (telegramId : Int) (call : UserCall) :
    (afterCheck userId telegramId call).accepted = none := by
  cases call with
  | found user =>
      simp only [afterCheck]
      split <;> rfl
  | _ => rfl

theorem accepted_afterUnlink (userId : Nat) (call : UserCall) :
    (afterUnlink userId call).accepted = none := by
  cases call <;> rfl

variable {crypto : Crypto} {now : Int} {store after : TelegramStore}
  {call moved : TelegramCall}

theorem effect_of_next
    (moves : next crypto now store call = some (after, moved)) :
    Effect crypto now store after call moved := by
  cases call with
  | findByTelegramId command =>
      obtain ⟨rfl, rfl⟩ := Prod.mk.inj (Option.some.inj moves)
      exact .keep rfl (accepted_afterFind command _)
  | verifyToken command token existingId =>
      simp only [next] at moves
      split at moves <;>
        (obtain ⟨rfl, rfl⟩ := Prod.mk.inj (Option.some.inj moves)
         exact .keep rfl rfl)
  | saveToken command existingId token =>
      obtain ⟨rfl, rfl⟩ := Prod.mk.inj (Option.some.inj moves)
      exact .accept rfl
  | unlinkExisting command existingId token call =>
      obtain ⟨⟨later, inner⟩, steps, same⟩ := Option.map_eq_some_iff.mp moves
      obtain ⟨rfl, rfl⟩ := Prod.mk.inj same
      exact .user rfl steps (accepted_afterUnlinkExisting command existingId token inner)
  | link command reply token call =>
      obtain ⟨⟨later, inner⟩, steps, same⟩ := Option.map_eq_some_iff.mp moves
      obtain ⟨rfl, rfl⟩ := Prod.mk.inj same
      exact .user rfl steps (accepted_afterLink command reply token inner)
  | unlinkTelegramAccount userId telegramId =>
      simp only [next] at moves
      split at moves <;>
        (obtain ⟨rfl, rfl⟩ := Prod.mk.inj (Option.some.inj moves)
         exact .keep rfl rfl)
  | checkLinked userId telegramId call =>
      obtain ⟨⟨later, inner⟩, steps, same⟩ := Option.map_eq_some_iff.mp moves
      obtain ⟨rfl, rfl⟩ := Prod.mk.inj same
      exact .user rfl steps (accepted_afterCheck userId telegramId inner)
  | unlink userId call =>
      obtain ⟨⟨later, inner⟩, steps, same⟩ := Option.map_eq_some_iff.mp moves
      obtain ⟨rfl, rfl⟩ := Prod.mk.inj same
      exact .user rfl steps (accepted_afterUnlink userId inner)
  | replied | unlinked | threw => contradiction

end TelegramCall

/-- A step of a call of the users service leaves the Telegram account of its user,
or gives it the one of the entity it saves. -/
theorem UserCall.telegramId_of_next {crypto : Crypto} {environment : UserEnvironment}
    {account after : Account} {call moved : UserCall}
    (moves : UserCall.next crypto environment account call = some (after, moved)) :
    after.row .telegramId = account.row .telegramId ∨
      ∃ change user, call = saving change user ∧
        overlay user change.patch .telegramId = some (after.row .telegramId) := by
  cases effect_of_next moves with
  | conflict taken kept => exact Or.inl (by rw [kept])
  | check kept | checked kept | load kept | exist kept => exact Or.inl (by rw [kept])
  | fill row cache | loaded row cache | delete row cache =>
      exact Or.inl (by rw [row])
  | invalidate row cache | invalidateStatus row cache =>
      exact Or.inl (by rw [row])
  | @write status row cache =>
      have unset : status.columns .telegramId = none := by cases status <;> rfl
      exact Or.inl (by rw [row, assign_of_none unset])
  | writeOnline row cache =>
      exact Or.inl (by rw [row]; exact assign_of_none rfl)
  | @save change user row cache =>
      cases sets : overlay user change.patch .telegramId with
      | none => exact Or.inl (by rw [row, assign_of_none sets])
      | some telegramId =>
          refine Or.inr ⟨change, user, rfl, ?_⟩
          rw [sets, row, assign_of_some sets]

namespace TelegramStore

variable {crypto : Crypto} {now : Int} {store after : TelegramStore} {userId : Nat}
  {call moved : UserCall}

theorem tokens_onUser
    (moves : store.onUser crypto now userId call = some (after, moved)) :
    after.tokens = store.tokens := by
  unfold onUser at moves
  split at moves
  · obtain ⟨rfl, rfl⟩ := Prod.mk.inj (Option.some.inj moves)
    rfl
  · obtain ⟨later, _, same⟩ := Option.map_eq_some_iff.mp moves
    obtain ⟨rfl, _⟩ := Prod.mk.inj same
    rfl

/-- Users stay linked one-to-one if a user is saved with a free Telegram account. -/
theorem oneEach_onUser
    (moves : store.onUser crypto now userId call = some (after, moved))
    (free : ∀ change user, call = .saving change user →
      store.Free userId (overlay user change.patch))
    (oneEach : OneEach UserAccount.telegramId store.accounts.rows) :
    OneEach UserAccount.telegramId after.accounts.rows := by
  unfold onUser at moves
  split at moves
  · obtain ⟨rfl, rfl⟩ := Prod.mk.inj (Option.some.inj moves)
    exact oneEach
  · next user found =>
      obtain ⟨⟨account, later⟩, steps, same⟩ := Option.map_eq_some_iff.mp moves
      obtain ⟨rfl, rfl⟩ := Prod.mk.inj same
      obtain ⟨userMem, userKey⟩ := (store.accounts.find?_eq_some_iff).mp found
      refine oneEach.write (fun row => store.accounts.mem_save_iff.mp) ?_
      intro row rowMem different shared written named
      rcases UserCall.telegramId_of_next steps with unchanged | ⟨change, entity, saves, sets⟩
      · have linked : user.telegramId = some shared := unchanged.symm.trans written
        have same := oneEach row rowMem user userMem shared named linked
        exact different (same ▸ userKey)
      · have gives : overlay entity change.patch .telegramId = some (some shared) :=
          sets.trans (congrArg some written)
        exact free change entity saves shared gives row rowMem different named

end TelegramStore

namespace TelegramCall

variable {crypto : Crypto} {now : Int} {store after : TelegramStore}
  {call moved : TelegramCall}

theorem Effect.oneEach (effect : Effect crypto now store after call moved)
    (free : ∀ userId change user,
      call.userCall = some (userId, .saving change user) →
        store.Free userId (overlay user change.patch))
    (oneEach : OneEach UserAccount.telegramId store.accounts.rows) :
    OneEach UserAccount.telegramId after.accounts.rows := by
  cases effect with
  | keep kept same => exact kept ▸ oneEach
  | accept marked => exact marked ▸ oneEach
  | user on moves same =>
      refine TelegramStore.oneEach_onUser moves ?_ oneEach
      rintro change user rfl
      exact free _ change user on

/-- The accepted tokens are pairwise different, and stored as used. -/
structure AcceptedOnce (config : Config TelegramStore TelegramCall) : Prop where
  nodup : (config.calls.filterMap accepted).Nodup
  used : ∀ id ∈ config.calls.filterMap accepted,
    ∃ row, config.store.tokens.find? id = some row ∧ row.used = true

theorem AcceptedOnce.quiet {config : Config TelegramStore TelegramCall} {index : Nat}
    (once : AcceptedOnce config) (found : config.calls[index]? = some call)
    (tokens : after.tokens = config.store.tokens)
    (same : moved.accepted = call.accepted) :
    AcceptedOnce ⟨after, config.calls.set index moved⟩ := by
  have values := filterMap_set_same accepted found same
  exact ⟨values ▸ once.nodup, by rw [values, tokens]; exact once.used⟩

/-- An unused token that is marked and accepted has not been accepted before. -/
theorem AcceptedOnce.accept {config : Config TelegramStore TelegramCall} {index : Nat}
    {command : StartCommand} {existingId : Option Nat} {token : TelegramAuthToken}
    (once : AcceptedOnce config)
    (found : config.calls[index]? = some (saveToken command existingId token))
    (unused : ∃ row, config.store.tokens.find? token.id = some row ∧
      row.used = false) :
    AcceptedOnce ⟨config.store.saveToken token command.telegramId,
      config.calls.set index (afterVerify command token existingId)⟩ := by
  have adds := filterMap_set_perm accepted (afterVerify command token existingId)
    found rfl
  rw [accepted_afterVerify] at adds
  have new : token.id ∉ config.calls.filterMap accepted := by
    intro old
    obtain ⟨row, stored, fresh⟩ := unused
    obtain ⟨other, same, used⟩ := once.used token.id old
    obtain rfl := Option.some.inj (stored.symm.trans same)
    rw [fresh] at used
    contradiction
  constructor
  · exact adds.nodup_iff.mpr (List.nodup_cons.mpr ⟨new, once.nodup⟩)
  · intro id present
    simp only [TelegramStore.saveToken, KeyedTable.find?_save]
    by_cases same : id = token.id
    · exact ⟨_, if_pos same, rfl⟩
    · rw [if_neg same]
      rcases List.mem_cons.mp (adds.mem_iff.mp present) with rfl | old
      · exact absurd rfl same
      · exact once.used id old

end TelegramCall

section Runs

open TelegramCall

variable {crypto : Crypto} {start last : Config TelegramStore TelegramCall}

theorem linked_once
    (oneEach : OneEach UserAccount.telegramId start.store.accounts.rows)
    (reached : Run (telegramSystem crypto).step SavesFree start last) :
    OneEach UserAccount.telegramId last.store.accounts.rows := by
  refine store_invariant (telegramSystem crypto)
    (fun store => OneEach UserAccount.telegramId store.accounts.rows) oneEach ?_ reached
  intro config index now call store moved free found moves oneEach
  exact (effect_of_next moves).oneEach
    (fun userId change user => free call userId change user found) oneEach

theorem accepted_once (noCalls : start.calls = [])
    (reached : Run (telegramSystem crypto).step MarksUnused start last) :
    AcceptedOnce last := by
  refine Run.invariant AcceptedOnce ?_ ?_ reached
  · constructor <;> simp [noCalls]
  · intro before label after once unused taken
    cases label with
    | spawn call =>
        obtain ⟨arrives, rfl⟩ := System.step_spawn taken
        have nothing : accepted call = none := by
          cases call <;> first | rfl | contradiction
        have values := filterMap_append_of_none nothing before.calls
        exact ⟨values ▸ once.nodup, values ▸ once.used⟩
    | act index now =>
        obtain ⟨call, store, moved, found, moves, rfl⟩ := System.step_act taken
        cases effect_of_next moves with
        | keep kept same => exact once.quiet found (by rw [kept]) same
        | accept marked =>
            subst marked
            exact once.accept found (unused _ _ _ found)
        | user on moves same =>
            exact once.quiet found (TelegramStore.tokens_onUser moves) same

/-- A Telegram account is linked to one user at most in every run in which a user
is saved with one only while no other user has it, and a token is accepted for one
command at most in every run in which it is marked only while it is unused. -/
theorem telegram_links_single (noCalls : start.calls = [])
    (oneEach : OneEach UserAccount.telegramId start.store.accounts.rows) :
    (Run (telegramSystem crypto).step SavesFree start last →
      OneEach UserAccount.telegramId last.store.accounts.rows) ∧
    (Run (telegramSystem crypto).step MarksUnused start last →
      (last.calls.filterMap accepted).Nodup) :=
  ⟨linked_once oneEach, fun reached => (accepted_once noCalls reached).nodup⟩

end Runs

private def subscriber (phone : String) : User :=
  newRow phone "password" "Ivan" "Petrov" none 0

private def linkToken (userId : Nat) (letter : Char) (id : Nat) : TelegramAuthToken :=
  ⟨id, userId, String.ofList (List.replicate 64 letter), none, false, 600⟩

/-- Two users, neither of them linked, with a token each. -/
private def twoTokens : Config TelegramStore TelegramCall where
  store :=
    { accounts := (KeyedTable.empty.insert (newAccount (subscriber "+79001234567"))
        (newAccount_id _)).insert (newAccount (subscriber "+79007654321"))
          (newAccount_id _)
      tokens := (KeyedTable.empty.insert (linkToken 1 'a') fun _ => rfl).insert
        (linkToken 2 'b') fun _ => rfl }
  calls := []

/-- The start command of one Telegram account with a token. -/
private def commands (letter : Char) : Move TelegramCall Int :=
  .spawn (.findByTelegramId
    ⟨77, 77, some (String.ofList (List.replicate 64 letter)), some "ivan"⟩)

private def takes (index count : Nat) : List (Move TelegramCall Int) :=
  List.replicate count (.act index 0)

private def frees (config : Config TelegramStore TelegramCall) :
    Move TelegramCall Int → Bool
  | .spawn _ => true
  | .act index _ =>
      match config.calls[index]?.bind TelegramCall.userCall with
      | some (userId, .saving change user) =>
          config.store.accounts.rows.all fun other =>
            other.id == userId || other.telegramId.isNone ||
              overlay user change.patch .telegramId == some none
      | _ => true

private def marks (config : Config TelegramStore TelegramCall) :
    Move TelegramCall Int → Bool
  | .spawn _ => true
  | .act index _ =>
      match config.calls[index]? with
      | some (.saveToken _ _ token) =>
          (config.store.tokens.find? token.id).any fun row => !row.used
      | _ => true

private theorem savesFree_of_frees {config : Config TelegramStore TelegramCall}
    {label : Move TelegramCall Int} (passed : frees config label = true) :
    TelegramCall.SavesFree config label := by
  cases label with
  | spawn => trivial
  | act index now =>
      intro call userId change user found on telegramId sets other otherMem different
      simp only [frees, found, Option.bind_some, on, List.all_eq_true] at passed
      have free := passed other otherMem
      simp only [sets, different, Bool.or_eq_true, beq_iff_eq, false_or] at free
      rcases free with none | unlinks
      · rw [Option.isNone_iff_eq_none.mp none]
        exact (Option.some_ne_none telegramId).symm
      · exact absurd (Option.some.inj unlinks) (Option.some_ne_none telegramId)

private theorem marksUnused_of_marks {config : Config TelegramStore TelegramCall}
    {label : Move TelegramCall Int} (passed : marks config label = true) :
    TelegramCall.MarksUnused config label := by
  cases label with
  | spawn => trivial
  | act index now =>
      intro command existingId token found
      simp only [marks, found] at passed
      cases stored : config.store.tokens.find? token.id with
      | none => simp [stored] at passed
      | some row =>
          rw [stored] at passed
          exact ⟨row, rfl, (Bool.not_eq_true' _).mp passed⟩

private theorem twoTokens_oneEach :
    OneEach UserAccount.telegramId twoTokens.store.accounts.rows := by
  intro first firstMem second _ shared linked
  have unlinked : ∀ user ∈ twoTokens.store.accounts.rows, user.telegramId = none := by
    decide
  rw [unlinked first firstMem] at linked
  contradiction

/-- One Telegram account is linked to a user and then to the other. -/
theorem telegram_links_single_sample :
    ∃ last : Config TelegramStore TelegramCall,
      OneEach UserAccount.telegramId last.store.accounts.rows ∧
      (last.calls.filterMap TelegramCall.accepted).Nodup ∧
      last.store.accounts.rows.map UserAccount.telegramId = [none, some 77] ∧
      last.calls.filterMap TelegramCall.accepted = [1, 2] := by
  obtain ⟨last, reached, linked, accepted⟩ :
      ∃ last, Run (telegramSystem .plain).step (fun config label =>
          TelegramCall.SavesFree config label ∧ TelegramCall.MarksUnused config label)
          twoTokens last ∧
        last.store.accounts.rows.map UserAccount.telegramId = [none, some 77] ∧
        last.calls.filterMap TelegramCall.accepted = [1, 2] :=
    ⟨_, Run.start.executeChecked (fun config label => frees config label && marks config label)
      (fun config label passed =>
        ⟨savesFree_of_frees (Bool.and_eq_true_iff.mp passed).1,
          marksUnused_of_marks (Bool.and_eq_true_iff.mp passed).2⟩)
      (commands 'a' :: takes 0 16 ++ commands 'b' :: takes 1 27) rfl, by decide, by decide⟩
  have single := @telegram_links_single .plain twoTokens last rfl twoTokens_oneEach
  exact ⟨last, single.1 (reached.weaken fun _ _ both => both.1),
    single.2 (reached.weaken fun _ _ both => both.2), linked, accepted⟩

private theorem not_oneEach_of_pair {first second : UserAccount} {shared : Int}
    (different : first.id ≠ second.id) (firstLinked : first.telegramId = some shared)
    (secondLinked : second.telegramId = some shared) :
    ¬ OneEach UserAccount.telegramId [first, second] := by
  intro oneEach
  have same := oneEach first (by simp) second (by simp) shared firstLinked secondLinked
  exact different (congrArg UserAccount.id same)

/-- One Telegram account sends two tokens, one of them twice.  Two commands find one
token unused and both accept it; two commands find the account free and both link
it. -/
theorem telegram_linked_twice :
    ∃ last, Reachable (telegramSystem .plain).step twoTokens last ∧
      ¬ OneEach UserAccount.telegramId last.store.accounts.rows ∧
      ¬ (last.calls.filterMap TelegramCall.accepted).Nodup := by
  refine ⟨_, reachable_of_execute _ _ ([commands 'a', commands 'b', commands 'a'] ++
    takes 0 2 ++ takes 2 2 ++ takes 1 2 ++ takes 0 1 ++ takes 2 1 ++ takes 1 1 ++
      takes 0 5 ++ takes 1 5 ++ takes 0 8 ++ takes 1 8) rfl, ?_, by decide⟩
  exact not_oneEach_of_pair (by decide) rfl rfl

end SpareSpace
