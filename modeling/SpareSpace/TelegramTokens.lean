import SpareSpace.TelegramLinks

/-!
# Links that attach a Telegram account

A user asks for a link; its token is thirty-two random bytes in hexadecimal, kept for ten
minutes.  Requests for links and the calls of the bot are cut at every repository and cache
call and run side by side.  In every interleaving a user comes to have a Telegram account
only by a start command of this account whose token was made for the user.
-/

namespace SpareSpace

open ColumnRecords InterleavedCalls NamedRows TransitionRuns UsersService

/-- What `crypto.randomBytes(32)` gives. -/
structure RandomBytes where
  bytes : List UInt8
  length : bytes.length = 32

/-- The digits of a byte, the higher one first. -/
def hexDigits (byte : UInt8) : List Char :=
  [Nat.digitChar (byte.toNat / 16), Nat.digitChar (byte.toNat % 16)]

/-- `toString('hex')`. -/
def RandomBytes.toHex (random : RandomBytes) : String :=
  String.ofList (random.bytes.flatMap hexDigits)

/-- The clock, and the random bytes of a step that asks for some. -/
structure TokenEnvironment where
  now : Int
  random : RandomBytes

namespace TelegramVerificationService

def tokenTtlMs : Int := 10 * 60 * 1000

def attempts : Nat := 3

end TelegramVerificationService

open TelegramVerificationService

namespace TelegramStore

variable (store : TelegramStore)

def isTokenActive (now : Int) (token : String) : Bool :=
  (store.findToken now token).isSome

/-- The row of a new token. -/
def newToken (userId : Nat) (token : String) (now : Int) (id : Nat) : TelegramAuthToken :=
  ⟨id, userId, token, none, false, now + tokenTtlMs⟩

/-- `tokenRepository.insert`; the column `token` is unique. -/
def insertToken (userId : Nat) (token : String) (now : Int) :
    Except HttpException TelegramStore :=
  if store.tokens.rows.any fun row => row.token == token then
    .error (.database "telegram_auth_tokens_token_key")
  else
    .ok { store with tokens := store.tokens.insert (newToken userId token now) fun _ => rfl }

end TelegramStore

/-- The program points of `generateTelegramLink`, each before the step it is named for.  A
link that is made keeps the time of its token, for the statement of results only. -/
inductive LinkCall
  | validateExistence (userId : Nat)
  | isTokenActive (userId attempt : Nat)
  | insert (userId : Nat) (token : String)
  | generated (userId : Nat) (token : String) (issuedAt : Int)
  | exhausted (userId : Nat)
  | threw (userId : Nat) (error : HttpException)

namespace LinkCall

/-- A step; `exhausted` is the error that no unique token was found. -/
def next (environment : TokenEnvironment) (store : TelegramStore) :
    LinkCall → Option (TelegramStore × LinkCall)
  | validateExistence userId =>
      if (store.accounts.find? userId).isSome then
        some (store, isTokenActive userId 0)
      else
        some (store, threw userId (userNotFound userId))
  | isTokenActive userId attempt =>
      if attempt < attempts then
        if store.isTokenActive environment.now environment.random.toHex then
          some (store, isTokenActive userId (attempt + 1))
        else
          some (store, insert userId environment.random.toHex)
      else
        some (store, exhausted userId)
  | insert userId token =>
      match store.insertToken userId token environment.now with
      | .ok after => some (after, generated userId token environment.now)
      | .error error => some (store, threw userId error)
  | generated _ _ _ | exhausted _ | threw _ _ => none

end LinkCall

/-- A request for a link, or a call of the bot. -/
inductive LinkingCall
  | request (call : LinkCall)
  | bot (call : TelegramCall)

namespace LinkingCall

def next (crypto : Crypto) (environment : TokenEnvironment) (store : TelegramStore) :
    LinkingCall → Option (TelegramStore × LinkingCall)
  | request call =>
      (call.next environment store).map fun moved => (moved.1, request moved.2)
  | bot call =>
      (TelegramCall.next crypto environment.now store call).map fun moved =>
        (moved.1, bot moved.2)

def starts : LinkingCall → Bool
  | request (.validateExistence _) => true
  | bot call => call.starts
  | _ => false

end LinkingCall

/-- Any requests for links, start commands and unlinkings. -/
def linkingSystem (crypto : Crypto) : System TelegramStore LinkingCall TokenEnvironment where
  starts := LinkingCall.starts
  next := LinkingCall.next crypto

section Format

theorem digitChar_small {digit : Nat} (small : digit < 16) :
    (Nat.digitChar digit).toNat < 0x10000 := by
  have all : ∀ digit < 16, (Nat.digitChar digit).toNat < 0x10000 := by decide
  exact all digit small

/-- A token has the length that a start command asks for. -/
theorem RandomBytes.utf16Length_toHex (random : RandomBytes) :
    utf16Length random.toHex = 64 := by
  have each : ∀ bytes : List UInt8, ((bytes.flatMap hexDigits).map fun character =>
      if character.toNat < 0x10000 then 1 else 2).sum = 2 * bytes.length := by
    intro bytes
    induction bytes with
    | nil => rfl
    | cons byte rest ih =>
        have small : byte.toNat / 16 < 16 ∧ byte.toNat % 16 < 16 := by
          have := byte.toNat_lt
          omega
        simp only [List.flatMap_cons, hexDigits, List.cons_append, List.nil_append,
          List.map_cons, List.sum_cons, List.length_cons, ih]
        rw [if_pos (digitChar_small small.1), if_pos (digitChar_small small.2)]
        omega
  rw [utf16Length, toHex, String.toList_ofList, each, random.length]

end Format

namespace UserCall

/-- A call that writes the columns of one update and no others. -/
def Writes (patch : PartialUser) : UserCall → Prop
  | checking update _ => update = patch
  | loading (.update change) _ => change.patch = patch
  | deleting change _ | saving change _ | updated change => change.patch = patch
  | threw _ => True
  | _ => False

/-- A call that only loads a user. -/
def Reads : UserCall → Prop
  | loading .findById _ | found _ | threw _ => True
  | _ => False

variable {crypto : Crypto} {environment : UserEnvironment} {account after : Account}
  {call moved : UserCall}

theorem Writes.next {patch : PartialUser} (writes : call.Writes patch)
    (moves : UserCall.next crypto environment account call = some (after, moved)) :
    moved.Writes patch := by
  cases effect_of_next moves with
  | conflict => trivial
  | check | checked => exact writes
  | @load purpose point later =>
      cases purpose with
      | update change => exact writes
      | findById | validate => contradiction
  | @fill purpose profileData =>
      cases purpose with
      | update change => exact writes
      | findById | validate => contradiction
  | @loaded purpose point user =>
      cases purpose with
      | update change => exact writes
      | findById | validate => contradiction
  | delete | save => exact writes
  | exist | write | writeOnline | invalidate | invalidateStatus => contradiction

theorem Reads.next (reads : call.Reads)
    (moves : UserCall.next crypto environment account call = some (after, moved)) :
    moved.Reads := by
  cases effect_of_next moves with
  | conflict => trivial
  | @load purpose point later =>
      cases purpose with
      | findById => trivial
      | update | validate => contradiction
  | @fill purpose profileData =>
      cases purpose with
      | findById => trivial
      | update | validate => contradiction
  | @loaded purpose point user =>
      cases purpose with
      | findById => trivial
      | update | validate => contradiction
  | check | checked | delete | save => contradiction
  | exist | write | writeOnline | invalidate | invalidateStatus => contradiction

end UserCall

/-- What never changes of a token that is stored. -/
structure IssuedToken where
  id : Nat
  userId : Nat
  token : String
  expiresAt : Int
  deriving DecidableEq, Repr

def TelegramAuthToken.issued (row : TelegramAuthToken) : IssuedToken :=
  ⟨row.id, row.userId, row.token, row.expiresAt⟩

namespace TelegramStore

variable {store after : TelegramStore}

def issuedTokens (store : TelegramStore) : List IssuedToken :=
  store.tokens.rows.map TelegramAuthToken.issued

/-- Marking a stored token as used issues none. -/
theorem mem_issuedTokens_saveToken {token : TelegramAuthToken}
    (held : token.issued ∈ store.issuedTokens) (telegramId : Int) {issued : IssuedToken} :
    issued ∈ (store.saveToken token telegramId).issuedTokens ↔ issued ∈ store.issuedTokens := by
  simp only [issuedTokens, saveToken, List.mem_map, KeyedTable.mem_save_iff] at held ⊢
  obtain ⟨row, rowMem, same⟩ := held
  constructor
  · rintro ⟨other, rfl | ⟨old, different⟩, rfl⟩
    · exact ⟨row, rowMem, same⟩
    · exact ⟨other, old, rfl⟩
  · rintro ⟨other, old, rfl⟩
    by_cases marked : other.id = token.id
    · obtain rfl := store.tokens.eq_of_key_eq old rowMem
        (marked.trans (congrArg IssuedToken.id same).symm)
      exact ⟨_, Or.inl rfl, same.symm⟩
    · exact ⟨other, Or.inr ⟨old, marked⟩, rfl⟩

theorem mem_issuedTokens_insertToken {userId : Nat} {token : String} {now : Int}
    (inserted : store.insertToken userId token now = .ok after) {issued : IssuedToken} :
    issued ∈ after.issuedTokens ↔ issued ∈ store.issuedTokens ∨
      issued = ⟨store.tokens.nextId, userId, token, now + tokenTtlMs⟩ := by
  unfold insertToken at inserted
  split at inserted
  · contradiction
  · obtain rfl := Except.ok.inj inserted
    simp [issuedTokens, KeyedTable.insert, newToken, TelegramAuthToken.issued, or_comm]

/-- A token is inserted only if none has its text. -/
theorem fresh_of_insertToken {userId : Nat} {token : String} {now : Int}
    (inserted : store.insertToken userId token now = .ok after) {issued : IssuedToken}
    (old : issued ∈ store.issuedTokens) : issued.token ≠ token := by
  unfold insertToken at inserted
  split at inserted
  · contradiction
  · next fresh =>
      obtain ⟨row, rowMem, rfl⟩ := List.mem_map.mp old
      rintro rfl
      exact fresh (List.any_eq_true.mpr ⟨row, rowMem, beq_self_eq_true _⟩)

theorem findToken_spec {now : Int} {token : String} {row : TelegramAuthToken}
    (found : store.findToken now token = some row) :
    row.issued ∈ store.issuedTokens ∧ row.token = token ∧ now < row.expiresAt := by
  have meets := List.find?_some found
  simp only [Bool.and_eq_true, beq_iff_eq, decide_eq_true_eq] at meets
  exact ⟨List.mem_map_of_mem (List.mem_of_find?_eq_some found), meets.1.1, meets.2⟩

theorem issuedTokens_of_tokens (same : after.tokens = store.tokens) :
    after.issuedTokens = store.issuedTokens := by
  unfold issuedTokens
  rw [same]

end TelegramStore

/-- The command came with this token, which was issued. -/
def StartCommand.Holds (command : StartCommand) (store : TelegramStore)
    (token : TelegramAuthToken) : Prop :=
  command.verificationToken = some token.token ∧ token.issued ∈ store.issuedTokens

namespace TelegramCall

/-- What a call of the bot knows at each point of its token and of its update. -/
def Knows (store : TelegramStore) : TelegramCall → Prop
  | verifyToken command token _ => command.verificationToken = some token
  | saveToken command _ token => command.Holds store token
  | unlinkExisting command _ token call =>
      command.Holds store token ∧ call.Writes unlinkColumns
  | link command _ token call => command.Holds store token ∧ call.Writes command.linkColumns
  | checkLinked _ _ call => call.Reads
  | unlink _ call => call.Writes unlinkColumns
  | _ => True

variable {crypto : Crypto} {now : Int} {store after : TelegramStore}
  {call moved : TelegramCall}

theorem Knows.grow (knows : call.Knows store)
    (grows : ∀ issued ∈ store.issuedTokens, issued ∈ after.issuedTokens) :
    call.Knows after := by
  cases call with
  | saveToken => exact ⟨knows.1, grows _ knows.2⟩
  | unlinkExisting | link => exact ⟨⟨knows.1.1, grows _ knows.1.2⟩, knows.2⟩
  | _ => exact knows

theorem knows_of_starts (arrives : call.starts = true) : call.Knows store := by
  cases call with
  | findByTelegramId | unlinkTelegramAccount => trivial
  | _ => contradiction

theorem knows_afterFind (command : StartCommand) (existingId : Option Nat) :
    (afterFind command existingId).Knows store := by
  unfold afterFind
  split
  · trivial
  · next token given =>
      split
      · trivial
      · exact (Option.filter_eq_some_iff.mp given).1

theorem knows_afterVerify {command : StartCommand} {token : TelegramAuthToken}
    (holds : command.Holds store token) (existingId : Option Nat) :
    (afterVerify command token existingId).Knows store := by
  cases existingId with
  | none => exact ⟨holds, rfl⟩
  | some existingId =>
      simp only [afterVerify]
      split
      · trivial
      · exact ⟨holds, rfl⟩

theorem knows_afterUnlinkExisting {command : StartCommand} {existingId : Nat}
    {token : TelegramAuthToken} {inner : UserCall} (holds : command.Holds store token)
    (writes : inner.Writes unlinkColumns) :
    (afterUnlinkExisting command existingId token inner).Knows store := by
  cases inner with
  | updated => exact ⟨holds, rfl⟩
  | threw => trivial
  | _ => exact ⟨holds, writes⟩

theorem knows_afterLink {command : StartCommand} {reply : StartReply}
    {token : TelegramAuthToken} {inner : UserCall} (holds : command.Holds store token)
    (writes : inner.Writes command.linkColumns) :
    (afterLink command reply token inner).Knows store := by
  cases inner with
  | updated | threw => trivial
  | _ => exact ⟨holds, writes⟩

theorem knows_afterCheck {userId : Nat} {telegramId : Int} {inner : UserCall}
    (reads : inner.Reads) : (afterCheck userId telegramId inner).Knows store := by
  cases inner with
  | found user =>
      simp only [afterCheck]
      split
      · trivial
      · exact rfl
  | threw => trivial
  | _ => exact reads

theorem knows_afterUnlink {userId : Nat} {inner : UserCall}
    (writes : inner.Writes unlinkColumns) : (afterUnlink userId inner).Knows store := by
  cases inner with
  | updated | threw => trivial
  | _ => exact writes

end TelegramCall

namespace TelegramStore

variable {crypto : Crypto} {now : Int} {store after : TelegramStore} {userId : Nat}
  {inner moved : UserCall}

theorem writes_onUser {patch : PartialUser} (writes : inner.Writes patch)
    (moves : store.onUser crypto now userId inner = some (after, moved)) :
    moved.Writes patch := by
  unfold onUser at moves
  split at moves
  · obtain ⟨rfl, rfl⟩ := Prod.mk.inj (Option.some.inj moves)
    trivial
  · obtain ⟨⟨account, later⟩, steps, same⟩ := Option.map_eq_some_iff.mp moves
    obtain ⟨rfl, rfl⟩ := Prod.mk.inj same
    exact writes.next steps

theorem reads_onUser (reads : inner.Reads)
    (moves : store.onUser crypto now userId inner = some (after, moved)) :
    moved.Reads := by
  unfold onUser at moves
  split at moves
  · obtain ⟨rfl, rfl⟩ := Prod.mk.inj (Option.some.inj moves)
    trivial
  · obtain ⟨⟨account, later⟩, steps, same⟩ := Option.map_eq_some_iff.mp moves
    obtain ⟨rfl, rfl⟩ := Prod.mk.inj same
    exact reads.next steps

end TelegramStore

namespace TelegramCall

variable {crypto : Crypto} {now : Int} {store after : TelegramStore}
  {call moved : TelegramCall}

/-- A step of the bot issues no token, and what the call knows stays true. -/
theorem Knows.next (knows : call.Knows store)
    (moves : TelegramCall.next crypto now store call = some (after, moved)) :
    (∀ issued, issued ∈ after.issuedTokens ↔ issued ∈ store.issuedTokens) ∧
      moved.Knows after := by
  have step : (∀ issued, issued ∈ after.issuedTokens ↔ issued ∈ store.issuedTokens) ∧
      moved.Knows store := by
    cases call with
    | findByTelegramId command =>
        obtain ⟨rfl, rfl⟩ := Prod.mk.inj (Option.some.inj moves)
        exact ⟨fun _ => Iff.rfl, knows_afterFind command _⟩
    | verifyToken command token existingId =>
        simp only [TelegramCall.next] at moves
        split at moves
        · obtain ⟨rfl, rfl⟩ := Prod.mk.inj (Option.some.inj moves)
          exact ⟨fun _ => Iff.rfl, trivial⟩
        · next row found =>
            obtain ⟨rfl, rfl⟩ := Prod.mk.inj (Option.some.inj moves)
            obtain ⟨issued, same, -⟩ := TelegramStore.findToken_spec found
            exact ⟨fun _ => Iff.rfl, same ▸ knows, issued⟩
    | saveToken command existingId token =>
        obtain ⟨rfl, rfl⟩ := Prod.mk.inj (Option.some.inj moves)
        constructor
        · intro issued
          apply TelegramStore.mem_issuedTokens_saveToken knows.2
        · exact knows_afterVerify knows existingId
    | unlinkExisting command existingId token inner =>
        obtain ⟨⟨later, inner'⟩, steps, same⟩ := Option.map_eq_some_iff.mp moves
        obtain ⟨rfl, rfl⟩ := Prod.mk.inj same
        have tokens := TelegramStore.tokens_onUser steps
        constructor
        · intro issued
          rw [TelegramStore.issuedTokens_of_tokens tokens]
        · exact knows_afterUnlinkExisting knows.1 (TelegramStore.writes_onUser knows.2 steps)
    | link command reply token inner =>
        obtain ⟨⟨later, inner'⟩, steps, same⟩ := Option.map_eq_some_iff.mp moves
        obtain ⟨rfl, rfl⟩ := Prod.mk.inj same
        have tokens := TelegramStore.tokens_onUser steps
        constructor
        · intro issued
          rw [TelegramStore.issuedTokens_of_tokens tokens]
        · exact knows_afterLink knows.1 (TelegramStore.writes_onUser knows.2 steps)
    | unlinkTelegramAccount userId telegramId =>
        simp only [TelegramCall.next] at moves
        split at moves
        · obtain ⟨rfl, rfl⟩ := Prod.mk.inj (Option.some.inj moves)
          exact ⟨fun _ => Iff.rfl, rfl⟩
        · obtain ⟨rfl, rfl⟩ := Prod.mk.inj (Option.some.inj moves)
          exact ⟨fun _ => Iff.rfl, trivial⟩
    | checkLinked userId telegramId inner =>
        obtain ⟨⟨later, inner'⟩, steps, same⟩ := Option.map_eq_some_iff.mp moves
        obtain ⟨rfl, rfl⟩ := Prod.mk.inj same
        have tokens := TelegramStore.tokens_onUser steps
        constructor
        · intro issued
          rw [TelegramStore.issuedTokens_of_tokens tokens]
        · exact knows_afterCheck (TelegramStore.reads_onUser knows steps)
    | unlink userId inner =>
        obtain ⟨⟨later, inner'⟩, steps, same⟩ := Option.map_eq_some_iff.mp moves
        obtain ⟨rfl, rfl⟩ := Prod.mk.inj same
        have tokens := TelegramStore.tokens_onUser steps
        constructor
        · intro issued
          rw [TelegramStore.issuedTokens_of_tokens tokens]
        · exact knows_afterUnlink (TelegramStore.writes_onUser knows steps)
    | replied | unlinked | threw => contradiction
  exact ⟨step.1, step.2.grow fun issued => (step.1 issued).mpr⟩

end TelegramCall

end SpareSpace
