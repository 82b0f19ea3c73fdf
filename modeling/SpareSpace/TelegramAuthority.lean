import SpareSpace.TelegramTokens

/-!
# Who can attach a Telegram account

Requests for links and calls of the bot run side by side.  Every stored token was made by a
finished request for its user, and no two have one text; a start command past its
verification holds the token it came with.  So a user comes to have a Telegram account only
by a command of this account with a token made for this user.
-/

namespace SpareSpace

open ColumnRecords InterleavedCalls TransitionRuns TelegramVerificationService

namespace LinkingCall

/-- What a call knows at each point: of a link that is made the token is stored. -/
def Knows (store : TelegramStore) : LinkingCall → Prop
  | request (.generated userId token issuedAt) => ∃ issued ∈ store.issuedTokens,
      issued.userId = userId ∧ issued.token = token ∧
        issued.expiresAt = issuedAt + tokenTtlMs
  | request _ => True
  | bot call => call.Knows store

variable {store after : TelegramStore} {call : LinkingCall}

theorem Knows.grow (knows : call.Knows store)
    (grows : ∀ issued ∈ store.issuedTokens, issued ∈ after.issuedTokens) :
    call.Knows after := by
  cases call with
  | bot call => exact TelegramCall.Knows.grow knows grows
  | request call =>
      cases call with
      | generated userId token issuedAt =>
          obtain ⟨issued, stored, same⟩ := knows
          exact ⟨issued, grows issued stored, same⟩
      | _ => trivial

theorem knows_of_starts (arrives : call.starts = true) : call.Knows store := by
  cases call with
  | bot call => exact TelegramCall.knows_of_starts arrives
  | request call =>
      cases call with
      | validateExistence => trivial
      | _ => contradiction

/-- A finished request for a link of this user with this token. -/
def Made (calls : List LinkingCall) (userId : Nat) (token : String) (issuedAt : Int) : Prop :=
  request (.generated userId token issuedAt) ∈ calls

/-- A finished request stays where it is when another call moves. -/
theorem Made.set {calls : List LinkingCall} {index userId : Nat} {token : String}
    {issuedAt : Int} {moved : LinkingCall} {crypto : Crypto} {environment : TokenEnvironment}
    (made : Made calls userId token issuedAt) (found : calls[index]? = some call)
    (moves : next crypto environment store call = some (after, moved)) :
    Made (calls.set index moved) userId token issuedAt := by
  obtain ⟨j, stood⟩ := List.mem_iff_getElem?.mp made
  have apart : index ≠ j := by
    rintro rfl
    obtain rfl := Option.some.inj (found.symm.trans stood)
    contradiction
  apply List.mem_of_getElem?
  rw [List.getElem?_set_ne apart]
  exact stood

end LinkingCall

open LinkingCall

/-- Every stored token was made by a request for its user, no two have one text, and every
call knows what it should. -/
structure TokensMade (config : Config TelegramStore LinkingCall) : Prop where
  made : ∀ issued ∈ config.store.issuedTokens, ∃ issuedAt,
    Made config.calls issued.userId issued.token issuedAt ∧
      issued.expiresAt = issuedAt + tokenTtlMs
  distinct : ∀ first ∈ config.store.issuedTokens, ∀ second ∈ config.store.issuedTokens,
    first.token = second.token → first = second
  knows : ∀ call ∈ config.calls, call.Knows config.store

namespace TokensMade

variable {config : Config TelegramStore LinkingCall} {crypto : Crypto}
  {environment : TokenEnvironment} {index : Nat} {call moved : LinkingCall}
  {after : TelegramStore}

theorem spawn (tokens : TokensMade config) (arrives : call.starts = true) :
    TokensMade ⟨config.store, config.calls ++ [call]⟩ := by
  constructor
  · intro issued stored
    obtain ⟨issuedAt, made, expires⟩ := tokens.made issued stored
    exact ⟨issuedAt, List.mem_append_left _ made, expires⟩
  · exact tokens.distinct
  · intro other present
    rcases List.mem_append.mp present with old | new
    · exact tokens.knows other old
    · rw [List.mem_singleton.mp new]
      exact knows_of_starts arrives

/-- A step that issues no token. -/
theorem same (tokens : TokensMade config) (found : config.calls[index]? = some call)
    (moves : LinkingCall.next crypto environment config.store call = some (after, moved))
    (issues : ∀ issued, issued ∈ after.issuedTokens ↔ issued ∈ config.store.issuedTokens)
    (knows : moved.Knows after) : TokensMade ⟨after, config.calls.set index moved⟩ := by
  constructor
  · intro issued stored
    obtain ⟨issuedAt, made, expires⟩ := tokens.made issued ((issues issued).mp stored)
    exact ⟨issuedAt, made.set found moves, expires⟩
  · intro first firstMem second secondMem
    apply tokens.distinct
    · exact (issues first).mp firstMem
    · exact (issues second).mp secondMem
  · apply forall_set _ knows
    intro other present
    exact (tokens.knows other present).grow fun issued => (issues issued).mpr

/-- A step that issues a token. -/
theorem issue {userId : Nat} {token : String} (tokens : TokensMade config)
    (found : config.calls[index]? = some (request (.insert userId token)))
    (inserted : config.store.insertToken userId token environment.now = .ok after) :
    TokensMade ⟨after,
      config.calls.set index (request (.generated userId token environment.now))⟩ := by
  have moves : LinkingCall.next .plain environment config.store (request (.insert userId token)) =
      some (after, request (.generated userId token environment.now)) := by
    simp only [LinkingCall.next, LinkCall.next, inserted, Option.map_some]
  have issues := @TelegramStore.mem_issuedTokens_insertToken _ _ _ _ _ inserted
  obtain ⟨inside, -⟩ := List.getElem?_eq_some_iff.mp found
  constructor
  · intro issued stored
    rcases issues.mp stored with old | rfl
    · obtain ⟨issuedAt, made, expires⟩ := tokens.made issued old
      exact ⟨issuedAt, made.set found moves, expires⟩
    · refine ⟨environment.now, ?_, rfl⟩
      exact List.mem_set inside _
  · intro first firstMem second secondMem same
    rcases issues.mp firstMem with firstOld | rfl
    · rcases issues.mp secondMem with secondOld | rfl
      · exact tokens.distinct first firstOld second secondOld same
      · exact absurd same (TelegramStore.fresh_of_insertToken inserted firstOld)
    · rcases issues.mp secondMem with secondOld | rfl
      · exact absurd same.symm (TelegramStore.fresh_of_insertToken inserted secondOld)
      · rfl
  · apply forall_set
    · intro other present
      exact (tokens.knows other present).grow fun issued old => issues.mpr (Or.inl old)
    · exact ⟨_, issues.mpr (Or.inr rfl), rfl, rfl, rfl⟩

theorem act (tokens : TokensMade config) (found : config.calls[index]? = some call)
    (moves : LinkingCall.next crypto environment config.store call = some (after, moved)) :
    TokensMade ⟨after, config.calls.set index moved⟩ := by
  have knows := tokens.knows call (mem_of_index found)
  cases call with
  | bot call =>
      obtain ⟨⟨later, moved'⟩, steps, same⟩ := Option.map_eq_some_iff.mp moves
      obtain ⟨rfl, rfl⟩ := Prod.mk.inj same
      obtain ⟨issues, known⟩ := TelegramCall.Knows.next knows steps
      exact tokens.same found moves issues known
  | request call =>
      have moves' := moves
      obtain ⟨⟨later, moved'⟩, steps, same⟩ := Option.map_eq_some_iff.mp moves'
      obtain ⟨rfl, rfl⟩ := Prod.mk.inj same
      cases call with
      | validateExistence userId =>
          simp only [LinkCall.next] at steps
          split at steps
          all_goals
            obtain ⟨rfl, rfl⟩ := Prod.mk.inj (Option.some.inj steps)
            exact tokens.same found moves (fun _ => Iff.rfl) trivial
      | isTokenActive userId attempt =>
          simp only [LinkCall.next] at steps
          repeat' split at steps
          all_goals
            obtain ⟨rfl, rfl⟩ := Prod.mk.inj (Option.some.inj steps)
            exact tokens.same found moves (fun _ => Iff.rfl) trivial
      | insert userId token =>
          simp only [LinkCall.next] at steps
          split at steps
          · next inserted =>
              obtain ⟨rfl, rfl⟩ := Prod.mk.inj (Option.some.inj steps)
              exact tokens.issue found inserted
          · obtain ⟨rfl, rfl⟩ := Prod.mk.inj (Option.some.inj steps)
            exact tokens.same found moves (fun _ => Iff.rfl) trivial
      | generated | exhausted | threw => contradiction

theorem of_reachable {start last : Config TelegramStore LinkingCall}
    (noCalls : start.calls = []) (noTokens : start.store.tokens.rows = [])
    (reached : Reachable (linkingSystem crypto).step start last) : TokensMade last := by
  apply Run.invariant TokensMade _ _ reached
  · have none : start.store.issuedTokens = [] := by
      rw [TelegramStore.issuedTokens, noTokens, List.map_nil]
    constructor
    · simp [none]
    · simp [none]
    · simp [noCalls]
  · intro before label after tokens _ taken
    cases label with
    | spawn call =>
        obtain ⟨arrives, rfl⟩ := System.step_spawn taken
        exact tokens.spawn arrives
    | act index environment =>
        obtain ⟨call, store, moved, found, moves, rfl⟩ := System.step_act taken
        exact tokens.act found moves

end TokensMade

section Links

variable {crypto : Crypto} {now : Int} {store after : TelegramStore}

/-- The Telegram account of a user that the table has. -/
def TelegramStore.HasTelegram (store : TelegramStore) (userId : Nat) (telegramId : Int) : Prop :=
  ∃ user, store.accounts.find? userId = some user ∧ user.telegramId = some telegramId

/-- A step on a user gives a Telegram account to no other user, and to this one only what
the update of the call sets. -/
theorem TelegramStore.linked_of_onUser {ownerId userId : Nat} {telegramId : Int}
    {inner moved : UserCall}
    (moves : store.onUser crypto now ownerId inner = some (after, moved))
    (linked : after.HasTelegram userId telegramId)
    (fresh : ¬ store.HasTelegram userId telegramId) :
    userId = ownerId ∧ ∃ change user, inner = .saving change user ∧
      overlay user change.patch .telegramId = some (some telegramId) := by
  unfold onUser at moves
  split at moves
  · obtain ⟨rfl, rfl⟩ := Prod.mk.inj (Option.some.inj moves)
    exact absurd linked fresh
  · next owner found =>
      obtain ⟨⟨account, later⟩, steps, same⟩ := Option.map_eq_some_iff.mp moves
      obtain ⟨rfl, rfl⟩ := Prod.mk.inj same
      obtain ⟨user, stored, has⟩ := linked
      rw [saveAccount, KeyedTable.find?_save] at stored
      split at stored
      · next owned =>
          obtain rfl : userId = ownerId := owned
          obtain rfl := Option.some.inj stored
          apply And.intro rfl
          rcases UserCall.telegramId_of_next steps with unchanged | ⟨change, entity, saves, sets⟩
          · exact absurd ⟨owner, found, unchanged.symm.trans has⟩ fresh
          · exact ⟨change, entity, saves, sets.trans (congrArg some has)⟩
      · exact absurd ⟨user, stored, has⟩ fresh

/-- A call that unlinks, or only loads, links nobody. -/
theorem UserCall.not_saving_telegram {inner : UserCall} {change : UserChange}
    {user : PartialUser} {telegramId : Int}
    (unlinks : inner.Writes unlinkColumns ∨ inner.Reads) (saves : inner = .saving change user) :
    overlay user change.patch .telegramId ≠ some (some telegramId) := by
  rintro sets
  obtain rfl := saves
  rcases unlinks with writes | reads
  · have patch : change.patch = unlinkColumns := writes
    rw [patch] at sets
    exact absurd sets nofun
  · exact reads

/-- A step of the bot after which a user has a Telegram account that the user did not have
before links the user of the token of a command to the account that sent it. -/
theorem TelegramCall.Knows.linked {call moved : TelegramCall} {userId : Nat} {telegramId : Int}
    (knows : call.Knows store)
    (moves : TelegramCall.next crypto now store call = some (after, moved))
    (linked : after.HasTelegram userId telegramId)
    (fresh : ¬ store.HasTelegram userId telegramId) :
    ∃ command reply token inner, call = .link command reply token inner ∧
      command.Holds store token ∧ token.userId = userId ∧ command.telegramId = telegramId := by
  cases call with
  | link command reply token inner =>
      obtain ⟨⟨later, inner'⟩, steps, same⟩ := Option.map_eq_some_iff.mp moves
      obtain ⟨rfl, rfl⟩ := Prod.mk.inj same
      obtain ⟨rfl, change, user, rfl, sets⟩ :=
        TelegramStore.linked_of_onUser steps linked fresh
      refine ⟨command, reply, token, _, rfl, knows.1, rfl, ?_⟩
      have patch : change.patch = command.linkColumns := knows.2
      rw [patch] at sets
      exact Option.some.inj (Option.some.inj sets)
  | unlinkExisting command existingId token inner =>
      obtain ⟨⟨later, inner'⟩, steps, same⟩ := Option.map_eq_some_iff.mp moves
      obtain ⟨rfl, rfl⟩ := Prod.mk.inj same
      obtain ⟨-, change, user, saves, sets⟩ := TelegramStore.linked_of_onUser steps linked fresh
      exact absurd sets (UserCall.not_saving_telegram (Or.inl knows.2) saves)
  | checkLinked ownerId telegramId inner =>
      obtain ⟨⟨later, inner'⟩, steps, same⟩ := Option.map_eq_some_iff.mp moves
      obtain ⟨rfl, rfl⟩ := Prod.mk.inj same
      obtain ⟨-, change, user, saves, sets⟩ := TelegramStore.linked_of_onUser steps linked fresh
      exact absurd sets (UserCall.not_saving_telegram (Or.inr knows) saves)
  | unlink ownerId inner =>
      obtain ⟨⟨later, inner'⟩, steps, same⟩ := Option.map_eq_some_iff.mp moves
      obtain ⟨rfl, rfl⟩ := Prod.mk.inj same
      obtain ⟨-, change, user, saves, sets⟩ := TelegramStore.linked_of_onUser steps linked fresh
      exact absurd sets (UserCall.not_saving_telegram (Or.inl knows) saves)
  | saveToken command existingId token =>
      obtain ⟨rfl, rfl⟩ := Prod.mk.inj (Option.some.inj moves)
      exact absurd linked fresh
  | findByTelegramId command =>
      obtain ⟨rfl, rfl⟩ := Prod.mk.inj (Option.some.inj moves)
      exact absurd linked fresh
  | verifyToken | unlinkTelegramAccount =>
      simp only [TelegramCall.next] at moves
      split at moves
      all_goals
        obtain ⟨rfl, rfl⟩ := Prod.mk.inj (Option.some.inj moves)
        exact absurd linked fresh
  | replied | unlinked | threw => contradiction

/-- Requests for links leave the users as they are. -/
theorem LinkCall.accounts_next {call moved : LinkCall} {environment : TokenEnvironment}
    (moves : call.next environment store = some (after, moved)) :
    after.accounts = store.accounts := by
  cases call with
  | validateExistence userId =>
      simp only [LinkCall.next] at moves
      split at moves
      all_goals
        obtain ⟨rfl, -⟩ := Prod.mk.inj (Option.some.inj moves)
        rfl
  | isTokenActive userId attempt =>
      simp only [LinkCall.next] at moves
      repeat' split at moves
      all_goals
        obtain ⟨rfl, -⟩ := Prod.mk.inj (Option.some.inj moves)
        rfl
  | insert userId token =>
      simp only [LinkCall.next] at moves
      split at moves
      · next inserted =>
          obtain ⟨rfl, -⟩ := Prod.mk.inj (Option.some.inj moves)
          unfold TelegramStore.insertToken at inserted
          split at inserted
          · contradiction
          · obtain rfl := Except.ok.inj inserted
            rfl
      · obtain ⟨rfl, -⟩ := Prod.mk.inj (Option.some.inj moves)
        rfl
  | generated | exhausted | threw => contradiction

end Links

/-- A stored token was made for one user only. -/
theorem TokensMade.issuer {config : Config TelegramStore LinkingCall}
    (tokens : TokensMade config) {issued : IssuedToken} {otherId : Nat} {issuedAt : Int}
    (stored : issued ∈ config.store.issuedTokens)
    (made : Made config.calls otherId issued.token issuedAt) : otherId = issued.userId := by
  obtain ⟨other, otherMem, rfl, text, -⟩ := tokens.knows _ made
  rw [tokens.distinct other otherMem issued stored text]

/-- In every interleaving that starts without calls and tokens, a step after which a user has
a Telegram account that the user did not have is a step of a command of this account with a
token that was made for this user and for nobody else; and a token passes its verification
only within ten minutes after it was made. -/
theorem telegram_linked_by_token {crypto : Crypto}
    {start last after : Config TelegramStore LinkingCall} (noCalls : start.calls = [])
    (noTokens : start.store.tokens.rows = [])
    (reached : Reachable (linkingSystem crypto).step start last) {index : Nat}
    {environment : TokenEnvironment}
    (taken : (linkingSystem crypto).step last (.act index environment) = some after) :
    (∀ userId telegramId, after.store.HasTelegram userId telegramId →
      ¬ last.store.HasTelegram userId telegramId →
      ∃ command reply token inner issuedAt,
        last.calls[index]? = some (.bot (.link command reply token inner)) ∧
        command.telegramId = telegramId ∧ command.verificationToken = some token.token ∧
        Made last.calls userId token.token issuedAt ∧
        ∀ otherId otherTime, Made last.calls otherId token.token otherTime →
          otherId = userId) ∧
    ∀ command text existingId token,
      last.calls[index]? = some (.bot (.verifyToken command text existingId)) →
      after.calls[index]? = some (.bot (.saveToken command existingId token)) →
      ∃ issuedAt, Made last.calls token.userId token.token issuedAt ∧
        environment.now < issuedAt + tokenTtlMs := by
  have tokens := TokensMade.of_reachable noCalls noTokens reached
  obtain ⟨call, store, moved, found, moves, rfl⟩ := System.step_act taken
  constructor
  · intro userId telegramId linked fresh
    cases call with
    | request call =>
        obtain ⟨⟨later, moved'⟩, steps, same⟩ := Option.map_eq_some_iff.mp moves
        obtain ⟨rfl, rfl⟩ := Prod.mk.inj same
        refine absurd ?_ fresh
        unfold TelegramStore.HasTelegram
        rw [← LinkCall.accounts_next steps]
        exact linked
    | bot call =>
        obtain ⟨⟨later, moved'⟩, steps, same⟩ := Option.map_eq_some_iff.mp moves
        obtain ⟨rfl, rfl⟩ := Prod.mk.inj same
        have knows : call.Knows last.store := tokens.knows _ (mem_of_index found)
        obtain ⟨command, reply, token, inner, rfl, ⟨given, stored⟩, rfl, sender⟩ :=
          knows.linked steps linked fresh
        obtain ⟨issuedAt, made, -⟩ := tokens.made _ stored
        refine ⟨command, reply, token, inner, issuedAt, found, sender, given, made, ?_⟩
        exact fun otherId otherTime other => tokens.issuer stored other
  · intro command text existingId token verifies accepts
    obtain rfl := Option.some.inj (found.symm.trans verifies)
    obtain ⟨⟨later, moved'⟩, steps, same⟩ := Option.map_eq_some_iff.mp moves
    obtain ⟨rfl, rfl⟩ := Prod.mk.inj same
    obtain ⟨inside, -⟩ := List.getElem?_eq_some_iff.mp found
    rw [List.getElem?_set_self inside] at accepts
    obtain rfl := LinkingCall.bot.inj (Option.some.inj accepts)
    simp only [TelegramCall.next] at steps
    split at steps
    · have threw := congrArg Prod.snd (Option.some.inj steps)
      contradiction
    · next row valid =>
        obtain ⟨-, same⟩ := Prod.mk.inj (Option.some.inj steps)
        obtain ⟨-, -, rfl⟩ := TelegramCall.saveToken.inj same
        obtain ⟨stored, -, live⟩ := TelegramStore.findToken_spec valid
        obtain ⟨issuedAt, made, expires⟩ := tokens.made _ stored
        exact ⟨issuedAt, made, lt_of_lt_of_eq live expires⟩

private def zeroBytes : RandomBytes :=
  ⟨List.replicate 32 0, rfl⟩

private def linkMoves (index count : Nat) : List (Move LinkingCall TokenEnvironment) :=
  List.replicate count (.act index ⟨0, zeroBytes⟩)

private def ivan : User :=
  UsersService.newRow "+79001234567" "password" "Ivan" "Petrov" none 0

/-- One user without a Telegram account. -/
private def oneUser : Config TelegramStore LinkingCall where
  store :=
    { accounts := KeyedTable.empty.insert (UsersService.newAccount ivan)
        (UsersService.newAccount_id ivan)
      tokens := .empty }
  calls := []

private def linkRun : List (Move LinkingCall TokenEnvironment) :=
  .spawn (.request (.validateExistence 1)) :: linkMoves 0 3 ++
    .spawn (.bot (.findByTelegramId ⟨77, 77, some zeroBytes.toHex, some "ivan"⟩)) ::
      linkMoves 1 15

/-- The user asks for a link and follows it: the last step of the command links the user. -/
theorem telegram_linked_by_token_sample :
    ∃ last after : Config TelegramStore LinkingCall,
      Reachable (linkingSystem .plain).step oneUser last ∧
      (linkingSystem .plain).step last (.act 1 ⟨0, zeroBytes⟩) = some after ∧
      after.store.HasTelegram 1 77 ∧ ¬ last.store.HasTelegram 1 77 ∧
      ∃ text issuedAt, Made last.calls 1 text issuedAt := by
  obtain ⟨last, after, reached, taken, linked, fresh⟩ :
      ∃ last after, Reachable (linkingSystem .plain).step oneUser last ∧
        (linkingSystem .plain).step last (.act 1 ⟨0, zeroBytes⟩) = some after ∧
        after.store.HasTelegram 1 77 ∧ ¬ last.store.HasTelegram 1 77 := by
    refine ⟨_, _, reachable_of_execute _ _ linkRun rfl, rfl, ⟨_, rfl, rfl⟩, ?_⟩
    rintro ⟨user, found, linked⟩
    obtain rfl := Option.some.inj found
    contradiction
  obtain ⟨command, reply, token, inner, issuedAt, -, -, -, made, -⟩ :=
    (telegram_linked_by_token rfl rfl reached taken).1 1 77 linked fresh
  exact ⟨last, after, reached, taken, linked, fresh, token.token, issuedAt, made⟩

end SpareSpace
