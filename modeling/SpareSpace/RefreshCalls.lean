import SpareSpace.AuthOutcomes
import SpareSpace.InterleavedCalls

/-!
# Interleaved refreshes and logouts

A refresh token is read, checked and revoked in separate repository calls, and
a refresh issues the next tokens after that.  Calls that present the same token
may all read it before one of them revokes it.  A token is spent at most once
in every run in which each revocation finds the row not revoked yet.
-/

namespace SpareSpace

open InterleavedCalls TransitionRuns AuthState

inductive TokenRequest
  | refresh (refreshToken : String)
  | logout (refreshToken : String)
  deriving DecidableEq, Repr

namespace TokenRequest

def refreshToken : TokenRequest → String
  | refresh refreshToken | logout refreshToken => refreshToken

def revokedMessage : TokenRequest → String
  | refresh _ => "Refresh token revoked"
  | logout _ => "Refresh token already revoked"

end TokenRequest

/-- The points of `issueTokens`, before its cache and repository calls. -/
inductive IssuePoint
  | getRoles
  | findRoles
  | setRoles (roles : List UserRoleType)
  | save (roles : List UserRoleType)
  deriving DecidableEq, Repr

/-- The program points of a refresh or a logout; a call that has read its token
carries the row it has read. -/
inductive TokenCall
  | findOne (request : TokenRequest)
  | update (request : TokenRequest) (token : RefreshToken)
  | issuing (request : TokenRequest) (token : RefreshToken) (point : IssuePoint)
  | returned (request : TokenRequest) (token : RefreshToken)
  | threw (error : AuthException)
  deriving DecidableEq

namespace TokenCall

variable (config : AuthConfig) (crypto : Crypto)

/-- Where a call goes after its token has been revoked. -/
def afterRevoking (request : TokenRequest) (token : RefreshToken) : TokenCall :=
  match request with
  | .refresh _ => issuing request token .getRoles
  | .logout _ => returned request token

/-- A step of `issueTokens` for a user who exists. -/
def issue (environment : AuthEnvironment) (state : AuthState)
    (request : TokenRequest) (token : RefreshToken) (user : UserAccount) :
    IssuePoint → AuthState × TokenCall
  | .getRoles =>
      match RedisService.get environment.now user.account.rolesCache with
      | some roles => (state, issuing request token (.save roles))
      | none => (state, issuing request token .findRoles)
  | .findRoles =>
      (state, issuing request token (.setRoles user.account.roles))
  | .setRoles roles =>
      let cached := RedisService.entry environment.now
        UsersService.rolesCacheTtlSec roles
      let account := { user.account with rolesCache := cached }
      ({ state with accounts := state.accounts.save ⟨token.userId, account⟩ },
        issuing request token (.save roles))
  | .save roles =>
      ({ state with
          refreshTokens := state.refreshTokens.insert
            (AuthService.refreshTokenRow config crypto environment token.userId)
            (AuthService.refreshTokenRow_id config crypto environment token.userId)
          signed := JwtService.token environment.now config.jwtExpiresIn
            (.access token.userId roles) :: state.signed },
        returned request token)

def next (environment : AuthEnvironment) (state : AuthState) :
    TokenCall → Option (AuthState × TokenCall)
  | findOne request =>
      match AuthService.checkRefreshToken environment.now request.revokedMessage
          (state.findToken (crypto.hmac request.refreshToken)) with
      | .ok token => some (state, update request token)
      | .error error => some (state, threw (.http error))
  | update request token =>
      some ({ state with
        refreshTokens := AuthService.revoke state.refreshTokens token.id },
        afterRevoking request token)
  | issuing request token point =>
      match state.accounts.find? token.userId with
      | some user => some (issue config crypto environment state request token
          user point)
      | none =>
          some (state, threw (.http (.database "refresh_tokens_user_id_fkey")))
  | returned _ _ | threw _ => none

def starts : TokenCall → Bool
  | findOne _ => true
  | _ => false

/-- The token a call has revoked. -/
def spent : TokenCall → Option RefreshToken
  | issuing _ token _ | returned _ token => some token
  | _ => none

/-- What a step does to the tokens, and what the call has established. -/
inductive Effect (environment : AuthEnvironment) (state after : AuthState) :
    TokenCall → TokenCall → Prop
  | finds {request token} (kept : after.refreshTokens = state.refreshTokens)
      (presented : AuthService.Presented crypto environment.now state
        request.refreshToken token) :
      Effect environment state after (findOne request) (update request token)
  | fails {call error} (kept : after.refreshTokens = state.refreshTokens) :
      Effect environment state after call (threw error)
  | revokes {request token}
      (revoked : after.refreshTokens =
        AuthService.revoke state.refreshTokens token.id) :
      Effect environment state after (update request token)
        (afterRevoking request token)
  | prepares {request token point later}
      (kept : after.refreshTokens = state.refreshTokens) :
      Effect environment state after (issuing request token point)
        (issuing request token later)
  | issues {request token roles}
      (inserted : after.refreshTokens = state.refreshTokens.insert
        (AuthService.refreshTokenRow config crypto environment token.userId)
        (AuthService.refreshTokenRow_id config crypto environment token.userId)) :
      Effect environment state after (issuing request token (.save roles))
        (returned request token)

variable {config crypto} {environment : AuthEnvironment}
  {state after : AuthState} {call moved : TokenCall}

theorem effect_of_next
    (moves : next config crypto environment state call = some (after, moved)) :
    Effect config crypto environment state after call moved := by
  cases call with
  | findOne request =>
      simp only [next] at moves
      split at moves
      · next token passed =>
          obtain ⟨rfl, rfl⟩ := Prod.mk.inj (Option.some.inj moves)
          obtain ⟨stored, live, unrevoked⟩ := AuthService.checkRefreshToken_ok passed
          exact .finds rfl ⟨List.mem_of_find?_eq_some stored,
            by simpa using List.find?_some stored, live, unrevoked⟩
      · obtain ⟨rfl, rfl⟩ := Prod.mk.inj (Option.some.inj moves)
        exact .fails rfl
  | update request token =>
      obtain ⟨rfl, rfl⟩ := Prod.mk.inj (Option.some.inj moves)
      exact .revokes rfl
  | issuing request token point =>
      simp only [next] at moves
      split at moves
      · have taken := Option.some.inj moves
        cases point with
        | getRoles =>
            simp only [issue] at taken
            split at taken <;>
              (obtain ⟨rfl, rfl⟩ := Prod.mk.inj taken; exact .prepares rfl)
        | findRoles =>
            obtain ⟨rfl, rfl⟩ := Prod.mk.inj taken
            exact .prepares rfl
        | setRoles roles =>
            obtain ⟨rfl, rfl⟩ := Prod.mk.inj taken
            exact .prepares rfl
        | save roles =>
            obtain ⟨rfl, rfl⟩ := Prod.mk.inj taken
            exact .issues rfl
      · obtain ⟨rfl, rfl⟩ := Prod.mk.inj (Option.some.inj moves)
        exact .fails rfl
  | returned request token => contradiction
  | threw error => contradiction

end TokenCall

/-- Refreshes and logouts at the granularity of single calls. -/
def tokenSystem (config : AuthConfig) (crypto : Crypto) :
    System AuthState TokenCall AuthEnvironment where
  starts := TokenCall.starts
  next := TokenCall.next config crypto

namespace TokenCall

variable (crypto : Crypto)

/-- A new token's hash differs from all stored ones, as that of 64 random bytes
does. -/
def DrawsFresh (config : Config AuthState TokenCall) :
    Move TokenCall AuthEnvironment → Prop
  | .spawn _ => True
  | .act _ environment => ∀ row ∈ config.store.refreshTokens.rows,
      row.tokenHash ≠ crypto.hmac environment.refreshToken

/-- A token is revoked only where its row is not revoked yet. -/
def RevokesOnce (config : Config AuthState TokenCall) :
    Move TokenCall AuthEnvironment → Prop
  | .spawn _ => True
  | .act index _ => ∀ request token,
      config.calls[index]? = some (update request token) →
        ∃ row ∈ config.store.refreshTokens.rows,
          row.id = token.id ∧ row.revoked = false

/-- The call has revoked the token with this id. -/
def hasSpent (id : Nat) (call : TokenCall) : Bool :=
  call.spent.any fun token => token.id == id

/-- The call presented this token and has succeeded. -/
def succeeded (refreshToken : String) : TokenCall → Bool
  | returned request _ => request.refreshToken == refreshToken
  | _ => false

/-- The row that a call has read is stored under the hash of what the call has
presented. -/
def Names (state : AuthState) (request : TokenRequest) (token : RefreshToken) :
    Prop :=
  ∃ row ∈ state.refreshTokens.rows, row.id = token.id ∧
    row.tokenHash = crypto.hmac request.refreshToken

/-- What a call in flight knows about its token. -/
def Holds (state : AuthState) : TokenCall → Prop
  | update request token | issuing request token _ | returned request token =>
      Names crypto state request token
  | findOne _ | threw _ => True

/-- Hashes name rows, and at most one call has revoked each row, none if the
row is not revoked. -/
structure SpentOnce (config : Config AuthState TokenCall) : Prop where
  distinct : ∀ first ∈ config.store.refreshTokens.rows,
    ∀ second ∈ config.store.refreshTokens.rows,
      first.tokenHash = second.tokenHash → first = second
  holds : ∀ call ∈ config.calls, Holds crypto config.store call
  once : ∀ row ∈ config.store.refreshTokens.rows,
    config.calls.countP (hasSpent row.id) ≤ row.revoked.toNat

section Step

variable {crypto} {config : AuthConfig} {state after : AuthState}
  {calls : List TokenCall} {index : Nat} {call moved : TokenCall}
  {environment : AuthEnvironment}

/-- Every row is still there under its id and its hash. -/
def KeepsRows (state after : AuthState) : Prop :=
  ∀ row ∈ state.refreshTokens.rows, ∃ later ∈ after.refreshTokens.rows,
    later.id = row.id ∧ later.tokenHash = row.tokenHash

theorem KeepsRows.of_eq (kept : after.refreshTokens = state.refreshTokens) :
    KeepsRows state after := by
  intro row present
  exact ⟨row, kept ▸ present, rfl, rfl⟩

theorem Holds.keep (keeps : KeepsRows state after)
    (holds : Holds crypto state call) : Holds crypto after call := by
  have names {request : TokenRequest} {token : RefreshToken}
      (named : Names crypto state request token) :
      Names crypto after request token := by
    obtain ⟨row, present, same, hash⟩ := named
    obtain ⟨later, stays, sameId, sameHash⟩ := keeps row present
    exact ⟨later, stays, sameId.trans same, sameHash.trans hash⟩
  cases call with
  | findOne request => exact trivial
  | threw error => exact trivial
  | update request token => exact names holds
  | issuing request token point => exact names holds
  | returned request token => exact names holds

theorem SpentOnce.holds_set (spentOnce : SpentOnce crypto ⟨state, calls⟩)
    (keeps : KeepsRows state after) (mine : Holds crypto after moved) :
    ∀ other ∈ calls.set index moved, Holds crypto after other :=
  forall_set (fun other present => (spentOnce.holds other present).keep keeps) mine

/-- A call that has revoked a token names its row. -/
theorem SpentOnce.row_of_hasSpent (spentOnce : SpentOnce crypto ⟨state, calls⟩)
    {id : Nat} (present : call ∈ calls) (spent : hasSpent id call = true) :
    ∃ row ∈ state.refreshTokens.rows, row.id = id := by
  have holds := spentOnce.holds call present
  cases call with
  | issuing request token point =>
      obtain ⟨row, stored, same, _⟩ := holds
      exact ⟨row, stored, same.trans (by simpa [hasSpent, TokenCall.spent] using spent)⟩
  | returned request token =>
      obtain ⟨row, stored, same, _⟩ := holds
      exact ⟨row, stored, same.trans (by simpa [hasSpent, TokenCall.spent] using spent)⟩
  | _ => contradiction

/-- Steps that leave the tokens alone and do not make their call one that has
revoked a token. -/
theorem SpentOnce.quiet (spentOnce : SpentOnce crypto ⟨state, calls⟩)
    (found : calls[index]? = some call)
    (kept : after.refreshTokens = state.refreshTokens)
    (mine : Holds crypto after moved)
    (spent : ∀ id, hasSpent id moved = true → hasSpent id call = true) :
    SpentOnce crypto ⟨after, calls.set index moved⟩ := by
  refine ⟨?_, spentOnce.holds_set (KeepsRows.of_eq kept) mine, ?_⟩
  · intro first firstMem second secondMem
    exact spentOnce.distinct first (kept ▸ firstMem) second (kept ▸ secondMem)
  · intro row present
    have before := spentOnce.once row (kept ▸ present)
    have counted := countP_set_add (hasSpent row.id) moved found
    have smaller : (hasSpent row.id moved).toNat ≤ (hasSpent row.id call).toNat := by
      cases sets : hasSpent row.id moved with
      | false => exact Nat.zero_le _
      | true => rw [spent row.id sets]
    change (calls.set index moved).countP (hasSpent row.id) ≤ row.revoked.toNat
    simp only at before
    omega

theorem mem_revoke {row : RefreshToken} {id : Nat}
    (present : row ∈ (AuthService.revoke state.refreshTokens id).rows) :
    ∃ old ∈ state.refreshTokens.rows, row.id = old.id ∧
      row.tokenHash = old.tokenHash ∧
        row.revoked = (old.revoked || old.id == id) := by
  obtain ⟨old, stored, rfl⟩ := List.mem_map.mp present
  refine ⟨old, stored, ?_⟩
  by_cases same : old.id = id
  · simp [same]
  · simp [same]

theorem keepsRows_revoke {id : Nat}
    (revoked : after.refreshTokens = AuthService.revoke state.refreshTokens id) :
    KeepsRows state after := by
  intro row present
  rw [revoked]
  refine ⟨_, List.mem_map_of_mem present, ?_⟩
  by_cases same : row.id = id <;> simp [same]

theorem SpentOnce.revokes {token : RefreshToken}
    (spentOnce : SpentOnce crypto ⟨state, calls⟩)
    (found : calls[index]? = some call)
    (revoked : after.refreshTokens =
      AuthService.revoke state.refreshTokens token.id)
    (unrevoked : ∃ row ∈ state.refreshTokens.rows,
      row.id = token.id ∧ row.revoked = false)
    (mine : Holds crypto after moved)
    (before : ∀ id, hasSpent id call = false)
    (now : ∀ id, hasSpent id moved = (token.id == id)) :
    SpentOnce crypto ⟨after, calls.set index moved⟩ := by
  refine ⟨?_, spentOnce.holds_set (keepsRows_revoke revoked) mine, ?_⟩
  · intro first firstMem second secondMem same
    simp only [revoked] at firstMem secondMem
    obtain ⟨oldFirst, storedFirst, rfl⟩ := List.mem_map.mp firstMem
    obtain ⟨oldSecond, storedSecond, rfl⟩ := List.mem_map.mp secondMem
    have hashes : oldFirst.tokenHash = oldSecond.tokenHash := by
      split at same <;> split at same <;> exact same
    rw [spentOnce.distinct oldFirst storedFirst oldSecond storedSecond hashes]
  · intro row present
    simp only [revoked] at present
    obtain ⟨old, stored, sameId, _, state⟩ := mem_revoke present
    have earlier := spentOnce.once old stored
    have counted := countP_set_add (hasSpent row.id) moved found
    rw [before, now, sameId] at counted
    change (calls.set index moved).countP (hasSpent row.id) ≤ row.revoked.toNat
    rw [sameId, state]
    simp only at earlier
    by_cases named : old.id = token.id
    · obtain ⟨live, liveStored, liveId, liveState⟩ := unrevoked
      have equal := KeyedTable.eq_of_key_eq _ stored liveStored
        (named.trans liveId.symm)
      rw [equal, liveState] at earlier
      rw [equal] at counted ⊢
      simp only [liveId, beq_self_eq_true, Bool.or_true, Bool.toNat_true,
        Bool.toNat_false] at earlier counted ⊢
      omega
    · have other : (token.id == old.id) = false := by
        simpa using Ne.symm named
      have otherToo : (old.id == token.id) = false := by simpa using named
      rw [other] at counted
      rw [otherToo, Bool.or_false]
      simp only [Bool.toNat_false] at counted
      omega

theorem SpentOnce.issues {userId : Nat}
    (spentOnce : SpentOnce crypto ⟨state, calls⟩)
    (found : calls[index]? = some call)
    (inserted : after.refreshTokens = state.refreshTokens.insert
      (AuthService.refreshTokenRow config crypto environment userId)
      (AuthService.refreshTokenRow_id config crypto environment userId))
    (fresh : ∀ row ∈ state.refreshTokens.rows,
      row.tokenHash ≠ crypto.hmac environment.refreshToken)
    (mine : Holds crypto after moved)
    (spent : ∀ id, hasSpent id moved = hasSpent id call) :
    SpentOnce crypto ⟨after, calls.set index moved⟩ := by
  have keeps : KeepsRows state after := by
    intro row present
    exact ⟨row, by rw [inserted]; exact
      (state.refreshTokens.mem_insert_iff _ _).mpr (Or.inl present), rfl, rfl⟩
  refine ⟨?_, spentOnce.holds_set keeps mine, ?_⟩
  · intro first firstMem second secondMem same
    simp only [inserted, KeyedTable.mem_insert_iff] at firstMem secondMem
    rcases firstMem with firstOld | rfl
    · rcases secondMem with secondOld | rfl
      · exact spentOnce.distinct first firstOld second secondOld same
      · exact absurd same (fresh first firstOld)
    · rcases secondMem with secondOld | rfl
      · exact absurd same.symm (fresh second secondOld)
      · rfl
  · intro row present
    simp only [inserted, KeyedTable.mem_insert_iff] at present
    have counted := countP_set_add (hasSpent row.id) moved found
    rw [spent] at counted
    change (calls.set index moved).countP (hasSpent row.id) ≤ row.revoked.toNat
    rcases present with old | rfl
    · have earlier := spentOnce.once row old
      simp only at earlier
      omega
    · have none : calls.countP (hasSpent state.refreshTokens.nextId) = 0 := by
        rw [List.countP_eq_zero]
        intro other stands spends
        obtain ⟨stored, storedMem, same⟩ :=
          spentOnce.row_of_hasSpent stands spends
        have below := state.refreshTokens.fresh stored storedMem
        omega
      rw [AuthService.refreshTokenRow_id] at counted ⊢
      omega

theorem SpentOnce.step {config : AuthConfig}
    {before later : Config AuthState TokenCall}
    {label : Move TokenCall AuthEnvironment}
    (spentOnce : SpentOnce crypto before)
    (fresh : DrawsFresh crypto before label) (once : RevokesOnce before label)
    (taken : (tokenSystem config crypto).step before label = some later) :
    SpentOnce crypto later := by
  cases label with
  | spawn call =>
      obtain ⟨starts, rfl⟩ := System.step_spawn taken
      cases call with
      | findOne request =>
          refine ⟨spentOnce.distinct, ?_, ?_⟩
          · exact List.forall_mem_append.mpr
              ⟨spentOnce.holds, List.forall_mem_singleton.mpr trivial⟩
          · intro row present
            simpa [List.countP_append, hasSpent, TokenCall.spent] using
              spentOnce.once row present
      | _ => contradiction
  | act index environment =>
      obtain ⟨call, after, moved, found, moves, rfl⟩ := System.step_act taken
      have mine := spentOnce.holds call (mem_of_index found)
      cases effect_of_next moves with
      | finds kept presented =>
          refine spentOnce.quiet found kept ?_ nofun
          exact ⟨_, kept ▸ presented.stored, rfl, presented.hash⟩
      | fails kept => exact spentOnce.quiet found kept trivial nofun
      | @revokes request token revoked =>
          refine spentOnce.revokes found revoked (once request token found) ?_
            (fun _ => rfl) ?_
          · have named : Holds crypto after (update request token) :=
              mine.keep (keepsRows_revoke revoked)
            cases request <;> exact named
          · intro id
            cases request <;> rfl
      | prepares kept =>
          exact spentOnce.quiet found kept (mine.keep (KeepsRows.of_eq kept))
            fun _ spent => spent
      | issues inserted =>
          refine spentOnce.issues found inserted fresh ?_ fun _ => rfl
          obtain ⟨row, stored, same, hash⟩ := mine
          refine ⟨row, ?_, same, hash⟩
          rw [inserted]
          exact (KeyedTable.mem_insert_iff _ _ _).mpr (Or.inl stored)

end Step

/-- Whoever has succeeded with a token has revoked its row. -/
theorem SpentOnce.countP_succeeded_le {crypto : Crypto}
    {config : Config AuthState TokenCall} (spentOnce : SpentOnce crypto config)
    {row : RefreshToken} (stored : row ∈ config.store.refreshTokens.rows)
    {refreshToken : String} (hash : row.tokenHash = crypto.hmac refreshToken) :
    config.calls.countP (succeeded refreshToken) ≤
      config.calls.countP (hasSpent row.id) := by
  apply List.countP_mono_left
  intro call present success
  cases call with
  | returned request token =>
      obtain ⟨other, otherStored, named, otherHash⟩ := spentOnce.holds _ present
      have same : request.refreshToken = refreshToken := by
        simpa [succeeded] using success
      have equal : other = row := by
        apply spentOnce.distinct other otherStored row stored
        rw [otherHash, hash, same]
      simp [hasSpent, TokenCall.spent, ← named, equal]
  | _ => contradiction

end TokenCall

open TokenCall

/-- In every run in which each revocation finds the row not revoked yet, at most
one of the calls that present a token succeeds. -/
theorem refresh_token_spent_once {config : AuthConfig} {crypto : Crypto}
    {start last : Config AuthState TokenCall} (noCalls : start.calls = [])
    (distinct : ∀ first ∈ start.store.refreshTokens.rows,
      ∀ second ∈ start.store.refreshTokens.rows,
        first.tokenHash = second.tokenHash → first = second)
    (run : Run (tokenSystem config crypto).step
      (fun config move => DrawsFresh crypto config move ∧ RevokesOnce config move)
      start last)
    (refreshToken : String) :
    last.calls.countP (succeeded refreshToken) ≤ 1 := by
  have starting : SpentOnce crypto start := by
    refine ⟨distinct, ?_, ?_⟩
    · rw [noCalls]
      exact nofun
    · rw [noCalls]
      exact fun _ _ => Nat.zero_le _
  have spentOnce : SpentOnce crypto last :=
    Run.invariant (SpentOnce crypto) starting
      (fun _ _ _ spentOnce permitted taken =>
        spentOnce.step permitted.1 permitted.2 taken) run
  by_cases none : last.calls.countP (succeeded refreshToken) = 0
  · rw [none]
    exact Nat.zero_le 1
  · obtain ⟨call, present, success⟩ := List.countP_pos_iff.mp (Nat.pos_of_ne_zero none)
    cases call with
    | returned request token =>
        obtain ⟨row, stored, _, hash⟩ := spentOnce.holds _ present
        have same : request.refreshToken = refreshToken := by
          simpa [succeeded] using success
        have smaller := spentOnce.countP_succeeded_le stored (same ▸ hash)
        have bound := spentOnce.once row stored
        have most : row.revoked.toNat ≤ 1 := Bool.toNat_le _
        omega
    | _ => contradiction

/-- One user with one refresh token. -/
private def tokenStart : Config AuthState TokenCall where
  store := { AuthState.empty with
    accounts := KeyedTable.empty.insert
      (UsersService.newAccount
        (UsersService.newRow "+79001234567" "password" "Ivan" "Petrov" none 0))
      (UsersService.newAccount_id _)
    refreshTokens := KeyedTable.empty.insert
      (fun id => ⟨id, 1, "first", 1000000, false⟩) fun _ => rfl }
  calls := []

private theorem tokenStart_distinct :
    ∀ first ∈ tokenStart.store.refreshTokens.rows,
      ∀ second ∈ tokenStart.store.refreshTokens.rows,
        first.tokenHash = second.tokenHash → first = second := by
  decide

private def spendsOnce (config : Config AuthState TokenCall) :
    Move TokenCall AuthEnvironment → Bool
  | .spawn _ => true
  | .act index environment =>
      (config.store.refreshTokens.rows.all fun row =>
        row.tokenHash != Crypto.plain.hmac environment.refreshToken) &&
      match config.calls[index]? with
      | some (.update _ token) =>
          config.store.refreshTokens.rows.any fun row =>
            row.id == token.id && row.revoked == false
      | _ => true

private theorem permitted_of_spendsOnce (config : Config AuthState TokenCall)
    (label : Move TokenCall AuthEnvironment) (checked : spendsOnce config label = true) :
    DrawsFresh Crypto.plain config label ∧ RevokesOnce config label := by
  cases label with
  | spawn => exact ⟨trivial, trivial⟩
  | act index environment =>
      simp only [spendsOnce, Bool.and_eq_true, List.all_eq_true, bne_iff_ne] at checked
      apply And.intro checked.1
      intro request token stood
      have found := checked.2
      simp only [stood, List.any_eq_true, Bool.and_eq_true, beq_iff_eq] at found
      exact found

/-- The environment in which the token is drawn. -/
private def drawing (refreshToken : String) : AuthEnvironment :=
  { AuthEnvironment.plain 0 .failed with refreshToken := refreshToken }

/-- A refresh is under way when a logout arrives with the same token, which is refused; a
second refresh of the token is refused as well, and the new token is spent by a logout. -/
private def spendsTwoTokens : List (Move TokenCall AuthEnvironment) :=
  [.spawn (.findOne (.refresh "first")), .spawn (.findOne (.logout "first")),
    .act 0 (drawing "second"), .act 0 (drawing "second"), .act 1 (drawing "second"),
    .spawn (.findOne (.refresh "first")),
    .act 0 (drawing "second"), .act 0 (drawing "second"), .act 2 (drawing "second"),
    .act 0 (drawing "second"), .act 0 (drawing "second"),
    .spawn (.findOne (.logout "second")), .act 3 (drawing "third"), .act 3 (drawing "third")]

theorem refresh_token_spent_once_sample :
    ∃ last, Run (tokenSystem ⟨30, 900, false⟩ Crypto.plain).step
        (fun config move =>
          DrawsFresh Crypto.plain config move ∧ RevokesOnce config move)
        tokenStart last ∧
      last.calls =
        [.returned (.refresh "first") ⟨1, 1, "first", 1000000, false⟩,
          .threw (.http (.unauthorized "Refresh token already revoked")),
          .threw (.http (.unauthorized "Refresh token revoked")),
          .returned (.logout "second") ⟨2, 1, "second", 2592000000, false⟩] ∧
        last.calls.countP (succeeded "first") ≤ 1 ∧
          last.calls.countP (succeeded "second") ≤ 1 := by
  have reached : Run (tokenSystem ⟨30, 900, false⟩ Crypto.plain).step
      (fun config move => DrawsFresh Crypto.plain config move ∧ RevokesOnce config move)
      tokenStart _ :=
    Run.start.executeChecked spendsOnce permitted_of_spendsOnce spendsTwoTokens rfl
  have once := refresh_token_spent_once rfl tokenStart_distinct reached
  exact ⟨_, reached, by decide, once "first", once "second"⟩

/-- Two refreshes that both read the token before either revokes it both issue
new tokens. -/
theorem refresh_token_spent_twice :
    ¬ ∀ config crypto (start last : Config AuthState TokenCall),
      start.calls = [] →
        (∀ first ∈ start.store.refreshTokens.rows,
          ∀ second ∈ start.store.refreshTokens.rows,
            first.tokenHash = second.tokenHash → first = second) →
          Reachable (tokenSystem config crypto).step start last →
            ∀ refreshToken, last.calls.countP (succeeded refreshToken) ≤ 1 := by
  intro once
  have reached := reachable_of_execute
    (tokenSystem ⟨30, 900, false⟩ Crypto.plain).step tokenStart
    [.spawn (.findOne (.refresh "first")), .spawn (.findOne (.refresh "first")),
      .act 0 (.plain 0 .failed), .act 1 (.plain 0 .failed),
      .act 0 (.plain 0 .failed), .act 1 (.plain 0 .failed),
      .act 0 (.plain 0 .failed), .act 0 (.plain 0 .failed),
      .act 0 (.plain 0 .failed), .act 0 (.plain 0 .failed),
      .act 1 (.plain 0 .failed),
      .act 1 { AuthEnvironment.plain 0 .failed with refreshToken := "other" }] rfl
  have bound := once _ _ _ _ rfl tokenStart_distinct reached "first"
  exact absurd bound (by decide)

end SpareSpace
