import SpareSpace.RefreshCalls
import SpareSpace.CallPrograms

/-!
# Refreshes and logouts without interference

A refresh or a logout whose program points run one after another with no other
call in between leaves the state that the authentication service leaves, and
returns or throws as it does.
-/

namespace SpareSpace

open InterleavedCalls Fallible AuthState

namespace TokenCall

/-- The call has returned. -/
def Returned : TokenCall → Prop
  | returned _ _ => True
  | _ => False

variable {config : AuthConfig} {crypto : Crypto} {environment : AuthEnvironment}

/-- Run alone, the call computes the service. -/
abbrev Computes (config : AuthConfig) (crypto : Crypto)
    (environment : AuthEnvironment) {α : Type} (call : TokenCall)
    (service : AuthCall α) : Prop :=
  (tokenSystem config crypto).Computes environment Returned threw call service

abbrev Performs (config : AuthConfig) (crypto : Crypto)
    (environment : AuthEnvironment) {α : Type} (call : TokenCall)
    (first : AuthCall α) (rest : α → TokenCall) : Prop :=
  (tokenSystem config crypto).Performs environment threw call first rest

/-- Issuing tokens, run alone, is the service's. -/
theorem computes_issueTokens (request : TokenRequest) (token : RefreshToken) :
    (issuing request token .getRoles).Computes config crypto environment
      (AuthService.issueTokens config crypto environment token.userId) := by
  intro state
  unfold System.ComputesFrom AuthService.issueTokens
  cases present : state.accounts.find? token.userId with
  | none =>
      rw [run_bind, run_onAccount_none present]
      refine ⟨1, _, ?_, rfl⟩
      simp only [System.runAlone, tokenSystem, next, present]
  | some user =>
      have stored : state.accounts.save ⟨token.userId, user.account⟩ =
          state.accounts := by
        rw [← KeyedTable.key_of_find? _ present]
        exact KeyedTable.save_of_mem _ (KeyedTable.mem_of_find? _ present)
      rw [run_bind, run_onAccount_some present]
      cases cached : RedisService.get environment.now user.account.rolesCache with
      | some roles =>
          rw [UsersService.run_getUserRoles_hit cached, stored]
          refine ⟨2, returned request token, ?_, trivial⟩
          simp only [System.runAlone, tokenSystem, next, issue, present, cached]
          rfl
      | none =>
          rw [UsersService.run_getUserRoles_miss cached]
          refine ⟨4, returned request token, ?_, trivial⟩
          simp only [System.runAlone, tokenSystem, next, issue, present, cached,
            KeyedTable.find?_save, if_true]
          rfl

/-- Finding, checking and revoking a token, run alone, is the service's. -/
theorem computes_spend (request : TokenRequest) {α : Type}
    {service : RefreshToken → AuthCall α}
    (later : ∀ token,
      (afterRevoking request token).Computes config crypto environment
        (service token)) :
    (findOne request).Computes config crypto environment
      (AuthService.spend crypto environment request.refreshToken
        request.revokedMessage >>= service) := by
  have finds : (findOne request).Performs config crypto environment
      (reads fun state =>
        (AuthService.checkRefreshToken environment.now request.revokedMessage
          (state.findToken (crypto.hmac request.refreshToken))).mapError
            AuthException.http)
      (update request) := by
    intro state
    simp only [tokenSystem, next, run_reads]
    cases AuthService.checkRefreshToken environment.now request.revokedMessage
      (state.findToken (crypto.hmac request.refreshToken)) <;> rfl
  simp only [AuthService.spend, bind_assoc, pure_bind]
  refine finds.computes_bind fun token _ _ _ => ?_
  have revokes : (update request token).Performs config crypto environment
      (updates fun state => .ok ((), { state with
        refreshTokens := AuthService.revoke state.refreshTokens token.id }))
      fun _ => afterRevoking request token := fun _ => rfl
  exact revokes.computes_bind fun _ _ _ _ => later token

/-- A refresh, run alone, is the service's. -/
theorem computes_refresh (refreshToken : String) :
    (findOne (.refresh refreshToken)).Computes config crypto environment
      (AuthService.refresh config crypto environment refreshToken) :=
  computes_spend (.refresh refreshToken) fun token =>
    computes_issueTokens (.refresh refreshToken) token

/-- A logout, run alone, is the service's. -/
theorem computes_logout (refreshToken : String) :
    (findOne (.logout refreshToken)).Computes config crypto environment
      (AuthService.logout crypto environment refreshToken) :=
  computes_spend (.logout refreshToken) fun _ => System.computes_pure _ trivial

end TokenCall

end SpareSpace
