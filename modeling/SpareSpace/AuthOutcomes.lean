import SpareSpace.AuthService
import SpareSpace.AccountOutcomes

/-!
# What the authentication requests do

Most requests leave every account quiet and the digits of every phone as they
are; a registration adds an account without recovery codes.  The file proves
this for the parts the requests are made of, and says whom the tokens are for
that a part returns.
-/

namespace SpareSpace

/-- Surroundings in which every draw is fixed. -/
def AuthEnvironment.plain (now : Int) (provider : ProviderResponse) :
    AuthEnvironment where
  now := now
  taken _ := false
  provider := provider
  refreshToken := "token"
  passwordSalt := "salt"
  draws := ⟨"secret", "iv", fun _ => ⟨"0a1b2c3d4e", "salt", rfl⟩⟩

open Fallible AuthState TwoFactorService UsersService

/-- Nothing is wrong in the cache, and there are no recovery codes. -/
structure Account.Fresh (account : Account) : Prop where
  coherent : account.Coherent
  noHashes : storedHashes account.row = []

theorem Account.Fresh.quiet {before after : Account} (fresh : before.Fresh)
    (quiet : before.Quiet after) : after.Fresh := by
  refine ⟨quiet.coherent fresh.coherent, ?_⟩
  rw [quiet.row]
  exact fresh.noHashes

namespace AuthState

/-- Every account is kept quiet, new ones are fresh, and no digits of a flash
call have changed. -/
structure Steady (before after : AuthState) : Prop where
  flashCalls : after.flashCalls = before.flashCalls
  kept : ∀ userId old, before.accounts.find? userId = some old →
    ∃ new, after.accounts.find? userId = some new ∧
      old.account.Quiet new.account
  joined : ∀ userId new, before.accounts.find? userId = none →
    after.accounts.find? userId = some new → new.account.Fresh

variable {before middle after state : AuthState} {userId : Nat}

theorem Steady.of_accounts (flashCalls : after.flashCalls = before.flashCalls)
    (accounts : after.accounts = before.accounts) : Steady before after := by
  refine ⟨flashCalls, fun userId old found => ?_, fun userId new absent found => ?_⟩
  · exact ⟨old, accounts ▸ found, Account.Quiet.refl _⟩
  · rw [accounts, absent] at found
    contradiction

theorem Steady.refl (state : AuthState) : Steady state state :=
  Steady.of_accounts rfl rfl

theorem Steady.trans (first : Steady before middle)
    (second : Steady middle after) : Steady before after := by
  refine ⟨second.flashCalls.trans first.flashCalls, ?_, ?_⟩
  · intro userId old found
    obtain ⟨mid, foundMid, quietFirst⟩ := first.kept userId old found
    obtain ⟨new, foundNew, quietSecond⟩ := second.kept userId mid foundMid
    exact ⟨new, foundNew, quietFirst.trans quietSecond⟩
  · intro userId new absent found
    cases foundMid : middle.accounts.find? userId with
    | none => exact second.joined userId new foundMid found
    | some mid =>
        obtain ⟨other, foundOther, quiet⟩ := second.kept userId mid foundMid
        rw [found] at foundOther
        obtain rfl := Option.some.inj foundOther
        exact (first.joined userId mid absent foundMid).quiet quiet

/-- A sequence of steady parts is steady. -/
theorem Steady.bind {α β : Type} {call : AuthCall α} {rest : α → AuthCall β}
    (first : Steady state (run call state).2)
    (later : ∀ value next, run call state = (.ok value, next) →
      Steady next (run (rest value) next).2) :
    Steady state (run (call >>= rest) state).2 :=
  related_bind (fun first second => first.trans second) first later

section OnAccount

variable {α : Type} {missing : HttpException} {call : AccountCall α}

private theorem run_onAccount :
    run (onAccount userId missing call) state =
      match state.accounts.find? userId with
      | none => (Except.error (AuthException.http missing), state)
      | some found =>
          ((run call found.account).1.mapError AuthException.http,
            { state with accounts :=
              state.accounts.save ⟨userId, (run call found.account).2⟩ }) :=
  rfl

theorem run_onAccount_none (absent : state.accounts.find? userId = none) :
    run (onAccount userId missing call) state =
      (.error (.http missing), state) := by
  rw [run_onAccount, absent]

theorem run_onAccount_some {found : UserAccount}
    (present : state.accounts.find? userId = some found) :
    run (onAccount userId missing call) state =
      ((run call found.account).1.mapError AuthException.http,
        { state with accounts :=
          state.accounts.save ⟨userId, (run call found.account).2⟩ }) := by
  rw [run_onAccount, present]

/-- Writing a quiet account back is steady. -/
theorem steady_save {found : UserAccount} {account : Account}
    (present : state.accounts.find? userId = some found)
    (quiet : found.account.Quiet account) :
    Steady state
      { state with accounts := state.accounts.save ⟨userId, account⟩ } := by
  refine ⟨rfl, fun other old stood => ?_, fun other new absent joined => ?_⟩
  · by_cases same : other = userId
    · subst same
      rw [present] at stood
      obtain rfl := Option.some.inj stood
      exact ⟨⟨other, account⟩, by simp, quiet⟩
    · exact ⟨old, by simp [same, stood], Account.Quiet.refl _⟩
  · by_cases same : other = userId
    · subst same
      rw [present] at absent
      contradiction
    · simp [same, absent] at joined

theorem steady_onAccount
    (quiet : ∀ account : Account, account.Quiet (run call account).2) :
    Steady state (run (onAccount userId missing call) state).2 := by
  cases present : state.accounts.find? userId with
  | none =>
      rw [run_onAccount_none present]
      exact Steady.refl _
  | some found =>
      rw [run_onAccount_some present]
      exact steady_save present (quiet found.account)

theorem flashCalls_onAccount :
    (run (onAccount userId missing call) state).2.flashCalls =
      state.flashCalls := by
  cases present : state.accounts.find? userId with
  | none => rw [run_onAccount_none present]
  | some found => rw [run_onAccount_some present]

end OnAccount

theorem find?_of_findByPhone {phone : String} {user : UserAccount}
    (found : state.findByPhone phone = some user) :
    state.accounts.find? user.id = some user :=
  state.accounts.find?_key_of_mem (List.mem_of_find?_eq_some found)

theorem find?_of_findByEmail {email : String} {user : UserAccount}
    (found : state.findByEmail email = some user) :
    state.accounts.find? user.id = some user :=
  state.accounts.find?_key_of_mem (List.mem_of_find?_eq_some found)

end AuthState

theorem JwtService.run_verify_ok {now : Int} {token : Jwt} {message : String}
    {state after : AuthState} {payload : JwtPayload}
    (verified : run (JwtService.verify now token message) state =
      (.ok payload, after)) :
    after = state ∧ token ∈ state.signed ∧ JwtService.unexpired now token = true ∧
      payload = token.payload := by
  unfold JwtService.verify at verified
  rw [run_reads] at verified
  split at verified
  · next valid =>
      rw [Bool.and_eq_true, List.contains_iff_mem] at valid
      obtain ⟨same, rfl⟩ := Prod.mk.inj verified
      exact ⟨rfl, valid.1, valid.2, (Except.ok.inj same).symm⟩
  · exact absurd (Prod.mk.inj verified).1 (by simp)

namespace AuthService

variable {config : AuthConfig} {crypto : Crypto} {environment : AuthEnvironment}
  {state after : AuthState} {userId : Nat} {response : AuthResponse}

/-- Whether a response carries an access token for the user. -/
def IssuedTo (userId : Nat) (response : AuthResponse) : Prop :=
  ∃ accessToken refreshToken roles, response = .tokens accessToken refreshToken ∧
    accessToken.payload = .access userId roles

theorem IssuedTo.unique {other : Nat} (first : IssuedTo userId response)
    (second : IssuedTo other response) : userId = other := by
  obtain ⟨accessToken, refreshToken, roles, rfl, named⟩ := first
  obtain ⟨_, _, _, same, alsoNamed⟩ := second
  obtain ⟨rfl, _⟩ := AuthResponse.tokens.inj same
  rw [named] at alsoNamed
  exact (JwtPayload.access.inj alsoNamed).1

/-- A request that ends in another response issues no tokens. -/
theorem not_issuedTo_of_returns {α : Type} {call : AuthCall α}
    {result : α → AuthResponse}
    (other : ∀ value accessToken refreshToken,
      result value ≠ .tokens accessToken refreshToken)
    (ran : run (call >>= fun value => pure (result value)) state =
      (.ok response, after)) : ¬ IssuedTo userId response := by
  rintro ⟨accessToken, refreshToken, _, rfl, _⟩
  obtain ⟨value, _, _, returned⟩ := bind_ok ran
  exact other value accessToken refreshToken
    (Except.ok.inj (Prod.mk.inj returned).1)

theorem issueTokens_spec (config : AuthConfig) (crypto : Crypto)
    (environment : AuthEnvironment) {found : UserAccount}
    (present : state.accounts.find? userId = some found) :
    ∃ response after,
      run (issueTokens config crypto environment userId) state =
          (.ok response, after) ∧
        IssuedTo userId response ∧ Steady state after := by
  obtain ⟨roles, account, ran, quiet⟩ :=
    getUserRoles_spec environment.toUserEnvironment found.account
  unfold issueTokens
  rw [run_bind, run_onAccount_some present, ran]
  exact ⟨_, _, rfl, ⟨_, _, roles, rfl, rfl⟩,
    (steady_save present quiet).trans (Steady.of_accounts rfl rfl)⟩

theorem steady_issueTokens (config : AuthConfig) (crypto : Crypto)
    (environment : AuthEnvironment) (userId : Nat) (state : AuthState) :
    Steady state (run (issueTokens config crypto environment userId) state).2 := by
  cases present : state.accounts.find? userId with
  | none =>
      unfold issueTokens
      rw [run_bind, run_onAccount_none present]
      exact Steady.refl _
  | some found =>
      obtain ⟨_, after, ran, _, steady⟩ :=
        issueTokens_spec config crypto environment present
      rw [ran]
      exact steady

theorem issuedTo_of_issueTokens
    (ran : run (issueTokens config crypto environment userId) state =
      (.ok response, after)) : IssuedTo userId response := by
  cases present : state.accounts.find? userId with
  | none =>
      unfold issueTokens at ran
      rw [run_bind, run_onAccount_none present] at ran
      exact absurd (Prod.mk.inj ran).1 (by simp)
  | some found =>
      obtain ⟨issued, _, same, issuedTo, _⟩ :=
        issueTokens_spec config crypto environment present
      rw [ran] at same
      obtain rfl := Except.ok.inj (Prod.mk.inj same).1
      exact issuedTo

theorem signIn_spec (config : AuthConfig) (crypto : Crypto)
    (environment : AuthEnvironment) {user : UserAccount}
    (present : state.accounts.find? user.id = some user) :
    ∃ response after,
      run (signIn config crypto environment user) state = (.ok response, after) ∧
        Steady state after ∧
          (user.account.row .twoFaEnabled = true →
            ∀ userId, ¬ IssuedTo userId response) ∧
            ∀ userId, IssuedTo userId response → userId = user.id := by
  unfold signIn
  cases enabled : user.account.row .twoFaEnabled with
  | true =>
      simp only [if_true]
      refine ⟨_, _, rfl, Steady.of_accounts rfl rfl, fun _ userId issued => ?_,
        fun userId issued => ?_⟩
      · obtain ⟨_, _, _, same, _⟩ := issued
        contradiction
      · obtain ⟨_, _, _, same, _⟩ := issued
        contradiction
  | false =>
      obtain ⟨response, after, ran, issuedTo, steady⟩ :=
        issueTokens_spec config crypto environment present
      exact ⟨response, after, ran, steady, nofun,
        fun userId issued => issued.unique issuedTo⟩

/-- The user has an account without a second factor. -/
def WithoutSecondFactor (state : AuthState) (userId : Nat) : Prop :=
  ∃ user, state.accounts.find? userId = some user ∧
    user.account.row .twoFaEnabled = false

/-- Signing in issues tokens to a user without a second factor only. -/
theorem signIn_issues {user : UserAccount}
    (present : state.accounts.find? user.id = some user)
    (ran : run (signIn config crypto environment user) state =
      (.ok response, after))
    (issued : IssuedTo userId response) : WithoutSecondFactor state userId := by
  obtain ⟨_, _, same, _, refused, named⟩ :=
    signIn_spec config crypto environment present
  rw [ran] at same
  obtain rfl := Except.ok.inj (Prod.mk.inj same).1
  obtain rfl := named userId issued
  refine ⟨user, present, ?_⟩
  cases enabled : user.account.row .twoFaEnabled with
  | true => exact absurd issued (refused enabled user.id)
  | false => rfl

theorem WithoutSecondFactor.not_enabled {user : UserAccount}
    (without : WithoutSecondFactor state userId)
    (found : state.accounts.find? userId = some user) :
    user.account.row .twoFaEnabled ≠ true := by
  obtain ⟨other, foundOther, disabled⟩ := without
  rw [found] at foundOther
  obtain rfl := Option.some.inj foundOther
  exact Bool.eq_false_iff.mp disabled

theorem WithoutSecondFactor.steady (without : WithoutSecondFactor state userId)
    (steady : Steady state after) : WithoutSecondFactor after userId := by
  obtain ⟨user, found, off⟩ := without
  obtain ⟨new, foundNew, quiet⟩ := steady.kept userId user found
  exact ⟨new, foundNew, by rw [quiet.row, off]⟩

section VerifyFlashCall

variable {phone lastFourDigits : String}

/-- The state in which a flash call's digits have been used up. -/
def usedUp (state : AuthState) (cleanedPhone : String) : AuthState :=
  { state with
    flashCalls := Function.update state.flashCalls cleanedPhone none }

theorem verifyFlashCall_error {error : AuthException}
    (refused : checkDigits environment state (cleanPhoneNumber phone)
      lastFourDigits = .error error) :
    run (verifyFlashCall config crypto environment phone lastFourDigits)
      state = (.error error, state) := by
  unfold verifyFlashCall
  rw [run_bind, run_reads, refused]

/-- Digits that pass the check always lead to a response. -/
theorem verifyFlashCall_ok (config : AuthConfig) (crypto : Crypto)
    (passed : checkDigits environment state (cleanPhoneNumber phone)
      lastFourDigits = .ok ()) :
    ∃ response after,
      run (verifyFlashCall config crypto environment phone lastFourDigits)
          state = (.ok response, after) ∧
        Steady (usedUp state (cleanPhoneNumber phone)) after ∧
          ∀ userId, IssuedTo userId response →
            WithoutSecondFactor state userId := by
  unfold verifyFlashCall
  rw [run_bind, run_reads, passed]
  simp only
  rw [run_bind, run_updates]
  simp only
  rw [run_bind, run_reads]
  simp only
  split
  · refine ⟨_, _, rfl, Steady.of_accounts rfl rfl, ?_⟩
    rintro userId ⟨_, _, _, same, _⟩
    contradiction
  · next user found =>
      have present : (usedUp state (cleanPhoneNumber phone)).accounts.find?
          user.id = some user := find?_of_findByPhone found
      obtain ⟨response, after, ran, steady, _⟩ :=
        signIn_spec config crypto environment present
      refine ⟨response, after, ran, steady, fun userId issued => ?_⟩
      have off : WithoutSecondFactor (usedUp state (cleanPhoneNumber phone))
          userId := signIn_issues present ran issued
      exact off

end VerifyFlashCall

section Login

variable {dto : LoginDto} {user : UserAccount}

theorem find?_of_findLogin (found : findLogin dto state = .ok user) :
    state.accounts.find? user.id = some user := by
  unfold findLogin at found
  simp only at found
  split at found
  · split at found
    · next byPhone =>
        obtain rfl := Except.ok.inj found
        exact find?_of_findByPhone byPhone
    · contradiction
  · split at found
    · split at found
      · next byEmail =>
          obtain rfl := Except.ok.inj found
          exact find?_of_findByEmail byEmail
      · contradiction
    · contradiction

theorem login_spec (config : AuthConfig) (crypto : Crypto)
    (environment : AuthEnvironment) (dto : LoginDto) (state : AuthState) :
    Steady state (run (login config crypto environment dto) state).2 ∧
      ∀ response after userId,
        run (login config crypto environment dto) state = (.ok response, after) →
          IssuedTo userId response → WithoutSecondFactor state userId := by
  unfold login
  rw [run_bind, run_reads]
  cases found : findLogin dto state with
  | error error => exact ⟨Steady.refl _, nofun⟩
  | ok user =>
      have present := find?_of_findLogin found
      simp only
      cases crypto.bcryptCompare dto.password
          (user.account.row .passwordHash) with
      | false => exact ⟨Steady.refl _, nofun⟩
      | true =>
          simp only [Bool.not_true, Bool.false_eq_true, if_false]
          refine ⟨?_, fun response after userId ran issued =>
            signIn_issues present ran issued⟩
          obtain ⟨response, after, ran, steady, _⟩ :=
            signIn_spec config crypto environment present
          rw [ran]
          exact steady

end Login

section Refresh

variable {refreshToken message : String} {token : RefreshToken}

/-- The token is stored under the hash of what is presented, its time is not
over and it is not revoked. -/
structure Presented (crypto : Crypto) (now : Int) (state : AuthState)
    (refreshToken : String) (token : RefreshToken) : Prop where
  stored : token ∈ state.refreshTokens.rows
  hash : token.tokenHash = crypto.hmac refreshToken
  unexpired : now ≤ token.expiresAt
  unrevoked : token.revoked = false

theorem checkRefreshToken_ok {now : Int} {found : Option RefreshToken}
    (passed : checkRefreshToken now message found = .ok token) :
    found = some token ∧ now ≤ token.expiresAt ∧ token.revoked = false := by
  cases found with
  | none => contradiction
  | some row =>
      simp only [checkRefreshToken] at passed
      split at passed
      · contradiction
      · next live =>
          split at passed
          · contradiction
          · next unrevoked =>
              obtain rfl := Except.ok.inj passed
              exact ⟨rfl, by omega, by simpa using unrevoked⟩

theorem presented_of_spend
    (spent : run (spend crypto environment refreshToken message) state =
      (.ok token, after)) :
    Presented crypto environment.now state refreshToken token := by
  unfold spend at spent
  obtain ⟨found, middle, checked, later⟩ := bind_ok spent
  obtain ⟨_, _, _, returned⟩ := bind_ok later
  obtain rfl := Except.ok.inj (Prod.mk.inj returned).1
  rw [run_reads] at checked
  have passed : checkRefreshToken environment.now message
      (state.findToken (crypto.hmac refreshToken)) = .ok found :=
    mapError_ok_iff.mp (Prod.mk.inj checked).1
  obtain ⟨stored, live, unrevoked⟩ := checkRefreshToken_ok passed
  exact ⟨List.mem_of_find?_eq_some stored, by simpa using List.find?_some stored,
    live, unrevoked⟩

theorem steady_spend (crypto : Crypto) (environment : AuthEnvironment)
    (refreshToken message : String) (state : AuthState) :
    Steady state
      (run (spend crypto environment refreshToken message) state).2 := by
  unfold spend
  refine Steady.bind (Steady.refl _) ?_
  intro token middle _
  exact Steady.bind (Steady.of_accounts rfl rfl)
    fun _ next _ => Steady.refl next

theorem steady_refresh (config : AuthConfig) (crypto : Crypto)
    (environment : AuthEnvironment) (refreshToken : String)
    (state : AuthState) :
    Steady state
      (run (refresh config crypto environment refreshToken) state).2 := by
  unfold refresh
  exact Steady.bind (steady_spend crypto environment _ _ state)
    fun token middle _ => steady_issueTokens config crypto environment _ middle

theorem steady_logout (crypto : Crypto) (environment : AuthEnvironment)
    (refreshToken : String) (state : AuthState) :
    Steady state (run (logout crypto environment refreshToken) state).2 := by
  unfold logout
  exact Steady.bind (steady_spend crypto environment _ _ state)
    fun _ next _ => Steady.refl next

theorem refresh_issues
    (ran : run (refresh config crypto environment refreshToken) state =
      (.ok response, after))
    (issued : IssuedTo userId response) :
    ∃ token, Presented crypto environment.now state refreshToken token ∧
      token.userId = userId := by
  unfold refresh at ran
  obtain ⟨token, middle, spent, later⟩ := bind_ok ran
  exact ⟨token, presented_of_spend spent,
    ((issuedTo_of_issueTokens later).unique issued)⟩

end Refresh

section Registration

variable {dto : CompleteRegistrationDto}

/-- The part of a registration that follows the check of its token. -/
theorem steady_create {row : User} (noHashes : storedHashes row = [])
    (state : AuthState) :
    Steady state (run (UsersService.create row) state).2 := by
  unfold UsersService.create
  rw [run_updates]
  split
  · next taken =>
      split at taken
      · contradiction
      · obtain ⟨_, rfl⟩ := Prod.mk.inj (Except.ok.inj taken)
        refine ⟨rfl, fun userId old found => ?_, fun userId new absent found => ?_⟩
        · have below := state.accounts.lt_of_find? found
          exact ⟨old, by simp [found, Nat.ne_of_lt below],
            Account.Quiet.refl _⟩
        · simp only [KeyedTable.find?_insert] at found
          split at found
          · obtain rfl := Option.some.inj found
            exact ⟨Account.coherent_of_empty rfl, noHashes⟩
          · rw [absent] at found
            contradiction
  · exact Steady.refl _

theorem create_ok {row : User} {userId : Nat}
    (created : run (UsersService.create row) state = (.ok userId, after)) :
    after.accounts.find? userId = some (UsersService.newAccount row userId) := by
  unfold UsersService.create at created
  rw [run_updates] at created
  split at created
  · next taken =>
      split at taken
      · contradiction
      · obtain ⟨rfl, rfl⟩ := Prod.mk.inj (Except.ok.inj taken)
        obtain ⟨same, rfl⟩ := Prod.mk.inj created
        obtain rfl := Except.ok.inj same
        simp
  · exact absurd (Prod.mk.inj created).1 (by simp)

theorem completeRegistration_spec (config : AuthConfig) (crypto : Crypto)
    (environment : AuthEnvironment) (dto : CompleteRegistrationDto)
    (state : AuthState) :
    Steady state
        (run (completeRegistration config crypto environment dto) state).2 ∧
      ∀ response after userId,
        run (completeRegistration config crypto environment dto) state =
            (.ok response, after) →
          IssuedTo userId response → WithoutSecondFactor after userId := by
  unfold completeRegistration
  constructor
  · refine Steady.bind (Steady.refl _) ?_
    intro payload middle _
    cases payload with
    | access | twoFactor => exact Steady.refl _
    | register phone =>
        refine Steady.bind (steady_create rfl _) ?_
        intro userId created _
        refine Steady.bind
          (steady_onAccount (quiet_addRole _ .renter)) ?_
        intro _ rented _
        exact Steady.bind
          (steady_onAccount (quiet_addRole _ .landlord))
          fun _ next _ => steady_issueTokens config crypto environment userId next
  · intro response after userId ran issued
    obtain ⟨payload, middle, verified, rest⟩ := bind_ok ran
    cases payload with
    | access | twoFactor => exact absurd (Prod.mk.inj rest).1 (by simp)
    | register phone =>
        obtain ⟨newId, created, ranCreate, rest⟩ := bind_ok rest
        obtain ⟨_, rented, ranRent, rest⟩ := bind_ok rest
        obtain ⟨_, leased, ranLease, ranIssue⟩ := bind_ok rest
        obtain rfl := (issuedTo_of_issueTokens ranIssue).unique issued
        have off : WithoutSecondFactor created newId :=
          ⟨_, create_ok ranCreate, rfl⟩
        have renting : Steady created rented := by
          rw [show rented = (run _ created).2 from (congrArg Prod.snd ranRent).symm]
          exact steady_onAccount (quiet_addRole _ .renter)
        have leasing : Steady rented leased := by
          rw [show leased = (run _ rented).2 from (congrArg Prod.snd ranLease).symm]
          exact steady_onAccount (quiet_addRole _ .landlord)
        have issuing : Steady leased after := by
          have steady := steady_issueTokens config crypto environment newId leased
          rwa [ranIssue] at steady
        exact off.steady ((renting.trans leasing).trans issuing)

end Registration

end AuthService

end SpareSpace
