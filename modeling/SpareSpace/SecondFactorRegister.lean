import SpareSpace.AccountObservations
import SpareSpace.SecretEnvelope
import SpareSpace.ServiceTraces

/-!
# The register of second factors

Of a user's second factor the server knows the secret generated last, until it is confirmed,
and the secret that codes are checked against.  Both are determined by the generations,
confirmations and removals that requests have carried out: no other request changes them, not
even one that saves a user who was loaded from the cache, and storing the secret encrypted
loses nothing.
-/

namespace SpareSpace

open ColumnRecords Fallible RedisService ServiceTraces

/-- What is known of the second factor of a user. -/
structure FactorRecord where
  /-- The secret generated last, if it has not been confirmed. -/
  pending : Cached String
  enabled : Bool
  /-- The secret that codes are checked against. -/
  secret : Option String
  deriving DecidableEq

namespace FactorRecord

/-- There is a secret exactly while the second factor is on. -/
def Consistent (record : FactorRecord) : Prop :=
  record.enabled = record.secret.isSome

/-- The secret that a code is checked against when the second factor is switched on. -/
def offered (record : FactorRecord) (now : Int) : Option String :=
  (get now record.pending).filter fun secret => secret != ""

/-- The code confirms the secret generated last. -/
def confirms (record : FactorRecord) (crypto : Crypto) (now : Int) (code : String) : Bool :=
  !record.enabled && (record.offered now).any fun secret => crypto.totpVerify code secret now

def accepts (record : FactorRecord) (crypto : Crypto) (now : Int) (code : String) : Bool :=
  record.enabled && record.secret.any fun secret => crypto.totpVerify code secret now

end FactorRecord

/-- What requests do to the second factor of a user. -/
inductive FactorChange
  | generated (now : Int) (secret : String)
  | enabled
  | disabled
  deriving DecidableEq

namespace FactorChange

/-- A confirmation makes the pending secret the one that codes are checked against. -/
def change (record : FactorRecord) : FactorChange → FactorRecord
  | generated now secret =>
      { record with pending := entry now TwoFactorService.tempSecretTtlSec secret }
  | enabled =>
      match record.pending with
      | some pending => ⟨none, true, some pending.value⟩
      | none => record
  | disabled => { record with enabled := false, secret := none }

variable {record : FactorRecord}

theorem consistent_change (consistent : record.Consistent) (event : FactorChange) :
    (change record event).Consistent := by
  cases event with
  | generated now secret => exact consistent
  | disabled => rfl
  | enabled =>
      unfold change
      cases record.pending with
      | none => exact consistent
      | some pending => rfl

theorem consistent_foldl (consistent : record.Consistent) (events : List FactorChange) :
    (events.foldl change record).Consistent := by
  induction events generalizing record with
  | nil => exact consistent
  | cons event rest ih =>
      apply ih
      apply consistent_change consistent

end FactorChange

section Accounts

variable (crypto : Crypto)

def Account.factor (account : Account) : FactorRecord where
  pending := account.tempSecret
  enabled := account.row .twoFaEnabled
  secret := ((account.row .twoFaSecret).filter fun stored => stored != "").bind crypto.decrypt

/-- A second factor is set by what sets its two columns. -/
def Observation.secondFactor : Observation FactorRecord where
  of := Account.factor crypto
  newcomer := ⟨none, false, none⟩
  Spares patch := patch .twoFaEnabled = none ∧ patch .twoFaSecret = none
  of_caches _ _ _ _ := rfl
  of_new _ _ _ _ _ _ _ := rfl
  of_role _ _ _ := rfl
  of_update account after patch spares columns _ tempSecret := by
    have enabled := columns .twoFaEnabled rfl
    have secret := columns .twoFaSecret rfl
    rw [assign_of_none spares.1] at enabled
    rw [assign_of_none spares.2] at secret
    simp only [Account.factor, enabled, secret, tempSecret]
  spares_profile _ := ⟨rfl, rfl⟩
  spares_hashes _ := ⟨rfl, rfl⟩

/-- A call carries a change out where it is allowed, and elsewhere throws and leaves the
second factor as it is. -/
def CarriesOut {α : Type} (call : AccountCall α) (event : FactorChange) (account : Account)
    (allowed : Prop) : Prop :=
  ¬ allowed ∧ (∃ error, (run call account).1 = .error error) ∧
      (run call account).2.factor crypto = account.factor crypto ∨
    allowed ∧ (∃ value, (run call account).1 = .ok value) ∧
      (run call account).2.factor crypto = FactorChange.change (account.factor crypto) event

variable {crypto} {environment : UserEnvironment} {userId : Nat} {account after : Account}

namespace TwoFactorService

open UsersService

/-- A quiet call that leaves the temporary secret leaves the second factor. -/
theorem factor_of_quiet (quiet : account.Quiet after)
    (tempSecret : after.tempSecret = account.tempSecret) :
    after.factor crypto = account.factor crypto := by
  simp only [Account.factor, quiet.row, tempSecret]

theorem enabled_of_loads {user : PartialUser} (loads : Loads account user after)
    (sound : account.Sound) : enabled user = (account.factor crypto).enabled := by
  unfold enabled
  rw [loads.profile sound.coherent .twoFaEnabled rfl]
  rfl

/-- A secret is generated while the second factor is off. -/
theorem carriesOut_generateSecret (sound : account.Sound) (draws : Draws) :
    CarriesOut crypto (generateSecret environment userId draws)
      (.generated environment.now draws.secret) account
      ((account.factor crypto).enabled = false) := by
  obtain ⟨user, loaded, found, loads⟩ := findById_spec environment userId account
  have same := @factor_of_quiet crypto _ _ loads.quiet loads.tempSecret
  unfold CarriesOut generateSecret
  rw [run_bind_ok found, @enabled_of_loads crypto _ _ _ loads sound]
  cases (account.factor crypto).enabled with
  | true => exact Or.inl ⟨Bool.true_eq_false_eq_False, ⟨_, rfl⟩, same⟩
  | false =>
      apply Or.inr
      refine ⟨rfl, ⟨_, rfl⟩, ?_⟩
      rw [← same]
      rfl

/-- The secret of a code that confirms it is stored, and read back as it was. -/
theorem factor_of_enabled (recovers : crypto.Recovers) {loaded switched stored : Account}
    {iv tempSecret : String} {hashes : List String} {now : Int} (coherent : loaded.Coherent)
    (offered : (loaded.factor crypto).offered now = some tempSecret)
    (switches : Wrote loaded (enabledWith (crypto.encrypt iv tempSecret)) switched)
    (stores : Wrote switched (withHashes hashes) stored) :
    ({ stored with tempSecret := none } : Account).factor crypto =
      FactorChange.change (loaded.factor crypto) .enabled := by
  have on : stored.row .twoFaEnabled = true := by
    rw [stores.profile switches.coherent .twoFaEnabled rfl]
    exact switches.profile coherent .twoFaEnabled rfl
  have kept : stored.row .twoFaSecret = some (crypto.encrypt iv tempSecret) := by
    rw [stores.profile switches.coherent .twoFaSecret rfl]
    exact switches.profile coherent .twoFaSecret rfl
  obtain ⟨nonempty, decrypted⟩ := recovers iv tempSecret
  have live := (Option.filter_eq_some_iff.mp offered).1
  obtain ⟨expiresAt, pending, -⟩ := eq_of_get live
  unfold FactorChange.change
  rw [pending]
  simp [Account.factor, on, kept, Option.filter, nonempty, decrypted]

/-- A code that confirms the pending secret switches the second factor on. -/
theorem carriesOut_enableTwoFactor (recovers : crypto.Recovers) (sound : account.Sound)
    (draws : Draws) (code : String) :
    CarriesOut crypto (enableTwoFactor crypto environment userId draws code) .enabled account
      ((account.factor crypto).confirms crypto environment.now code = true) := by
  obtain ⟨user, loaded, found, loads⟩ := findById_spec environment userId account
  have same := @factor_of_quiet crypto _ _ loads.quiet loads.tempSecret
  unfold CarriesOut FactorRecord.confirms enableTwoFactor
  rw [run_bind_ok found, @enabled_of_loads crypto _ _ _ loads sound]
  rw [← same]
  cases (loaded.factor crypto).enabled with
  | true => exact Or.inl ⟨Bool.false_ne_true, ⟨_, rfl⟩, rfl⟩
  | false =>
      simp only [Bool.false_eq_true, if_false, Bool.not_false, Bool.true_and]
      rw [run_bind, run_reads]
      cases offered : (loaded.factor crypto).offered environment.now with
      | none =>
          have absent : (get environment.now loaded.tempSecret).filter
              (fun secret => secret != "") = none := offered
          simp only [absent]
          exact Or.inl ⟨Bool.false_ne_true, ⟨_, rfl⟩, rfl⟩
      | some tempSecret =>
          have present : (get environment.now loaded.tempSecret).filter
              (fun secret => secret != "") = some tempSecret := offered
          simp only [present, Option.any_some]
          cases crypto.totpVerify code tempSecret environment.now with
          | false => exact Or.inl ⟨Bool.false_ne_true, ⟨_, rfl⟩, rfl⟩
          | true =>
              simp only [Bool.not_true, Bool.false_eq_true, if_false]
              obtain ⟨_, switched, ranSwitch, wroteSwitch⟩ :=
                update_spec (noUnique_enabledWith (crypto.encrypt draws.iv tempSecret))
                  environment userId loaded
              obtain ⟨_, stored, ranStore, wroteStore⟩ :=
                update_spec (noUnique_withHashes (draws.hashes crypto)) environment userId
                  switched
              have ranGenerate :
                  run (generateAndStoreRecoveryCodes crypto environment userId draws)
                    switched = (.ok draws.codes, stored) := by
                unfold generateAndStoreRecoveryCodes
                rw [run_bind_ok ranStore]
                rfl
              rw [run_bind_ok ranSwitch, run_bind_ok ranGenerate]
              apply Or.inr
              refine ⟨trivial, ⟨_, rfl⟩, ?_⟩
              have current := loads.quiet.coherent sound.coherent
              exact factor_of_enabled recovers current offered wroteSwitch wroteStore

/-- Switching the second factor off forgets its secret. -/
theorem carriesOut_disableTwoFactor (sound : account.Sound) (code : Option String) :
    ∃ allowed, CarriesOut crypto (disableTwoFactor crypto environment userId code) .disabled
      account allowed := by
  obtain ⟨user, loaded, found, loads⟩ := findById_spec environment userId account
  have same := @factor_of_quiet crypto _ _ loads.quiet loads.tempSecret
  have loadedSound := (@kept_findById _ .nothing environment userId account sound).1
  rw [found] at loadedSound
  unfold CarriesOut disableTwoFactor
  rw [run_bind_ok found]
  cases enabled user with
  | false => exact ⟨False, Or.inl ⟨not_false, ⟨_, rfl⟩, same⟩⟩
  | true =>
      simp only [Bool.not_true, Bool.false_eq_true, if_false]
      obtain ⟨checkedSound, checkedSame⟩ :=
        @kept_checkDisabling _ (.secondFactor crypto) crypto environment userId code loaded
          loadedSound
      rcases ran : run (checkDisabling crypto environment userId code) loaded
        with ⟨result, checked⟩
      rw [ran] at checkedSound checkedSame
      cases result with
      | error error =>
          rw [run_bind, ran]
          exact ⟨False, Or.inl ⟨not_false, ⟨error, rfl⟩, checkedSame.trans same⟩⟩
      | ok =>
          obtain ⟨_, after, updated, wrote⟩ :=
            update_spec noUnique_cleared environment userId checked
          rw [run_bind_ok ran, run_bind_ok updated]
          refine ⟨True, Or.inr ⟨trivial, ⟨_, rfl⟩, ?_⟩⟩
          have pending : after.tempSecret = account.tempSecret :=
            wrote.tempSecret.trans
              (congrArg FactorRecord.pending (checkedSame.trans same))
          have off : after.row .twoFaEnabled = false :=
            wrote.profile checkedSound.coherent .twoFaEnabled rfl
          have removed : after.row .twoFaSecret = none :=
            wrote.profile checkedSound.coherent .twoFaSecret rfl
          simp only [run_pure, Account.factor, pending, off, removed, FactorChange.change]
          rfl

/-- A code is valid exactly when it is one for the secret. -/
theorem validateTwoFactorCode_factor (sound : account.Sound) (code : String) :
    (run (validateTwoFactorCode crypto environment userId code) account).1 =
      .ok ((account.factor crypto).accepts crypto environment.now code) := by
  obtain ⟨user, loaded, found, loads⟩ := findById_spec environment userId account
  have held := loads.profile sound.coherent .twoFaSecret rfl
  unfold validateTwoFactorCode
  rw [run_bind_ok found, @enabled_of_loads crypto _ _ _ loads sound, run_pure]
  unfold FactorRecord.accepts
  unfold acceptsTotp storedSecret Account.factor
  rw [held, Option.join_some]
  cases (account.row .twoFaSecret).filter fun secret => secret != "" with
  | none => rfl
  | some stored =>
      simp only [Option.bind_some]
      cases crypto.decrypt stored <;> rfl

end TwoFactorService

end Accounts

/-- What a request of the second factor does when it is answered. -/
def TwoFactorRequest.event (environment : AuthEnvironment) : TwoFactorRequest → FactorChange
  | generate => .generated environment.now environment.draws.secret
  | enable _ => .enabled
  | disable _ => .disabled

/-- The service answers the request. -/
def AuthRequest.Answers (config : AuthConfig) (crypto : Crypto) (state : AuthState)
    (environment : AuthEnvironment) (request : AuthRequest) : Prop :=
  ∃ response, (run (request.serve config crypto environment) state).1 = .ok response

namespace ApiRequest

/-- What an answered request has done to the second factor of a user. -/
def factorChange (userId : Nat) (request : AuthEnvironment × ApiRequest) :
    Except ApiException ApiResponse → Option FactorChange
  | .error _ => none
  | .ok _ =>
      match request.2 with
      | .twoFactor bearer change =>
          if bearer.accessUser = some userId then some (change.event request.1) else none
      | _ => none

def factorChanges (config : AuthConfig) (crypto : Crypto) (userId : Nat) :
    AuthState → List (AuthEnvironment × ApiRequest) → List FactorChange :=
  noted (serve config crypto) (factorChange userId)

end ApiRequest

namespace AuthState

open TwoFactorService UsersService ApiRequest

variable {config : AuthConfig} {crypto : Crypto} {environment : AuthEnvironment}
  {state : AuthState} {userId : Nat}

def factor (crypto : Crypto) (state : AuthState) (userId : Nat) : FactorRecord :=
  (Observation.secondFactor crypto).ofUser state userId

theorem factor_of_find? {user : UserAccount}
    (found : state.accounts.find? userId = some user) :
    state.factor crypto userId = user.account.factor crypto :=
  Observation.ofUser_of_find? found

theorem factor_save (account : Account) :
    ({ state with accounts := state.accounts.save ⟨userId, account⟩ } : AuthState).factor
        crypto userId = account.factor crypto := by
  unfold factor
  rw [Observation.ofUser_save, Function.update_self]
  rfl

/-- A request that is a call on one account, for a user who is there. -/
theorem serve_onAccount {α : Type} {missing : HttpException} {call : AccountCall α}
    {answer : α → AuthResponse} {request : AuthRequest}
    (served : request.serve config crypto environment = (do
      let value ← onAccount userId missing call
      return answer value))
    {user : UserAccount} (found : state.accounts.find? userId = some user) :
    run (request.serve config crypto environment) state =
      (((run call user.account).1.mapError AuthException.http).map answer,
        { state with accounts :=
          state.accounts.save ⟨userId, (run call user.account).2⟩ }) := by
  rw [served, run_bind, run_onAccount_some found]
  cases (run call user.account).1 <;> rfl

theorem serve_onAccount_none {α : Type} {missing : HttpException} {call : AccountCall α}
    {answer : α → AuthResponse} {request : AuthRequest}
    (served : request.serve config crypto environment = (do
      let value ← onAccount userId missing call
      return answer value))
    (absent : state.accounts.find? userId = none) :
    run (request.serve config crypto environment) state = (.error (.http missing), state) := by
  rw [served, run_bind, run_onAccount_none absent]

/-- A call makes a change of a second factor when it returns, and otherwise leaves it. -/
def Makes {ε α : Type} (crypto : Crypto) (userId : Nat) (event : FactorChange)
    (call : Fallible ε AuthState α) (state : AuthState) : Prop :=
  (run call state).2.factor crypto userId =
    match (run call state).1 with
    | .error _ => state.factor crypto userId
    | .ok _ => FactorChange.change (state.factor crypto userId) event

/-- What is known of the second factor of a user changes by what the answer tells. -/
def FollowsAnswer (config : AuthConfig) (crypto : Crypto) (state : AuthState) (userId : Nat)
    (request : AuthEnvironment × ApiRequest) : Prop :=
  (serve config crypto state request).2.factor crypto userId =
    (factorChange userId request (serve config crypto state request).1).elim
      (state.factor crypto userId) (FactorChange.change (state.factor crypto userId))

/-- A request that carries a change out for a user is answered where this is allowed, and
makes the change when it is answered. -/
theorem serve_carriesOut {α : Type} {missing : HttpException} {call : AccountCall α}
    {answer : α → AuthResponse} {request : AuthRequest} {event : FactorChange}
    {allowed : UserAccount → Prop}
    (served : request.serve config crypto environment = (do
      let value ← onAccount userId missing call
      return answer value))
    (carries : ∀ user : UserAccount, user.account.Sound →
      CarriesOut crypto call event user.account (allowed user))
    (sound : state.Sound) :
    (request.Answers config crypto state environment ↔
        ∃ user, state.accounts.find? userId = some user ∧ allowed user) ∧
      Makes crypto userId event (request.serve config crypto environment) state := by
  unfold AuthRequest.Answers Makes
  cases found : state.accounts.find? userId with
  | none =>
      rw [serve_onAccount_none served found]
      constructor
      · constructor
        · rintro ⟨response, answered⟩
          contradiction
        · rintro ⟨user, present, -⟩
          contradiction
      · rfl
  | some user =>
      rw [serve_onAccount served found, factor_save, factor_of_find? found]
      have outcome := carries user (sound userId user found)
      unfold CarriesOut at outcome
      rcases outcome with ⟨refused, ⟨error, threw⟩, same⟩ | ⟨granted, ⟨value, returned⟩, changed⟩
      · rw [threw, same]
        constructor
        · constructor
          · rintro ⟨response, answered⟩
            contradiction
          · rintro ⟨other, present, holds⟩
            obtain rfl := Option.some.inj present
            exact absurd holds refused
        · rfl
      · rw [returned, changed]
        constructor
        · exact iff_of_true ⟨_, rfl⟩ ⟨user, rfl, granted⟩
        · rfl

/-- What is asked of a user who is there is asked of what is known of the second factor. -/
theorem exists_factor_iff {holds : FactorRecord → Prop} :
    (∃ user, state.accounts.find? userId = some user ∧ holds (user.account.factor crypto)) ↔
      (state.accounts.find? userId).isSome = true ∧ holds (state.factor crypto userId) := by
  constructor
  · rintro ⟨user, found, held⟩
    rw [factor_of_find? found, found]
    exact ⟨rfl, held⟩
  · rintro ⟨there, held⟩
    obtain ⟨user, found⟩ := Option.isSome_iff_exists.mp there
    rw [factor_of_find? found] at held
    exact ⟨user, found, held⟩

section Requests

variable (config) (environment) (userId)

theorem serve_generateSecret (sound : state.Sound) :
    (AuthRequest.Answers config crypto state environment (.generateSecret userId) ↔
        (state.accounts.find? userId).isSome = true ∧
          (state.factor crypto userId).enabled = false) ∧
      Makes crypto userId (.generated environment.now environment.draws.secret)
        (AuthRequest.serve config crypto environment (.generateSecret userId)) state := by
  rw [← @exists_factor_iff crypto state userId fun record => record.enabled = false]
  apply serve_carriesOut rfl
  · exact fun user sound => carriesOut_generateSecret sound environment.draws
  · exact sound

theorem serve_enableTwoFactor (recovers : crypto.Recovers) (sound : state.Sound)
    (code : String) :
    (AuthRequest.Answers config crypto state environment (.enableTwoFactor userId code) ↔
        (state.accounts.find? userId).isSome = true ∧
          (state.factor crypto userId).confirms crypto environment.now code = true) ∧
      Makes crypto userId .enabled
        (AuthRequest.serve config crypto environment (.enableTwoFactor userId code)) state := by
  rw [← @exists_factor_iff crypto state userId fun record =>
    record.confirms crypto environment.now code = true]
  apply serve_carriesOut rfl
  · exact fun user sound => carriesOut_enableTwoFactor recovers sound environment.draws code
  · exact sound

theorem serve_disableTwoFactor (sound : state.Sound) (code : Option String) :
    Makes crypto userId .disabled
      (AuthRequest.serve config crypto environment (.disableTwoFactor userId code)) state := by
  have carries (user : UserAccount) : ∃ allowed, user.account.Sound →
      CarriesOut crypto
        (disableTwoFactor crypto environment.toUserEnvironment userId code) .disabled
        user.account allowed := by
    by_cases sound : user.account.Sound
    · obtain ⟨allowed, carried⟩ := @carriesOut_disableTwoFactor crypto
        environment.toUserEnvironment userId user.account sound code
      exact ⟨allowed, fun _ => carried⟩
    · exact ⟨False, fun holds => absurd holds sound⟩
  obtain ⟨allowed, carries⟩ := Classical.axiomOfChoice carries
  have served := @serve_carriesOut config crypto environment state userId _ _ _ _
    (.disableTwoFactor userId code) .disabled allowed rfl carries sound
  exact served.2

/-- For the user of the token the service makes the change that the request asks for. -/
theorem makes_onUser (recovers : crypto.Recovers) (sound : state.Sound)
    (request : TwoFactorRequest) :
    Makes crypto userId (request.event environment)
      ((request.onUser userId).serve config crypto environment) state := by
  cases request with
  | generate => exact (serve_generateSecret config environment userId sound).2
  | enable code => exact (serve_enableTwoFactor config environment userId recovers sound code).2
  | disable code => exact serve_disableTwoFactor config environment userId sound code

/-- A request of the second factor is turned away by the guard, or served for the user whom
its token names; the guard leaves the second factors as they are. -/
theorem serve_twoFactor_cases (sound : state.Sound) {bearer : Jwt}
    (named : bearer.accessUser = some userId) (request : TwoFactorRequest) :
    (∃ error next, serve config crypto state (environment, .twoFactor bearer request) =
        (.error error, next) ∧ next.factor crypto userId = state.factor crypto userId) ∨
      ∃ next : AuthState, next.Sound ∧ next.factor crypto userId = state.factor crypto userId ∧
        serve config crypto state (environment, .twoFactor bearer request) =
          (((run ((request.onUser userId).serve config crypto environment) next).1.mapError
              ApiException.auth).map ApiResponse.auth,
            (run ((request.onUser userId).serve config crypto environment) next).2) := by
  have guarded := @JwtAuthGuard.keptAt_canActivate _ (.secondFactor crypto) userId
    environment.toUserEnvironment bearer state sound
  unfold serve ApiRequest.call TwoFactorController.change
  rw [run_bind, run_bind]
  rcases ran : run (JwtAuthGuard.canActivate environment.toUserEnvironment bearer) state with
    ⟨error | ⟨other, roles⟩, next⟩
  · rw [ran] at guarded
    exact Or.inl ⟨error, next, rfl, guarded.2⟩
  · rw [ran] at guarded
    obtain rfl : userId = other :=
      Option.some.inj (named.symm.trans (JwtAuthGuard.accessUser_of_canActivate ran))
    refine Or.inr ⟨next, guarded.1, guarded.2, ?_⟩
    simp only [run_adapt]
    cases (run ((request.onUser userId).serve config crypto environment) next).1 <;> rfl

/-- Every request keeps the caches in agreement with the rows, and changes a second factor
only by what its answer tells. -/
theorem serve_factor (recovers : crypto.Recovers) (sound : state.Sound)
    (request : AuthEnvironment × ApiRequest) :
    (serve config crypto state request).2.Sound ∧
      FollowsAnswer config crypto state userId request := by
  obtain ⟨environment, request⟩ := request
  have kept : (serve config crypto state (environment, request)).2.Sound := by
    have spares := Observation.nothing_spares userId request
    exact (keptAt_call spares config crypto environment state sound).1
  apply And.intro kept
  have spared (spares : (Observation.secondFactor crypto).SparesRequest userId request)
      (silent : ∀ response, factorChange userId (environment, request) (.ok response) = none) :
      FollowsAnswer config crypto state userId (environment, request) := by
    have same := (keptAt_call spares config crypto environment state sound).2
    unfold FollowsAnswer
    cases (serve config crypto state (environment, request)).1 with
    | error error => exact same
    | ok response =>
        rw [silent]
        exact same
  cases request with
  | twoFactor bearer request =>
      by_cases named : bearer.accessUser = some userId
      · unfold FollowsAnswer
        rcases serve_twoFactor_cases config environment userId sound named request with
          ⟨error, next, threw, same⟩ | ⟨next, nextSound, same, served⟩
        · rw [threw]
          exact same
        · have makes := makes_onUser config environment userId recovers nextSound request
          unfold Makes at makes
          rw [served, makes, same]
          cases (run ((request.onUser userId).serve config crypto environment) next).1 with
          | error error => rfl
          | ok response =>
              simp only [Except.mapError, Except.map, factorChange, if_pos named,
                Option.elim_some]
      · apply spared
        · intro other asked
          have differs : other ≠ userId := fun itself => named (itself ▸ asked)
          cases request with
          | generate | enable | disable => exact fun itself => absurd itself differs
        · exact fun _ => if_neg named
  | updateBanStatus | updateVerifiedStatus => exact spared (fun _ => ⟨rfl, rfl⟩) fun _ => rfl
  | _ => exact spared trivial fun _ => rfl

end Requests

/-- A code of six characters is checked against the secret. -/
theorem run_validateCode_six (sound : state.Sound) {user : UserAccount}
    (found : state.accounts.find? userId = some user) {code : String}
    (six : utf16Length code = 6) :
    ∃ next : AuthState, (next.accounts.find? userId).isSome = true ∧
      run (AuthService.validateCode crypto environment userId code) state =
        (.ok ((state.factor crypto userId).accepts crypto environment.now code), next) := by
  have checked := @validateTwoFactorCode_factor crypto environment.toUserEnvironment userId
    user.account (sound userId user found) code
  unfold AuthService.validateCode
  rw [if_pos six, run_onAccount_some found, checked, factor_of_find? found]
  refine ⟨_, ?_, rfl⟩
  rw [KeyedTable.find?_save, if_pos rfl]
  rfl

/-- The token for the second factor, with a code for the secret, is exchanged for tokens. -/
theorem answers_verifyTwoFactor (sound : state.Sound) {token : Jwt}
    (payload : token.payload = .twoFactor userId) {code : String}
    (six : utf16Length code = 6) :
    AuthRequest.Answers config crypto state environment (.verifyTwoFactor token code) ↔
      token ∈ state.signed ∧ JwtService.unexpired environment.now token = true ∧
        (state.accounts.find? userId).isSome = true ∧
          (state.factor crypto userId).accepts crypto environment.now code = true := by
  rw [AuthRequest.Answers, AuthRequest.serve, AuthService.verifyTwoFactor, run_bind,
    JwtService.verify, run_reads]
  by_cases valid : state.signed.contains token && JwtService.unexpired environment.now token
  · rw [if_pos valid, payload]
    rw [Bool.and_eq_true, List.contains_iff_mem] at valid
    simp only [valid.1, valid.2, true_and, run_bind]
    cases found : state.accounts.find? userId with
    | none =>
        rw [AuthService.validateCode, if_pos six, run_onAccount_none found]
        constructor
        · rintro ⟨response, answered⟩
          contradiction
        · rintro ⟨absent, -⟩
          contradiction
    | some user =>
        obtain ⟨next, there, checked⟩ := @run_validateCode_six crypto environment state userId
          sound user found code six
        rw [checked]
        cases (state.factor crypto userId).accepts crypto environment.now code with
        | false =>
            constructor
            · rintro ⟨response, answered⟩
              contradiction
            · rintro ⟨-, accepted⟩
              contradiction
        | true =>
            obtain ⟨holder, present⟩ := Option.isSome_iff_exists.mp there
            obtain ⟨response, last, issued, -⟩ :=
              AuthService.issueTokens_spec config crypto environment present
            simp only [Bool.not_true, Bool.false_eq_true, if_false, issued]
            exact iff_of_true ⟨response, rfl⟩ ⟨rfl, trivial⟩
  · rw [if_neg valid]
    rw [Bool.and_eq_true, List.contains_iff_mem, not_and] at valid
    constructor
    · rintro ⟨response, answered⟩
      contradiction
    · rintro ⟨signed, unexpired, -⟩
      exact absurd unexpired (valid signed)

/-- While the second factor is on, only its removal changes it. -/
theorem factorChange_while_on (recovers : crypto.Recovers) (sound : state.Sound)
    (on : (state.factor crypto userId).enabled = true)
    {request : AuthEnvironment × ApiRequest} {event : FactorChange}
    (carried : factorChange userId request (serve config crypto state request).1 = some event) :
    event = .disabled := by
  obtain ⟨environment, request⟩ := request
  cases ran : (serve config crypto state (environment, request)).1 with
  | error error =>
      rw [ran] at carried
      contradiction
  | ok response =>
      rw [ran] at carried
      cases request with
      | twoFactor bearer request =>
          obtain ⟨named, asked⟩ := Option.ite_none_right_eq_some.mp carried
          obtain rfl := Option.some.inj asked
          rcases serve_twoFactor_cases config environment userId sound named request with
            ⟨error, next, threw, -⟩ | ⟨next, nextSound, same, served⟩
          · rw [threw] at ran
            contradiction
          rw [served] at ran
          have answered :
              (request.onUser userId).Answers config crypto next environment := by
            unfold AuthRequest.Answers
            cases answer :
                (run ((request.onUser userId).serve config crypto environment) next).1 with
            | error error =>
                rw [answer] at ran
                contradiction
            | ok value => exact ⟨value, rfl⟩
          cases request with
          | generate =>
              obtain ⟨-, off⟩ :=
                (serve_generateSecret config environment userId nextSound).1.mp answered
              rw [same, on] at off
              contradiction
          | enable code =>
              obtain ⟨-, confirmed⟩ :=
                (serve_enableTwoFactor config environment userId recovers nextSound code).1.mp
                  answered
              unfold FactorRecord.confirms at confirmed
              rw [same, on] at confirmed
              contradiction
          | disable code => rfl
      | _ => contradiction

end AuthState

section Runs

open ApiRequest AuthState

variable {config : AuthConfig} {crypto : Crypto} {state : AuthState} {userId : Nat}

theorem after_factor (recovers : crypto.Recovers) (sound : state.Sound)
    (requests : List (AuthEnvironment × ApiRequest)) :
    (after (serve config crypto) state requests).Sound ∧
      (after (serve config crypto) state requests).factor crypto userId =
        (factorChanges config crypto userId state requests).foldl FactorChange.change
          (state.factor crypto userId) := by
  apply @view_after _ _ _ _ _ _ (factorChange userId) AuthState.Sound
    (fun state => state.factor crypto userId)
  · intro state request sound
    exact @serve_factor config crypto state userId recovers sound request
  · exact sound

/-- After every list of requests, what is known of a user's second factor is what the
generations, confirmations and removals carried out for the user make of it, one after the
other; there is a secret exactly while it is on.  A further secret is generated exactly while
the second factor is off, a code switches it on exactly when it is one for the secret
generated last, in time, and the second step of a login accepts exactly the codes for the
secret that was confirmed. -/
theorem second_factor_register {library : Crypto} {cipher : GcmCipher}
    {ivOf : String → InitVector} (sealing : library.sealing cipher ivOf = crypto)
    (sound : state.Sound) (consistent : (state.factor crypto userId).Consistent)
    (requests : List (AuthEnvironment × ApiRequest)) {last : AuthState}
    (reached : after (serve config crypto) state requests = last) :
    last.factor crypto userId =
        (factorChanges config crypto userId state requests).foldl FactorChange.change
          (state.factor crypto userId) ∧
      (last.factor crypto userId).Consistent ∧
      ∀ environment code,
        (AuthRequest.Answers config crypto last environment (.generateSecret userId) ↔
          (last.accounts.find? userId).isSome = true ∧
            (last.factor crypto userId).enabled = false) ∧
        (AuthRequest.Answers config crypto last environment (.enableTwoFactor userId code) ↔
          (last.accounts.find? userId).isSome = true ∧
            (last.factor crypto userId).confirms library environment.now code = true) ∧
        ∀ token, token.payload = .twoFactor userId → utf16Length code = 6 →
          (AuthRequest.Answers config crypto last environment (.verifyTwoFactor token code) ↔
            token ∈ last.signed ∧ JwtService.unexpired environment.now token = true ∧
              (last.accounts.find? userId).isSome = true ∧
                (last.factor crypto userId).accepts library environment.now code = true) := by
  have recovers : crypto.Recovers := sealing ▸ library.sealing_recovers cipher ivOf
  obtain ⟨lastSound, register⟩ :=
    @after_factor config crypto state userId recovers sound requests
  rw [reached] at lastSound register
  refine ⟨register, ?_, fun environment code => ⟨?_, ?_, fun token payload six => ?_⟩⟩
  · rw [register]
    exact FactorChange.consistent_foldl consistent _
  · exact (serve_generateSecret config environment userId lastSound).1
  · rw [(serve_enableTwoFactor config environment userId recovers lastSound code).1]
    subst sealing
    rfl
  · rw [answers_verifyTwoFactor lastSound payload six]
    subst sealing
    rfl

/-- A second factor that is on is what it was after every list of requests in which it is
not removed. -/
theorem second_factor_stays {library : Crypto} {cipher : GcmCipher}
    {ivOf : String → InitVector} (sealing : library.sealing cipher ivOf = crypto)
    (sound : state.Sound) (on : (state.factor crypto userId).enabled = true)
    {requests : List (AuthEnvironment × ApiRequest)}
    (kept : .disabled ∉ factorChanges config crypto userId state requests) :
    (after (serve config crypto) state requests).factor crypto userId =
      state.factor crypto userId := by
  have recovers : crypto.Recovers := sealing ▸ library.sealing_recovers cipher ivOf
  induction requests generalizing state with
  | nil => rfl
  | cons request rest ih =>
      obtain ⟨nextSound, follows⟩ :=
        @serve_factor config crypto state userId recovers sound request
      unfold factorChanges noted at kept
      rw [List.mem_append, not_or] at kept
      have silent : factorChange userId request (serve config crypto state request).1 = none := by
        rw [Option.eq_none_iff_forall_ne_some]
        intro event carried
        apply kept.1
        rw [Option.mem_toList, carried, factorChange_while_on recovers sound on carried]
      have same : (serve config crypto state request).2.factor crypto userId =
          state.factor crypto userId := by
        rw [follows, silent]
        rfl
      have still := ih nextSound (same.symm ▸ on) kept.2
      exact still.trans same

end Runs

section Samples

open ApiRequest

private def sealedPlainly : Crypto :=
  Crypto.plain.sealing .plain fun _ => ⟨List.replicate 12 0, rfl⟩

private def enrolling (userId : Nat) : UserAccount :=
  let created := UsersService.newAccount
    (UsersService.newRow "+79001234567" "password" "Anna" "Petrova" none 0) userId
  { created with account := { created.account with roles := [.renter] } }

private theorem enrolling_id (userId : Nat) : (enrolling userId).id = userId :=
  rfl

private def enrollingToken : Jwt :=
  ⟨.access 1 [.renter], 900⟩

/-- A user without a second factor, who is logged in. -/
private def enrollingStart : AuthState where
  accounts := KeyedTable.empty.insert enrolling enrolling_id
  refreshTokens := .empty
  flashCalls _ := none
  signed := [enrollingToken]

private theorem enrollingStart_sound : enrollingStart.Sound := by
  intro userId user found
  have present := enrollingStart.accounts.mem_of_find? found
  simp only [enrollingStart, KeyedTable.mem_insert_iff] at present
  rcases present with absent | rfl
  · exact absurd absent List.not_mem_nil
  · exact Account.sound_of_empty rfl rfl

private def enrollingRequest (request : TwoFactorRequest) : AuthEnvironment × ApiRequest :=
  (AuthEnvironment.plain 0 .failed, .twoFactor enrollingToken request)

/-- The user has a secret generated and confirms it. -/
theorem second_factor_register_sample :
    ∃ last : AuthState,
      after (serve ⟨30, 900, false⟩ sealedPlainly) enrollingStart
        [enrollingRequest .generate, enrollingRequest (.enable "secret")] = last ∧
      last.factor sealedPlainly 1 = ⟨none, true, some "secret"⟩ := by
  obtain ⟨register, -⟩ :=
    @second_factor_register ⟨30, 900, false⟩ sealedPlainly enrollingStart 1 .plain .plain _ rfl
      enrollingStart_sound rfl [enrollingRequest .generate, enrollingRequest (.enable "secret")]
      _ rfl
  exact ⟨_, rfl, register.trans rfl⟩

private def enrolled : AuthState :=
  after (serve ⟨30, 900, false⟩ sealedPlainly) enrollingStart
    [enrollingRequest .generate, enrollingRequest (.enable "secret")]

private theorem enrolled_sound : enrolled.Sound :=
  (@after_factor ⟨30, 900, false⟩ sealedPlainly enrollingStart 1
    (Crypto.plain.sealing_recovers _ _) enrollingStart_sound _).1

/-- Another secret is refused and does not take the place of the confirmed one. -/
theorem second_factor_stays_sample :
    (after (serve ⟨30, 900, false⟩ sealedPlainly) enrolled
        [enrollingRequest .generate, enrollingRequest (.enable "other")]).factor
          sealedPlainly 1 =
      enrolled.factor sealedPlainly 1 := by
  apply @second_factor_stays ⟨30, 900, false⟩ sealedPlainly enrolled 1 .plain .plain _ rfl
    enrolled_sound rfl
  decide

end Samples

end SpareSpace
