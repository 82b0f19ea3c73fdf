import SpareSpace.AuthOutcomes
import SpareSpace.UserEndpoints

/-!
# What requests leave of the users

Some things can be observed of an account: its standing, its second factor.  An update saves
every column it has loaded, and a role is read through a cache; so what is observed is kept
as long as the cached profile and the cached roles agree with the rows, which every call
preserves, and as long as no update sets what is observed.  The file proves this once for all
observations.
-/

namespace SpareSpace

open ColumnRecords Fallible RedisService UsersService TwoFactorService

/-- The cached profile and the cached roles are those of the rows. -/
structure Account.Sound (account : Account) : Prop where
  coherent : account.Coherent
  roles : ∀ entry, account.rolesCache = some entry → entry.value = account.roles

theorem Account.sound_of_empty {account : Account} (profile : account.profileCache = none)
    (roles : account.rolesCache = none) : account.Sound := by
  apply Account.Sound.mk (coherent_of_empty profile)
  intro entry cached
  rw [roles] at cached
  contradiction

/-- What is observed of an account, and the updates that do not set it. -/
structure Observation (κ : Type) where
  of : Account → κ
  /-- What is observed of a new user, and for an id that nobody has. -/
  newcomer : κ
  Spares : PartialUser → Prop
  /-- It depends on no cache; the temporary secret is not among these. -/
  of_caches : ∀ (account : Account) profileCache statusCache rolesCache,
    of { account with
      profileCache := profileCache, statusCache := statusCache, rolesCache := rolesCache } =
        of account
  of_new : ∀ phone passwordHash firstName lastName patronymic now id,
    of (newAccount (newRow phone passwordHash firstName lastName patronymic now) id).account =
      newcomer
  of_role : ∀ (account : Account) role, role ≠ .admin →
    of { account with roles := account.roles ++ [role] } = of account
  of_update : ∀ (account after : Account) patch, Spares patch →
    (∀ column, column.inProfile = true →
      after.row column = assign account.row patch column) →
    after.roles = account.roles → after.tempSecret = account.tempSecret → of after = of account
  spares_profile : ∀ updateUserDto : UpdateUserDto, Spares updateUserDto.columns
  spares_hashes : ∀ hashes, Spares (withHashes hashes)

/-- Reading through the cache keeps what writing the entry keeps. -/
theorem preserves_getOrSet {ε σ α κ : Type} {sound : σ → Prop} {observe : σ → κ}
    {slot : Slot σ α} {now ttlSec : Int} {compute : σ → Option α}
    (writes : ∀ store value, sound store → compute store = some value →
      sound (slot.write (entry now ttlSec value) store) ∧
        observe (slot.write (entry now ttlSec value) store) = observe store) :
    Preserves sound observe
      (getOrSet slot now ttlSec
        (reads fun store => .ok (compute store) : Fallible ε σ (Option α))) := by
  intro store holds
  rw [run_getOrSet]
  cases get now (slot.read store) with
  | some value => exact ⟨holds, rfl⟩
  | none =>
      cases computed : compute store with
      | some value => exact writes store value holds computed
      | none => exact ⟨holds, rfl⟩

namespace Observation

variable {κ : Type} (observation : Observation κ)

/-- A call on one account that keeps what is observed. -/
abbrev Kept {α : Type} (call : AccountCall α) : Prop :=
  Preserves Account.Sound observation.of call

/-- Whether the temporary secret can change unobserved. -/
def SparesTempSecret : Prop :=
  ∀ (account : Account) tempSecret,
    observation.of { account with tempSecret := tempSecret } = observation.of account

end Observation

section Accounts

variable {κ : Type} {observation : Observation κ} (crypto : Crypto)
  (environment : UserEnvironment) (id : Nat)

namespace UsersService

theorem kept_findById : observation.Kept (findById environment id) := by
  apply Preserves.bind
  · apply preserves_getOrSet
    intro account profileData sound found
    obtain rfl := Option.some.inj found
    apply And.intro _ (observation.of_caches account _ account.statusCache account.rolesCache)
    constructor
    · intro entry cached
      obtain rfl := Option.some.inj cached
      rfl
    · exact sound.roles
  · intro profileData
    cases profileData with
    | none => apply Preserves.throw
    | some profileData =>
        apply Preserves.bind
        · apply preserves_getOrSet
          intro account statusData sound found
          exact ⟨⟨sound.coherent, sound.roles⟩,
            observation.of_caches account account.profileCache _ account.rolesCache⟩
        · intro statusData
          cases statusData with
          | none => apply Preserves.throw
          | some statusData => apply Preserves.pure

theorem kept_getUserRoles : observation.Kept (getUserRoles environment) := by
  apply Preserves.bind
  · apply preserves_getOrSet
    intro account roles sound found
    obtain rfl := Option.some.inj found
    apply And.intro _
      (observation.of_caches account account.profileCache account.statusCache _)
    constructor
    · exact sound.coherent
    · intro entry cached
      obtain rfl := Option.some.inj cached
      rfl
  · intro roles
    cases roles with
    | none => apply Preserves.pure
    | some roles => apply Preserves.pure

/-- The roles and their cache, which neither a load nor an update touches. -/
theorem keeps_roles_findById :
    Keeps (fun account : Account => (account.roles, account.rolesCache))
      (findById environment id) := by
  apply Preserves.bind
  · exact preserves_getOrSet fun _ _ _ _ => ⟨trivial, rfl⟩
  · intro profileData
    cases profileData with
    | none => apply Preserves.throw
    | some profileData =>
        apply Preserves.bind
        · exact preserves_getOrSet fun _ _ _ _ => ⟨trivial, rfl⟩
        · intro statusData
          cases statusData with
          | none => apply Preserves.throw
          | some statusData => apply Preserves.pure

theorem keeps_roles_update (patch : PartialUser) :
    Keeps (fun account : Account => (account.roles, account.rolesCache))
      (update environment id patch) := by
  have checked (columns : List UniqueColumn) :
      Keeps (fun account : Account => (account.roles, account.rolesCache))
        (columns.forM fun column =>
          (lift (checkUnique environment patch column) : AccountCall Unit)) := by
    induction columns with
    | nil => apply Preserves.pure
    | cons column rest ih =>
        apply Preserves.bind (Preserves.lift _)
        intro
        exact ih
  apply Preserves.bind (checked _)
  intro
  apply Preserves.bind (keeps_roles_findById environment id)
  intro user
  exact fun _ _ => ⟨trivial, rfl⟩

/-- An update that does not set what is observed. -/
theorem kept_update {patch : PartialUser} (spares : observation.Spares patch) :
    observation.Kept (update environment id patch) := by
  intro account sound
  obtain ⟨roles, cache⟩ := Prod.mk.inj (keeps_roles_update environment id patch account trivial).2
  rcases update_cases patch environment id account with
    ⟨error, ran⟩ | ⟨user, after, ran, wrote⟩
  · rw [ran]
    exact ⟨sound, rfl⟩
  · rw [ran] at roles cache ⊢
    have sameCache : after.rolesCache = account.rolesCache := cache
    have sameRoles : after.roles = account.roles := roles
    constructor
    · apply Account.Sound.mk wrote.coherent
      intro entry cached
      rw [sameRoles]
      apply sound.roles entry
      rw [← sameCache]
      exact cached
    · apply observation.of_update account after patch spares
      · exact wrote.profile sound.coherent
      · exact sameRoles
      · exact wrote.tempSecret

/-- The status updates, which write their columns without a load. -/
theorem kept_updateColumns {columns : PartialUser} (spares : observation.Spares columns) :
    observation.Kept (updateColumns columns) := by
  intro account sound
  constructor
  · exact ⟨Account.coherent_of_empty rfl, sound.roles⟩
  · exact observation.of_update account _ columns spares (fun _ _ => rfl) rfl rfl

theorem kept_addRole {role : UserRoleType} (notAdmin : role ≠ .admin) :
    observation.Kept (addRole environment role) := by
  apply Preserves.bind
  · apply Preserves.bind (kept_getUserRoles environment)
    intro
    apply Preserves.pure
  · intro exists_
    apply Preserves.guarded
    intro account sound
    simp only [run_bind, run_updates]
    constructor
    · exact ⟨sound.coherent, nofun⟩
    · rw [← observation.of_role account role notAdmin]
      exact observation.of_caches { account with roles := account.roles ++ [role] }
        account.profileCache account.statusCache none

end UsersService

namespace TwoFactorService

open UsersService

theorem kept_generateSecret (temporary : observation.SparesTempSecret) (draws : Draws) :
    observation.Kept (generateSecret environment id draws) := by
  apply Preserves.bind (kept_findById environment id)
  intro user
  apply Preserves.guarded
  intro account sound
  exact ⟨⟨sound.coherent, sound.roles⟩, temporary account _⟩

theorem kept_validateTwoFactorCode (code : String) :
    observation.Kept (validateTwoFactorCode crypto environment id code) := by
  apply Preserves.bind (kept_findById environment id)
  intro user
  apply Preserves.pure

theorem kept_validateRecoveryCode (code : String) :
    observation.Kept (validateRecoveryCode crypto environment id code) := by
  apply Preserves.bind (kept_findById environment id)
  intro user
  apply Preserves.ite
  · apply Preserves.pure
  · split
    · apply Preserves.pure
    · apply Preserves.bind (kept_update environment id (observation.spares_hashes _))
      intro
      apply Preserves.pure

theorem kept_enableTwoFactor (temporary : observation.SparesTempSecret)
    (spares : ∀ secret, observation.Spares (enabledWith secret)) (draws : Draws)
    (code : String) :
    observation.Kept (enableTwoFactor crypto environment id draws code) := by
  apply Preserves.bind (kept_findById environment id)
  intro user
  apply Preserves.guarded
  apply Preserves.bind (Preserves.reads _)
  intro tempSecret
  split
  · apply Preserves.throw
  · apply Preserves.guarded
    apply Preserves.bind (kept_update environment id (spares _))
    intro
    apply Preserves.bind
    · apply Preserves.bind (kept_update environment id (observation.spares_hashes _))
      intro
      apply Preserves.pure
    · intro codes account sound
      exact ⟨⟨sound.coherent, sound.roles⟩, temporary account none⟩

theorem kept_checkDisabling (code : Option String) :
    observation.Kept (checkDisabling crypto environment id code) := by
  unfold checkDisabling
  split
  · apply Preserves.pure
  · apply Preserves.bind (kept_validateTwoFactorCode crypto environment id _)
    intro valid
    apply Preserves.ite
    · apply Preserves.bind (kept_validateRecoveryCode crypto environment id _)
      intro accepted
      apply Preserves.ite
      · apply Preserves.throw
      · apply Preserves.pure
    · apply Preserves.pure

theorem kept_disableTwoFactor (spares : observation.Spares cleared) (code : Option String) :
    observation.Kept (disableTwoFactor crypto environment id code) := by
  apply Preserves.bind (kept_findById environment id)
  intro user
  apply Preserves.guarded
  apply Preserves.bind (kept_checkDisabling crypto environment id code)
  intro
  apply Preserves.bind (kept_update environment id spares)
  intro
  apply Preserves.pure

end TwoFactorService

end Accounts

/-- Nothing is observed; every call keeps the caches in agreement with the rows. -/
def Observation.nothing : Observation Unit where
  of _ := ()
  newcomer := ()
  Spares _ := True
  of_caches _ _ _ _ := rfl
  of_new _ _ _ _ _ _ _ := rfl
  of_role _ _ _ := rfl
  of_update _ _ _ _ _ _ _ := rfl
  spares_profile _ := trivial
  spares_hashes _ := trivial

/-- In no account does a cache differ from the rows. -/
def AuthState.Sound (state : AuthState) : Prop :=
  ∀ userId user, state.accounts.find? userId = some user → user.account.Sound

namespace Observation

variable {κ : Type} (observation : Observation κ)

/-- What is observed of a user. -/
def ofUser (state : AuthState) (userId : Nat) : κ :=
  ((state.accounts.find? userId).map fun user => observation.of user.account).getD
    observation.newcomer

/-- A call that keeps what is observed of one user. -/
abbrev KeptAt {ε α : Type} (userId : Nat) (call : Fallible ε AuthState α) : Prop :=
  Preserves AuthState.Sound (fun state => observation.ofUser state userId) call

variable {observation} {state : AuthState} {userId other : Nat}

theorem ofUser_of_find? {user : UserAccount} (found : state.accounts.find? userId = some user) :
    observation.ofUser state userId = observation.of user.account := by
  unfold ofUser
  rw [found]
  rfl

theorem ofUser_save (account : Account) :
    observation.ofUser { state with accounts := state.accounts.save ⟨other, account⟩ } =
      Function.update (observation.ofUser state) other (observation.of account) := by
  funext userId
  rw [Function.update_apply]
  unfold ofUser
  rw [KeyedTable.find?_save]
  split <;> rfl

theorem sound_save {account : Account} (sound : state.Sound) (kept : account.Sound) :
    ({ state with accounts := state.accounts.save ⟨other, account⟩ } : AuthState).Sound := by
  intro userId user found
  rw [KeyedTable.find?_save] at found
  split at found
  · obtain rfl := Option.some.inj found
    exact kept
  · exact sound userId user found

/-- A call on an account, which must keep what is observed only of the user in question. -/
theorem keptAt_onAccount {α : Type} {missing : HttpException} {call : AccountCall α}
    (sounds : nothing.Kept call) (kept : other = userId → observation.Kept call) :
    observation.KeptAt userId (AuthState.onAccount other missing call) := by
  intro state sound
  cases found : state.accounts.find? other with
  | none =>
      rw [AuthState.run_onAccount_none found]
      exact ⟨sound, rfl⟩
  | some user =>
      rw [AuthState.run_onAccount_some found]
      apply And.intro (sound_save sound (sounds user.account (sound other user found)).1)
      simp only [ofUser_save, Function.update_apply]
      split
      · next same =>
          have observed := (kept same.symm user.account (sound other user found)).2
          rw [observed, same, ofUser_of_find? found]
      · rfl

theorem keptAt_sign (now expiresIn : Int) (payload : JwtPayload) :
    observation.KeptAt userId (JwtService.sign now expiresIn payload) :=
  fun _ sound => ⟨sound, rfl⟩

theorem keptAt_verify (now : Int) (token : Jwt) (message : String) :
    observation.KeptAt userId (JwtService.verify now token message) :=
  Preserves.reads _

/-- A new user is a newcomer, as was the id before. -/
theorem keptAt_create (phone passwordHash firstName lastName : String)
    (patronymic : Option String) (now : Int) :
    observation.KeptAt userId
      (create (newRow phone passwordHash firstName lastName patronymic now)) := by
  apply Preserves.updates
  intro state created next sound inserted
  split at inserted
  · contradiction
  · obtain ⟨rfl, rfl⟩ := Prod.mk.inj (Except.ok.inj inserted)
    constructor
    · intro other user found
      rw [KeyedTable.find?_insert] at found
      split at found
      · obtain rfl := Option.some.inj found
        exact Account.sound_of_empty rfl rfl
      · exact sound other user found
    · unfold ofUser
      rw [KeyedTable.find?_insert]
      split
      · next same =>
          rw [same, KeyedTable.find?_nextId]
          apply observation.of_new
      · rfl

end Observation

namespace AuthService

open AuthState Observation

variable {κ : Type} {observation : Observation κ} {userId : Nat} (config : AuthConfig)
  (crypto : Crypto) (environment : AuthEnvironment)

theorem keptAt_issueTokens (other : Nat) :
    observation.KeptAt userId (issueTokens config crypto environment other) := by
  apply Preserves.bind
  · apply keptAt_onAccount (kept_getUserRoles _)
    intro
    exact kept_getUserRoles _
  · intro roles
    apply Preserves.bind (keptAt_sign _ _ _)
    intro token state sound
    exact ⟨sound, rfl⟩

theorem keptAt_signIn (user : UserAccount) :
    observation.KeptAt userId (signIn config crypto environment user) := by
  apply Preserves.ite
  · apply Preserves.bind (keptAt_sign _ _ _)
    intro token
    apply Preserves.pure
  · apply keptAt_issueTokens

theorem keptAt_verifyFlashCall (phone lastFourDigits : String) :
    observation.KeptAt userId
      (verifyFlashCall config crypto environment phone lastFourDigits) := by
  apply Preserves.bind (Preserves.reads _)
  intro
  apply Preserves.bind
  · exact fun _ sound => ⟨sound, rfl⟩
  · intro
    apply Preserves.bind (Preserves.reads _)
    intro found
    cases found with
    | none =>
        apply Preserves.bind (keptAt_sign _ _ _)
        intro token
        apply Preserves.pure
    | some user => apply keptAt_signIn

/-- A registration gives the roles of a renter and of a landlord, and no other. -/
theorem keptAt_completeRegistration (dto : CompleteRegistrationDto) :
    observation.KeptAt userId (completeRegistration config crypto environment dto) := by
  apply Preserves.bind (keptAt_verify _ _ _)
  intro payload
  cases payload with
  | access | twoFactor => apply Preserves.throw
  | register phone =>
      have addsRole (role : UserRoleType) (notAdmin : role ≠ .admin) (created : Nat) :
          observation.KeptAt userId (onAccount created (userNotFound created)
            (addRole environment.toUserEnvironment role)) :=
        keptAt_onAccount (kept_addRole _ notAdmin) fun _ => kept_addRole _ notAdmin
      apply Preserves.bind (keptAt_create _ _ _ _ _ _)
      intro created
      apply Preserves.bind (addsRole .renter (by decide) created)
      intro
      apply Preserves.bind (addsRole .landlord (by decide) created)
      intro
      apply keptAt_issueTokens

theorem keptAt_login (dto : LoginDto) :
    observation.KeptAt userId (login config crypto environment dto) := by
  apply Preserves.bind (Preserves.reads _)
  intro user
  apply Preserves.guarded
  apply keptAt_signIn

theorem keptAt_spend (refreshToken message : String) :
    observation.KeptAt userId (spend crypto environment refreshToken message) := by
  apply Preserves.bind (Preserves.reads _)
  intro token state sound
  exact ⟨sound, rfl⟩

theorem keptAt_validateCode (other : Nat) (code : String) :
    observation.KeptAt userId (validateCode crypto environment other code) := by
  apply Preserves.ite
  · exact keptAt_onAccount (kept_validateTwoFactorCode crypto _ other code) fun _ =>
      kept_validateTwoFactorCode crypto _ other code
  · apply Preserves.ite
    · exact keptAt_onAccount (kept_validateRecoveryCode crypto _ other code) fun _ =>
        kept_validateRecoveryCode crypto _ other code
    · apply Preserves.throw

theorem keptAt_verifyTwoFactor (token : Jwt) (code : String) :
    observation.KeptAt userId (verifyTwoFactor config crypto environment token code) := by
  apply Preserves.bind (keptAt_verify _ _ _)
  intro payload
  cases payload with
  | access | register => apply Preserves.throw
  | twoFactor other =>
      apply Preserves.bind (keptAt_validateCode crypto environment other code)
      intro valid
      apply Preserves.guarded
      apply keptAt_issueTokens

end AuthService

namespace JwtStrategy

open AuthState Observation

variable (environment : UserEnvironment) (payload : JwtPayload)

/-- What holds of both loads holds of the validation. -/
theorem preserves_validate {κ : Type} {sound : AuthState → Prop} {observe : AuthState → κ}
    (loads : ∀ userId, Preserves sound observe
      (onAccount userId (userNotFound userId) (findById environment userId)))
    (reads : ∀ userId, Preserves sound observe
      (onAccount userId (userNotFound userId) (getUserRoles environment))) :
    Preserves sound observe (validate environment payload) := by
  cases payload with
  | twoFactor | register => apply Preserves.throw
  | access userId roles =>
      apply Preserves.guarded
      apply Preserves.bind (loads userId)
      intro user
      apply Preserves.guarded
      apply Preserves.bind (reads userId)
      intro roles
      apply Preserves.guarded
      apply Preserves.pure

end JwtStrategy

open Observation in
theorem JwtAuthGuard.keptAt_canActivate {κ : Type} {observation : Observation κ}
    {userId : Nat} {environment : UserEnvironment} {bearer : Jwt} :
    observation.KeptAt userId (canActivate environment bearer) := by
  apply Preserves.adapt
  apply Preserves.bind (keptAt_verify _ _ _)
  intro payload
  apply JwtStrategy.preserves_validate
  · exact fun other => keptAt_onAccount (kept_findById _ _) fun _ => kept_findById _ _
  · exact fun other => keptAt_onAccount (kept_getUserRoles _) fun _ => kept_getUserRoles _

/-- The user that an access token names. -/
def Jwt.accessUser (token : Jwt) : Option Nat :=
  match token.payload with
  | .access userId _ => some userId
  | _ => none

/-- The guard finds the user that the token names. -/
theorem JwtAuthGuard.accessUser_of_canActivate {environment : UserEnvironment} {bearer : Jwt}
    {state next : AuthState} {userId : Nat} {roles : List UserRoleType}
    (passed : run (canActivate environment bearer) state = (.ok (userId, roles), next)) :
    bearer.accessUser = some userId := by
  unfold canActivate at passed
  rw [adapt_ok_iff] at passed
  obtain ⟨payload, verified, read, validated⟩ := bind_ok passed
  obtain rfl : bearer.payload = payload := by
    rw [JwtService.verify, run_reads] at read
    split at read
    · exact Except.ok.inj (Prod.mk.inj read).1
    · cases (Prod.mk.inj read).1
  unfold Jwt.accessUser
  cases named : bearer.payload with
  | twoFactor | register =>
      rw [named] at validated
      cases (Prod.mk.inj validated).1
  | access id claimed =>
      rw [named, JwtStrategy.validate] at validated
      split at validated
      · cases (Prod.mk.inj validated).1
      · obtain ⟨user, loaded, _, checked⟩ := bind_ok validated
        split at checked
        · cases (Prod.mk.inj checked).1
        · obtain ⟨found, last, _, returned⟩ := bind_ok checked
          split at returned
          · cases (Prod.mk.inj returned).1
          · exact congrArg some (Prod.mk.inj (Except.ok.inj (Prod.mk.inj returned).1)).1

/-- What follows the guard is a call for the user that the token names. -/
theorem Observation.keptAt_canActivate_bind {κ : Type} {observation : Observation κ}
    {userId : Nat} {environment : UserEnvironment} {bearer : Jwt} {α : Type}
    {rest : Nat × List UserRoleType → ApiCall α}
    (kept : ∀ other roles, bearer.accessUser = some other →
      observation.KeptAt userId (rest (other, roles))) :
    observation.KeptAt userId (JwtAuthGuard.canActivate environment bearer >>= rest) := by
  intro state sound
  have guarded := @JwtAuthGuard.keptAt_canActivate _ observation userId environment bearer
    state sound
  rw [run_bind]
  rcases ran : run (JwtAuthGuard.canActivate environment bearer) state with
    ⟨_ | ⟨other, roles⟩, next⟩
  · rw [ran] at guarded
    exact guarded
  · rw [ran] at guarded
    obtain ⟨lastSound, same⟩ :=
      kept other roles (JwtAuthGuard.accessUser_of_canActivate ran) next guarded.1
    exact ⟨lastSound, same.trans guarded.2⟩

namespace Observation

variable {κ : Type} (observation : Observation κ) (userId : Nat)

/-- The requests that may change what is observed of a user unless it spares them. -/
def SparesAuth : AuthRequest → Prop
  | .generateSecret other => other = userId → observation.SparesTempSecret
  | .enableTwoFactor other _ => other = userId →
      observation.SparesTempSecret ∧ ∀ secret, observation.Spares (enabledWith secret)
  | .disableTwoFactor other _ => other = userId → observation.Spares cleared
  | _ => True

def SparesRequest : ApiRequest → Prop
  | .twoFactor bearer request => ∀ other, bearer.accessUser = some other →
      observation.SparesAuth userId (request.onUser other)
  | .updateBanStatus _ other isBanned => other = userId → observation.Spares (banStatus isBanned)
  | .updateVerifiedStatus _ other verified => other = userId →
      observation.Spares (verifiedStatus verified)
  | _ => True

/-- The requests without a token spare what is observed. -/
theorem sparesAuth_of_open {request : AuthRequest} (isOpen : request.onSecondFactor = false) :
    observation.SparesAuth userId request := by
  cases request with
  | generateSecret | enableTwoFactor | disableTwoFactor => contradiction
  | _ => trivial

theorem nothing_spares (request : ApiRequest) : nothing.SparesRequest userId request := by
  cases request with
  | twoFactor bearer request =>
      intro other _
      cases request with
      | generate => exact fun _ _ _ => rfl
      | enable => exact fun _ => ⟨fun _ _ => rfl, fun _ => trivial⟩
      | disable => exact fun _ => trivial
  | updateBanStatus | updateVerifiedStatus => exact fun _ => trivial
  | _ => trivial

end Observation

open AuthService Observation TwoFactorService in
theorem AuthRequest.keptAt_serve {κ : Type} {observation : Observation κ} {userId : Nat}
    {request : AuthRequest} (spares : observation.SparesAuth userId request)
    (config : AuthConfig) (crypto : Crypto) (environment : AuthEnvironment) :
    observation.KeptAt userId (request.serve config crypto environment) := by
  cases request with
  | requestFlashCall phone =>
      apply Preserves.bind
      · apply Preserves.bind (Preserves.lift _)
        intro digits state sound
        exact ⟨sound, rfl⟩
      · intro
        apply Preserves.pure
  | verifyFlashCall phone lastFourDigits => apply keptAt_verifyFlashCall
  | completeRegistration dto => apply keptAt_completeRegistration
  | login dto => apply keptAt_login
  | refresh refreshToken =>
      apply Preserves.bind (keptAt_spend _ _ _ _)
      intro token
      apply keptAt_issueTokens
  | logout refreshToken =>
      apply Preserves.bind (keptAt_spend _ _ _ _)
      intro token
      apply Preserves.pure
  | verifyTwoFactor token code => apply keptAt_verifyTwoFactor
  | generateSecret other =>
      apply Preserves.bind
      · apply keptAt_onAccount (kept_generateSecret _ _ (fun _ _ => rfl) _)
        exact fun same => kept_generateSecret _ _ (spares same) _
      · intro secret
        apply Preserves.pure
  | enableTwoFactor other code =>
      apply Preserves.bind
      · apply keptAt_onAccount
          (kept_enableTwoFactor _ _ _ (fun _ _ => rfl) (fun _ => trivial) _ _)
        exact fun same => kept_enableTwoFactor _ _ _ (spares same).1 (spares same).2 _ _
      · intro codes
        apply Preserves.pure
  | disableTwoFactor other code =>
      apply Preserves.bind
      · apply keptAt_onAccount (kept_disableTwoFactor _ _ _ trivial _)
        exact fun same => kept_disableTwoFactor _ _ _ (spares same) _
      · intro
        apply Preserves.pure

open Observation in
/-- A request leaves what is observed of a user as it is, unless it is one of those that
set it. -/
theorem ApiRequest.keptAt_call {κ : Type} {observation : Observation κ} {userId : Nat}
    {request : ApiRequest} (spares : observation.SparesRequest userId request)
    (config : AuthConfig) (crypto : Crypto) (environment : AuthEnvironment) :
    observation.KeptAt userId (request.call config crypto environment) := by
  have onUser {α : Type} {call : AccountCall α} (other : Nat) (sounds : nothing.Kept call)
      (kept : other = userId → observation.Kept call) :
      observation.KeptAt userId (UsersService.onUser other call) :=
    Preserves.adapt (keptAt_onAccount sounds kept) _
  have load (other : Nat) : observation.KeptAt userId
      (UsersService.onUser other (findById environment.toUserEnvironment other)) :=
    onUser other (kept_findById _ _) fun _ => kept_findById _ _
  have guarded {α : Type} {call : ApiCall α} (bearer : Jwt)
      (kept : observation.KeptAt userId call) : observation.KeptAt userId
        (UsersAdminController.guarded environment.toUserEnvironment bearer call) := by
    apply Preserves.bind JwtAuthGuard.keptAt_canActivate
    intro found
    apply Preserves.bind
    · apply Preserves.ite
      · apply Preserves.pure
      · apply Preserves.throw
    · intro
      exact kept
  cases request with
  | auth request isOpen =>
      have kept := request.keptAt_serve (observation.sparesAuth_of_open userId isOpen)
        config crypto environment
      apply Preserves.bind (Preserves.adapt kept _)
      intro response
      apply Preserves.pure
  | twoFactor bearer request =>
      apply Preserves.bind
      · apply keptAt_canActivate_bind
        intro other roles named
        exact Preserves.adapt ((request.onUser other).keptAt_serve (spares other named) _ _ _) _
      · intro response
        apply Preserves.pure
  | twoFactorStatus bearer =>
      apply Preserves.bind
      · apply Preserves.bind JwtAuthGuard.keptAt_canActivate
        intro found
        apply Preserves.bind (load _)
        intro user
        apply Preserves.pure
      · intro enabled
        apply Preserves.pure
  | getMyProfile bearer =>
      apply Preserves.bind
      · apply Preserves.bind JwtAuthGuard.keptAt_canActivate
        intro found
        apply load
      · intro user
        apply Preserves.pure
  | findOne other =>
      apply Preserves.bind
      · apply Preserves.bind (load other)
        intro user
        apply Preserves.guarded
        apply Preserves.pure
      · intro user
        apply Preserves.pure
  | updateMyProfile bearer dto =>
      apply Preserves.bind
      · apply Preserves.bind JwtAuthGuard.keptAt_canActivate
        intro found
        apply onUser _ (kept_update _ _ trivial)
        exact fun _ => kept_update _ _ (observation.spares_profile dto)
      · intro user
        apply Preserves.pure
  | updateBanStatus bearer other isBanned =>
      apply Preserves.bind
      · apply guarded
        exact onUser other (kept_updateColumns trivial) fun same =>
          kept_updateColumns (spares same)
      · intro
        apply Preserves.pure
  | updateVerifiedStatus bearer other verified =>
      apply Preserves.bind
      · apply guarded
        exact onUser other (kept_updateColumns trivial) fun same =>
          kept_updateColumns (spares same)
      · intro
        apply Preserves.pure

end SpareSpace
