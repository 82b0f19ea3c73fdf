import SpareSpace.TwoFactorService

/-!
# What the calls on one account do

While no other call runs, the cached profile of a user is what the row says
whenever it is there.  Under this condition a loaded user has the row's values
in every profile column, and an update changes the columns it sets.  Each
service gets one lemma; the calls above it use these and never look inside.
-/

namespace SpareSpace

open ColumnRecords Fallible RedisService

namespace Account

/-- A profile in the cache is the profile in the row. -/
def Coherent (account : Account) : Prop :=
  ∀ entry, account.profileCache = some entry →
    entry.value = select UserColumn.inProfile account.row

/-- The row is kept, and so is the agreement of the cache with it. -/
structure Quiet (before after : Account) : Prop where
  row : after.row = before.row
  coherent : before.Coherent → after.Coherent

variable {account before middle after : Account}

theorem Quiet.refl (account : Account) : Quiet account account :=
  ⟨rfl, fun coherent => coherent⟩

theorem Quiet.trans (first : Quiet before middle)
    (second : Quiet middle after) : Quiet before after :=
  ⟨second.row.trans first.row,
    fun coherent => second.coherent (first.coherent coherent)⟩

/-- A change of neither the row nor the cached profile is quiet. -/
theorem Quiet.of_eq (row : after.row = before.row)
    (cache : after.profileCache = before.profileCache) :
    Quiet before after := by
  refine ⟨row, fun coherent entry cached => ?_⟩
  rw [row]
  exact coherent entry (cache ▸ cached)

theorem coherent_of_empty (empty : account.profileCache = none) :
    account.Coherent := by
  intro entry cached
  rw [empty] at cached
  contradiction

end Account

namespace UsersService

variable {environment : UserEnvironment} {id : Nat} {account : Account}

/-- A user as loaded from an account: the account is left quiet, and the user
has the row's values in the columns of the profile. -/
structure Loads (account : Account) (user : PartialUser) (after : Account) :
    Prop where
  quiet : account.Quiet after
  tempSecret : after.tempSecret = account.tempSecret
  profile : account.Coherent → ∀ column, column.inProfile = true →
    user column = some (account.row column)

private theorem inStatus_of_inProfile {column : UserColumn}
    (profile : column.inProfile = true) : column.inStatus = false := by
  cases column <;> first | rfl | contradiction

theorem findById_spec (environment : UserEnvironment) (id : Nat)
    (account : Account) :
    ∃ user after,
      run (findById environment id) account = (.ok user, after) ∧
        Loads account user after := by
  obtain ⟨profileData, middle, ranProfile, profile⟩ :=
    getOrSet_cases HttpException Account.profileSlot environment.now
      profileCacheTtlSec account findProfile rfl
  obtain ⟨statusData, after, ranStatus, status⟩ :=
    getOrSet_cases HttpException Account.statusSlot environment.now
      statusCacheTtlSec middle findStatus rfl
  refine ⟨merge profileData statusData, after, ?_, ?_⟩
  · unfold findById
    rw [run_bind_ok ranProfile]
    simp only
    rw [run_bind_ok ranStatus]
    rfl
  · have lastQuiet : middle.Quiet after ∧
        after.tempSecret = middle.tempSecret := by
      rcases status with ⟨_, rfl⟩ | ⟨_, rfl⟩
      · exact ⟨Account.Quiet.refl _, rfl⟩
      · exact ⟨Account.Quiet.of_eq rfl rfl, rfl⟩
    have loaded (coherent : account.Coherent) :
        profileData = select UserColumn.inProfile account.row := by
      rcases profile with ⟨hit, _⟩ | ⟨rfl, _⟩
      · obtain ⟨expiresAt, cached, _⟩ := eq_of_get hit
        exact coherent ⟨profileData, expiresAt⟩ cached
      · rfl
    have firstQuiet : account.Quiet middle ∧
        middle.tempSecret = account.tempSecret := by
      rcases profile with ⟨_, rfl⟩ | ⟨_, rfl⟩
      · exact ⟨Account.Quiet.refl _, rfl⟩
      · refine ⟨⟨rfl, fun _ entry cached => ?_⟩, rfl⟩
        obtain rfl := Option.some.inj cached
        rfl
    refine ⟨firstQuiet.1.trans lastQuiet.1,
      lastQuiet.2.trans firstQuiet.2, fun coherent column profile => ?_⟩
    have notStatus := inStatus_of_inProfile profile
    simp [merge, notStatus, loaded coherent, select, profile]

/-- An update that writes its columns: nothing is cached afterwards, and the
profile columns of the row are those of the update. -/
structure Wrote (account : Account) (patch : PartialUser) (after : Account) :
    Prop where
  coherent : after.Coherent
  tempSecret : after.tempSecret = account.tempSecret
  profile : account.Coherent → ∀ column, column.inProfile = true →
    after.row column = assign account.row patch column

/-- An update without columns that must be unique goes straight to its load. -/
theorem update_of_noUnique {patch : PartialUser}
    (noUnique : ∀ column, UniqueColumn.given patch column = false)
    (environment : UserEnvironment) (id : Nat) :
    update environment id patch = (do
      let user ← findById environment id
      updates fun account => .ok ((), deleteProfile account)
      updates fun account => .ok ((), save (overlay user patch) account)
      return overlay user patch) := by
  have pass : ∀ column ∈ UniqueColumn.all,
      checkUnique environment patch column = .ok () := by
    intro column _
    simp [checkUnique, noUnique column]
  funext account
  exact run_bind_ok (run_forM_lift pass account)

/-- What an update does after its checks. -/
theorem loadAndSave_spec (patch : PartialUser) (environment : UserEnvironment)
    (id : Nat) (account : Account) :
    ∃ user after, run (do
        let user ← findById environment id
        updates fun account => .ok ((), deleteProfile account)
        updates fun account => .ok ((), save (overlay user patch) account)
        return overlay user patch) account = (.ok user, after) ∧
      Wrote account patch after := by
  obtain ⟨user, loaded, found, loads⟩ := findById_spec environment id account
  refine ⟨overlay user patch,
    save (overlay user patch) (deleteProfile loaded), ?_, ?_⟩
  · rw [run_bind_ok found]
    rfl
  · refine ⟨Account.coherent_of_empty rfl, loads.tempSecret, ?_⟩
    intro coherent column profile
    change assign loaded.row (overlay user patch) column = _
    rw [loads.quiet.row]
    cases sets : patch column with
    | some value =>
        rw [assign_of_some (overlay_of_some sets), assign_of_some sets]
    | none =>
        have held := loads.profile coherent column profile
        rw [assign_of_some ((overlay_of_none sets).trans held),
          assign_of_none sets]

theorem update_spec {patch : PartialUser}
    (noUnique : ∀ column, UniqueColumn.given patch column = false)
    (environment : UserEnvironment) (id : Nat) (account : Account) :
    ∃ user after, run (update environment id patch) account = (.ok user, after) ∧
      Wrote account patch after := by
  rw [update_of_noUnique noUnique]
  exact loadAndSave_spec patch environment id account

/-- An update whose checks throw leaves the account as it is. -/
theorem update_cases (patch : PartialUser) (environment : UserEnvironment)
    (id : Nat) (account : Account) :
    (∃ error, run (update environment id patch) account =
        (.error error, account)) ∨
      ∃ user after,
        run (update environment id patch) account = (.ok user, after) ∧
          Wrote account patch after := by
  unfold update
  rcases run_forM_lift_cases (checkUnique environment patch) UniqueColumn.all
    account with checked | ⟨error, checked⟩
  · right
    rw [run_bind_ok checked]
    exact loadAndSave_spec patch environment id account
  · left
    rw [run_bind, checked]
    exact ⟨error, rfl⟩

section Roles

variable {environment : UserEnvironment} {account : Account}

/-- Cached roles are returned as they are. -/
theorem run_getUserRoles_hit {roles : List UserRoleType}
    (hit : RedisService.get environment.now account.rolesCache = some roles) :
    run (getUserRoles environment) account = (.ok roles, account) := by
  unfold getUserRoles
  rw [run_bind, run_getOrSet]
  simp only [Account.rolesSlot, hit]
  rfl

/-- Roles that are not cached are read from the rows and cached. -/
theorem run_getUserRoles_miss
    (miss : RedisService.get environment.now account.rolesCache = none) :
    run (getUserRoles environment) account =
      (.ok account.roles, { account with
        rolesCache := entry environment.now rolesCacheTtlSec account.roles }) := by
  unfold getUserRoles
  rw [run_bind, run_getOrSet]
  simp only [Account.rolesSlot, miss]
  rfl

end Roles

theorem getUserRoles_spec (environment : UserEnvironment) (account : Account) :
    ∃ roles after, run (getUserRoles environment) account = (.ok roles, after) ∧
      account.Quiet after := by
  cases cached : RedisService.get environment.now account.rolesCache with
  | some roles =>
      exact ⟨roles, account, run_getUserRoles_hit cached, Account.Quiet.refl _⟩
  | none =>
      exact ⟨account.roles, _, run_getUserRoles_miss cached,
        Account.Quiet.of_eq rfl rfl⟩

theorem quiet_addRole (environment : UserEnvironment) (role : UserRoleType)
    (account : Account) :
    account.Quiet (run (addRole environment role) account).2 := by
  obtain ⟨roles, after, ran, quiet⟩ := getUserRoles_spec environment account
  have checked : run (hasRole environment role) account =
      (.ok (roles.contains role), after) := by
    unfold hasRole
    rw [run_bind_ok ran]
    rfl
  unfold addRole
  rw [run_bind_ok checked]
  cases roles.contains role with
  | true => exact quiet
  | false => exact quiet.trans (Account.Quiet.of_eq rfl rfl)

end UsersService

namespace TwoFactorService

open UsersService

/-- The hashes a row keeps. -/
def storedHashes (row : User) : List String :=
  (row .twoFaRecoveryCodesHashes).getD []

variable {crypto : Crypto} {environment : UserEnvironment} {userId : Nat}
  {account after : Account} {user : PartialUser} {code : String}

/-- The code is a TOTP that is valid now for the secret in the row. -/
def ValidTotp (crypto : Crypto) (now : Int) (row : User) (code : String) :
    Prop :=
  ∃ stored secret, row .twoFaSecret = some stored ∧
    crypto.decrypt stored = some secret ∧
      crypto.totpVerify code secret now = true

theorem validTotp_of_accepts {row : User}
    (held : user .twoFaSecret = some (row .twoFaSecret))
    (accepts : acceptsTotp crypto environment user code = true) :
    ValidTotp crypto environment.now row code := by
  unfold acceptsTotp storedSecret at accepts
  rw [held] at accepts
  cases stored : row .twoFaSecret with
  | none => simp [stored] at accepts
  | some encrypted =>
      rw [stored] at accepts
      cases nonempty : encrypted != "" with
      | false => simp_all [Option.filter]
      | true =>
          simp only [Option.join_some, Option.filter, nonempty, if_true] at accepts
          cases decrypted : crypto.decrypt encrypted with
          | none => simp [decrypted] at accepts
          | some secret =>
              simp only [decrypted] at accepts
              exact ⟨encrypted, secret, stored, decrypted, accepts⟩

theorem validateTwoFactorCode_spec (crypto : Crypto)
    (environment : UserEnvironment) (userId : Nat) (code : String)
    (coherent : account.Coherent) :
    ∃ valid after,
      run (validateTwoFactorCode crypto environment userId code) account =
          (.ok valid, after) ∧
        account.Quiet after ∧
          (valid = true → ValidTotp crypto environment.now account.row code) := by
  obtain ⟨user, after, found, loads⟩ := findById_spec environment userId account
  refine ⟨enabled user && acceptsTotp crypto environment user code, after, ?_,
    loads.quiet, fun valid => ?_⟩
  · unfold validateTwoFactorCode
    rw [run_bind_ok found]
    rfl
  · have accepts := (Bool.and_eq_true _ _ ▸ valid).2
    exact validTotp_of_accepts (loads.profile coherent .twoFaSecret rfl) accepts

theorem noUnique_withHashes (hashes : List String) (column : UniqueColumn) :
    UniqueColumn.given (withHashes hashes) column = false := by
  cases column <;> rfl

/-- A recovery code is refused, and the account left quiet, or it is accepted
and its hash written off. -/
theorem validateRecoveryCode_spec (crypto : Crypto)
    (environment : UserEnvironment) (userId : Nat) (code : String)
    (coherent : account.Coherent) :
    ∃ valid after,
      run (validateRecoveryCode crypto environment userId code) account =
          (.ok valid, after) ∧
        ((valid = false ∧ account.Quiet after) ∨
          (valid = true ∧ after.Coherent ∧
            ∃ remaining,
              consume crypto code (storedHashes account.row) = some remaining ∧
                storedHashes after.row = remaining ∧
                  after.row .twoFaEnabled = account.row .twoFaEnabled)) := by
  obtain ⟨user, loaded, found, loads⟩ := findById_spec environment userId account
  unfold validateRecoveryCode
  rw [run_bind_ok found]
  cases enabled user with
  | false => exact ⟨false, loaded, rfl, Or.inl ⟨rfl, loads.quiet⟩⟩
  | true =>
      simp only [Bool.not_true, Bool.false_eq_true, if_false]
      have hashes : recoveryHashes user = storedHashes account.row := by
        unfold recoveryHashes storedHashes
        rw [loads.profile coherent .twoFaRecoveryCodesHashes rfl]
        rfl
      rw [hashes]
      cases consumed : consume crypto code (storedHashes account.row) with
      | none => exact ⟨false, loaded, rfl, Or.inl ⟨rfl, loads.quiet⟩⟩
      | some remaining =>
          obtain ⟨_, after, updated, wrote⟩ :=
            update_spec (noUnique_withHashes remaining) environment userId loaded
          have current := loads.quiet.coherent coherent
          refine ⟨true, after, ?_, Or.inr ⟨rfl, wrote.coherent, remaining, rfl, ?_, ?_⟩⟩
          · change run (update environment userId (withHashes remaining) >>=
              fun _ => pure true) loaded = _
            rw [run_bind_ok updated]
            rfl
          · unfold storedHashes
            rw [wrote.profile current .twoFaRecoveryCodesHashes rfl]
            rfl
          · rw [wrote.profile current .twoFaEnabled rfl, assign_of_none rfl,
              loads.quiet.row]

theorem noUnique_enabledWith (secret : String) (column : UniqueColumn) :
    UniqueColumn.given (enabledWith secret) column = false := by
  cases column <;> rfl

theorem noUnique_cleared (column : UniqueColumn) :
    UniqueColumn.given cleared column = false := by
  cases column <;> rfl

theorem quiet_generateSecret (environment : UserEnvironment) (userId : Nat)
    (draws : Draws) (account : Account) :
    account.Quiet (run (generateSecret environment userId draws) account).2 := by
  obtain ⟨user, loaded, found, loads⟩ := findById_spec environment userId account
  unfold generateSecret
  rw [run_bind_ok found]
  cases enabled user with
  | true => exact loads.quiet
  | false => exact loads.quiet.trans (Account.Quiet.of_eq rfl rfl)

/-- Enabling is refused, and the account left quiet, or the drawn codes are
returned and exactly their hashes are stored. -/
theorem enableTwoFactor_spec (crypto : Crypto) (environment : UserEnvironment)
    (userId : Nat) (draws : Draws) (code : String) (account : Account) :
    ∃ result after,
      run (enableTwoFactor crypto environment userId draws code) account =
          (result, after) ∧
        ((∃ error, result = .error error ∧ account.Quiet after) ∨
          (result = .ok draws.codes ∧ after.Coherent ∧
            storedHashes after.row = draws.hashes crypto)) := by
  obtain ⟨user, loaded, found, loads⟩ := findById_spec environment userId account
  unfold enableTwoFactor
  rw [run_bind_ok found]
  cases enabled user with
  | true => exact ⟨_, loaded, rfl, Or.inl ⟨_, rfl, loads.quiet⟩⟩
  | false =>
      simp only [Bool.false_eq_true, if_false]
      rw [run_bind, run_reads]
      simp only
      cases (get environment.now loaded.tempSecret).filter
          fun secret => secret != "" with
      | none => exact ⟨_, loaded, rfl, Or.inl ⟨_, rfl, loads.quiet⟩⟩
      | some tempSecret =>
          simp only
          cases crypto.totpVerify code tempSecret environment.now with
          | false => exact ⟨_, loaded, rfl, Or.inl ⟨_, rfl, loads.quiet⟩⟩
          | true =>
              simp only [Bool.not_true, Bool.false_eq_true, if_false]
              obtain ⟨_, switched, ranSwitch, wroteSwitch⟩ :=
                update_spec (noUnique_enabledWith
                  (crypto.encrypt draws.iv tempSecret)) environment userId loaded
              obtain ⟨_, stored, ranStore, wroteStore⟩ :=
                update_spec (noUnique_withHashes (draws.hashes crypto))
                  environment userId switched
              have ranGenerate :
                  run (generateAndStoreRecoveryCodes crypto environment userId
                    draws) switched = (.ok draws.codes, stored) := by
                unfold generateAndStoreRecoveryCodes
                rw [run_bind_ok ranStore]
                rfl
              rw [run_bind_ok ranSwitch, run_bind_ok ranGenerate]
              refine ⟨_, _, rfl, Or.inr ⟨rfl, ?_, ?_⟩⟩
              · have cleared : stored.Quiet { stored with tempSecret := none } :=
                  Account.Quiet.of_eq rfl rfl
                exact cleared.coherent wroteStore.coherent
              · unfold storedHashes
                change (stored.row .twoFaRecoveryCodesHashes).getD [] = _
                rw [wroteStore.profile wroteSwitch.coherent
                  .twoFaRecoveryCodesHashes rfl]
                rfl

/-- The check before disabling leaves the account quiet when it throws. -/
theorem checkDisabling_spec (crypto : Crypto) (environment : UserEnvironment)
    (userId : Nat) (code : Option String) (coherent : account.Coherent) :
    ∃ result after,
      run (checkDisabling crypto environment userId code) account =
          (result, after) ∧
        after.Coherent ∧
          (∀ error, result = .error error → account.Quiet after) := by
  unfold checkDisabling
  cases code.filter fun code => code != "" with
  | none => exact ⟨_, account, rfl, coherent, nofun⟩
  | some code =>
      obtain ⟨valid, checked, ranTotp, quiet, _⟩ :=
        validateTwoFactorCode_spec crypto environment userId code coherent
      simp only
      rw [run_bind_ok ranTotp]
      cases valid with
      | true => exact ⟨_, checked, rfl, quiet.coherent coherent, nofun⟩
      | false =>
          obtain ⟨accepted, after, ranRecovery, outcome⟩ :=
            validateRecoveryCode_spec crypto environment userId code
              (quiet.coherent coherent)
          simp only [Bool.not_false, if_true]
          rw [run_bind_ok ranRecovery]
          rcases outcome with ⟨rfl, refused⟩ | ⟨rfl, current, _⟩
          · exact ⟨_, after, rfl, refused.coherent (quiet.coherent coherent),
              fun _ _ => quiet.trans refused⟩
          · exact ⟨_, after, rfl, current, nofun⟩

/-- Disabling is refused, and the account left quiet, or no hash remains. -/
theorem disableTwoFactor_spec (crypto : Crypto) (environment : UserEnvironment)
    (userId : Nat) (code : Option String) (coherent : account.Coherent) :
    ∃ result after,
      run (disableTwoFactor crypto environment userId code) account =
          (result, after) ∧
        ((∃ error, result = .error error ∧ account.Quiet after) ∨
          (result = .ok () ∧ after.Coherent ∧ storedHashes after.row = [])) := by
  obtain ⟨user, loaded, found, loads⟩ := findById_spec environment userId account
  unfold disableTwoFactor
  rw [run_bind_ok found]
  cases enabled user with
  | false => exact ⟨_, loaded, rfl, Or.inl ⟨_, rfl, loads.quiet⟩⟩
  | true =>
      simp only [Bool.not_true, Bool.false_eq_true, if_false]
      obtain ⟨result, checked, ranCheck, current, onError⟩ :=
        checkDisabling_spec crypto environment userId code
          (loads.quiet.coherent coherent)
      cases result with
      | error error =>
          rw [run_bind, ranCheck]
          exact ⟨_, checked, rfl, Or.inl ⟨error, rfl,
            loads.quiet.trans (onError error rfl)⟩⟩
      | ok =>
          obtain ⟨_, after, updated, wrote⟩ :=
            update_spec noUnique_cleared environment userId checked
          rw [run_bind_ok ranCheck, run_bind_ok updated]
          refine ⟨_, after, rfl, Or.inr ⟨rfl, wrote.coherent, ?_⟩⟩
          unfold storedHashes
          rw [wrote.profile current .twoFaRecoveryCodesHashes rfl]
          rfl

end TwoFactorService

end SpareSpace
