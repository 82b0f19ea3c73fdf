import SpareSpace.AccountOutcomes
import SpareSpace.UserCalls
import SpareSpace.CallPrograms

/-!
# User calls without interference

A call on one user whose program points run one after another with no other
call in between leaves the account that the service leaves, and returns or
throws as it does.
-/

namespace SpareSpace

open ColumnRecords InterleavedCalls Fallible

namespace UserCall

/-- The call has returned. -/
def Returned : UserCall → Prop
  | found _ | refused _ | updated _ | written _ => True
  | _ => False

/-- Run alone, the call computes the service. -/
abbrev Computes (crypto : Crypto) (environment : UserEnvironment) {α : Type}
    (call : UserCall) (service : AccountCall α) : Prop :=
  (userSystem crypto arrives).Computes environment Returned threw call service

abbrev Performs (crypto : Crypto) (environment : UserEnvironment) {α : Type}
    (call : UserCall) (first : AccountCall α) (rest : α → UserCall) : Prop :=
  (userSystem crypto arrives).Performs environment threw call first rest

variable {crypto : Crypto} {environment : UserEnvironment} {α β : Type}
  {call rest : UserCall}

/-- A step that writes the account. -/
theorem performs_updates (write : Account → Account)
    (moves : ∀ account, call.next crypto environment account =
      some (write account, rest)) :
    call.Performs crypto environment
      (updates fun account => .ok ((), write account)) fun _ => rest :=
  moves

/-- A call that writes nothing in its next step computes what it computes
afterwards. -/
theorem computes_next {service : AccountCall α}
    (moves : ∀ account, call.next crypto environment account =
      some (account, rest))
    (later : rest.Computes crypto environment service) :
    call.Computes crypto environment service := by
  have performs : call.Performs crypto environment (pure ()) fun _ => rest :=
    moves
  rw [← pure_bind () fun _ => service]
  exact performs.computes_bind fun _ _ _ _ => later

/-- Three steps read a row through the cache: the first looks the entry up, and
on a miss the second reads the row and the third fills the entry. -/
theorem computes_getOrSet (slot : Slot Account α) (ttlSec : Int)
    (compute : Account → α) (finding : UserCall) (filling moved : α → UserCall)
    {service : Option α → AccountCall β}
    (gets : ∀ account, call.next crypto environment account =
      some (account,
        (RedisService.get environment.now (slot.read account)).elim finding moved))
    (finds : ∀ account, finding.next crypto environment account =
      some (account, filling (compute account)))
    (fills : ∀ value account,
      (filling value).next crypto environment account =
        some (slot.write (RedisService.entry environment.now ttlSec value)
          account, moved value))
    (later : ∀ value,
      (moved value).Computes crypto environment (service (some value))) :
    call.Computes crypto environment
      (RedisService.getOrSet slot environment.now ttlSec
        (reads fun account => .ok (some (compute account))) >>= service) := by
  have looks : call.Performs crypto environment
      (reads fun account =>
        .ok (RedisService.get environment.now (slot.read account)))
      fun cached => cached.elim finding moved := gets
  have selects : finding.Performs crypto environment
      (reads fun account => .ok (some (compute account)))
      fun fresh => fresh.elim finding filling := finds
  simp only [RedisService.getOrSet, bind_assoc]
  refine looks.computes_bind fun cached _ _ _ => ?_
  cases cached with
  | some value =>
      simp only [pure_bind]
      exact later value
  | none =>
      simp only [bind_assoc]
      refine selects.computes_bind fun fresh account _ ran => ?_
      cases fresh with
      | none => simp at ran
      | some value =>
          simp only [bind_assoc, pure_bind]
          have fill : (filling value).Performs crypto environment
              (updates fun account => .ok ((), slot.write
                (RedisService.entry environment.now ttlSec value) account))
              fun _ => moved value := performs_updates _ (fills value)
          exact fill.computes_bind fun _ _ _ _ => later value

/-- A load, run alone, is `findById`. -/
theorem computes_load (purpose : LoadPurpose) (id : Nat)
    {service : PartialUser → AccountCall β}
    (later : ∀ user,
      (loaded crypto purpose user).Computes crypto environment (service user)) :
    (loading purpose .getProfile).Computes crypto environment
      (UsersService.findById environment id >>= service) := by
  simp only [UsersService.findById, bind_assoc]
  refine computes_getOrSet Account.profileSlot UsersService.profileCacheTtlSec
    (fun account => select UserColumn.inProfile account.row)
    (loading purpose .findProfile)
    (fun profileData => loading purpose (.setProfile profileData))
    (fun profileData => loading purpose (.getStatus profileData))
    (fun account => ?_) (fun _ => rfl) (fun _ _ => rfl) fun profileData => ?_
  · simp only [next, load, Account.profileSlot]
    cases RedisService.get environment.now account.profileCache <;> rfl
  · simp only [bind_assoc]
    refine computes_getOrSet Account.statusSlot UsersService.statusCacheTtlSec
      (fun account => select UserColumn.inStatus account.row)
      (loading purpose (.findStatus profileData))
      (fun statusData => loading purpose (.setStatus profileData statusData))
      (fun statusData =>
        loaded crypto purpose (UsersService.merge profileData statusData))
      (fun account => ?_) (fun _ => rfl) (fun _ _ => rfl) fun statusData => ?_
    · simp only [next, load, Account.statusSlot]
      cases RedisService.get environment.now account.statusCache <;> rfl
    · simp only [pure_bind]
      exact later (UsersService.merge profileData statusData)

/-- `findById`, run alone, is the service's. -/
theorem computes_findById (id : Nat) :
    findById.Computes crypto environment
      (UsersService.findById environment id) := by
  rw [← bind_pure (UsersService.findById environment id)]
  exact computes_load .findById id fun user => System.computes_pure user trivial

/-- From its load on, an update deletes the cached profile, saves and returns. -/
theorem computes_change (change : UserChange) (id : Nat)
    (value : PartialUser → α) :
    (loading (.update change) .getProfile).Computes crypto environment (do
      let user ← UsersService.findById environment id
      updates fun account => .ok ((), UsersService.deleteProfile account)
      updates fun account =>
        .ok ((), UsersService.save (overlay user change.patch) account)
      return value user) := by
  refine computes_load (.update change) id fun user => ?_
  have deletes : (deleting change user).Performs crypto environment
      (updates fun account => .ok ((), UsersService.deleteProfile account))
      fun _ => saving change user := performs_updates _ fun _ => rfl
  refine deletes.computes_bind fun _ _ _ _ => ?_
  have saves : (saving change user).Performs crypto environment
      (updates fun account =>
        .ok ((), UsersService.save (overlay user change.patch) account))
      fun _ => updated change := performs_updates _ fun _ => rfl
  exact saves.computes_bind fun _ _ _ _ => System.computes_pure _ trivial

/-- The checks that are left of an update, one after another. -/
theorem computes_checking (update : PartialUser) (columns : List UniqueColumn)
    {service : AccountCall α}
    (later : (loading (.update ⟨update, none⟩) .getProfile).Computes crypto
      environment service) :
    (checking update columns).Computes crypto environment (do
      columns.forM fun column =>
        lift (UsersService.checkUnique environment update column)
      service) := by
  induction columns with
  | nil => exact computes_next (fun _ => rfl) later
  | cons column columns ih =>
      have checks : (checking update (column :: columns)).Performs crypto
          environment (lift (UsersService.checkUnique environment update column))
          fun _ => checking update columns := by
        intro account
        simp only [userSystem, next, run_lift]
        cases UsersService.checkUnique environment update column <;> rfl
      rw [List.forM_eq_forM, List.forM_cons, bind_assoc]
      exact checks.computes_bind fun _ _ _ _ => ih

/-- An update, run alone, is the service's. -/
theorem computes_update (patch : PartialUser) (id : Nat) :
    (update patch).Computes crypto environment
      (UsersService.update environment id patch) :=
  computes_checking patch UniqueColumn.all
    (computes_change ⟨patch, none⟩ id fun user => overlay user patch)

/-- `validateRecoveryCode`, run alone, is the service's. -/
theorem computes_validateRecoveryCode (recoveryCode : String) (id : Nat) :
    (validateRecoveryCode recoveryCode).Computes crypto environment
      (TwoFactorService.validateRecoveryCode crypto environment id
        recoveryCode) := by
  refine computes_load (.validate recoveryCode) id fun user => ?_
  cases enabled : TwoFactorService.enabled user with
  | false =>
      simp only [loaded, enabled]
      exact System.computes_pure false trivial
  | true =>
      cases matched : TwoFactorService.consume crypto recoveryCode
          (TwoFactorService.recoveryHashes user) with
      | none =>
          simp only [loaded, enabled, matched]
          exact System.computes_pure false trivial
      | some newHashes =>
          have noChecks := UsersService.update_of_noUnique
            (TwoFactorService.noUnique_withHashes newHashes) environment id
          simp only [loaded, enabled, matched, noChecks, bind_assoc, pure_bind]
          exact computes_change ⟨_, _⟩ id fun _ => true

/-- From the check that the user exists, a status update writes its column and
deletes the cached profile. -/
theorem computes_statusUpdate (status : StatusUpdate) :
    (validateExistence status).Computes crypto environment
      (UsersService.updateColumns status.columns) := by
  refine computes_next (fun _ => rfl) ?_
  have writes : (writing status).Performs crypto environment
      (updates fun account => .ok ((), UsersService.save status.columns account))
      fun _ => invalidating status := performs_updates _ fun _ => rfl
  refine writes.computes_bind fun _ _ _ _ => ?_
  have deletes : (invalidating status).Performs crypto environment
      (updates fun account => .ok ((), UsersService.deleteProfile account))
      fun _ => written status.columns := performs_updates _ fun _ => rfl
  exact deletes.computes fun _ => trivial

/-- `updateVerifiedStatus`, run alone, is the service's. -/
theorem computes_updateVerifiedStatus (value : Bool) :
    (validateExistence (.verified value)).Computes crypto environment
      (UsersService.updateVerifiedStatus value) :=
  computes_statusUpdate (.verified value)

/-- `updateBanStatus`, run alone, is the service's. -/
theorem computes_updateBanStatus (isBanned : Bool) :
    (validateExistence (.ban isBanned)).Computes crypto environment
      (UsersService.updateBanStatus isBanned) :=
  computes_statusUpdate (.ban isBanned)

/-- `updateOnlineStatus`, run alone, is the service's. -/
theorem computes_updateOnlineStatus (isOnline : Bool) :
    (writingOnline isOnline).Computes crypto environment
      (UsersService.updateOnlineStatus environment isOnline) := by
  have writes : (writingOnline isOnline).Performs crypto environment
      (updates fun account => .ok ((), UsersService.save
        (UsersService.onlineStatus isOnline environment.now) account))
      fun _ => invalidatingStatus
        (UsersService.onlineStatus isOnline environment.now) :=
    performs_updates _ fun _ => rfl
  refine writes.computes_bind fun _ _ _ _ => ?_
  have deletes : (invalidatingStatus
      (UsersService.onlineStatus isOnline environment.now)).Performs crypto
      environment
      (updates fun account => .ok ((), UsersService.deleteStatus account))
      fun _ => written (UsersService.onlineStatus isOnline environment.now) :=
    performs_updates _ fun _ => rfl
  exact deletes.computes fun _ => trivial

end UserCall

end SpareSpace
