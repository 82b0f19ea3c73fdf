import SpareSpace.TwoFactorService
import SpareSpace.InterleavedCalls

/-!
# Interleaved calls on one user

The calls of the users service and of the recovery codes on one account, cut at
every cache and repository call.  A load goes through the two cache entries; an
update saves the user it has loaded with its own columns put over; the status
updates write their columns directly.
-/

namespace SpareSpace

open ColumnRecords InterleavedCalls UsersService TwoFactorService

/-- A recovery code that is to be taken off the list it was found in. -/
structure WriteOff where
  code : String
  hashes : List String
  deriving DecidableEq, Repr

/-- What an update sets, and the recovery code it writes off, if it is the
update of `validateRecoveryCode`. -/
structure UserChange where
  patch : PartialUser
  writeOff : Option WriteOff

/-- What a user is loaded for. -/
inductive LoadPurpose
  | findById
  | validate (recoveryCode : String)
  | update (change : UserChange)

/-- The points of `findById`, before its cache and repository calls. -/
inductive LoadPoint
  | getProfile
  | findProfile
  | setProfile (profileData : PartialUser)
  | getStatus (profileData : PartialUser)
  | findStatus (profileData : PartialUser)
  | setStatus (profileData statusData : PartialUser)

/-- `updateVerifiedStatus` and `updateBanStatus`. -/
inductive StatusUpdate
  | verified (verified : Bool)
  | ban (isBanned : Bool)
  deriving DecidableEq, Repr

def StatusUpdate.columns : StatusUpdate → PartialUser
  | verified value => verifiedStatus value
  | ban isBanned => banStatus isBanned

/-- The program points of the calls, each before the step it is named for. -/
inductive UserCall
  | checking (update : PartialUser) (columns : List UniqueColumn)
  | loading (purpose : LoadPurpose) (point : LoadPoint)
  | deleting (change : UserChange) (user : PartialUser)
  | saving (change : UserChange) (user : PartialUser)
  | validateExistence (status : StatusUpdate)
  | writing (status : StatusUpdate)
  | writingOnline (isOnline : Bool)
  | invalidating (status : StatusUpdate)
  | invalidatingStatus (columns : PartialUser)
  | found (user : PartialUser)
  | refused (recoveryCode : String)
  | updated (change : UserChange)
  | written (columns : PartialUser)
  | threw (error : HttpException)

namespace UserCall

variable (crypto : Crypto)

/-- What follows a load, up to the next cache or repository call. -/
def loaded (purpose : LoadPurpose) (user : PartialUser) : UserCall :=
  match purpose with
  | .findById => found user
  | .validate recoveryCode =>
      if !enabled user then
        refused recoveryCode
      else
        match consume crypto recoveryCode (recoveryHashes user) with
        | none => refused recoveryCode
        | some newHashes =>
            loading (.update ⟨withHashes newHashes,
              some ⟨recoveryCode, recoveryHashes user⟩⟩) .getProfile
  | .update change => deleting change user

/-- A step of `findById`. -/
def load (now : Int) (account : Account) (purpose : LoadPurpose) :
    LoadPoint → Account × UserCall
  | .getProfile =>
      match RedisService.get now account.profileCache with
      | some profileData => (account, loading purpose (.getStatus profileData))
      | none => (account, loading purpose .findProfile)
  | .findProfile =>
      (account, loading purpose
        (.setProfile (select UserColumn.inProfile account.row)))
  | .setProfile profileData =>
      ({ account with
          profileCache := RedisService.entry now profileCacheTtlSec profileData },
        loading purpose (.getStatus profileData))
  | .getStatus profileData =>
      match RedisService.get now account.statusCache with
      | some statusData =>
          (account, loaded crypto purpose (merge profileData statusData))
      | none => (account, loading purpose (.findStatus profileData))
  | .findStatus profileData =>
      (account, loading purpose (.setStatus profileData
        (select UserColumn.inStatus account.row)))
  | .setStatus profileData statusData =>
      ({ account with
          statusCache := RedisService.entry now statusCacheTtlSec statusData },
        loaded crypto purpose (merge profileData statusData))

def next (environment : UserEnvironment) (account : Account) :
    UserCall → Option (Account × UserCall)
  | checking update (column :: columns) =>
      match checkUnique environment update column with
      | .ok _ => some (account, checking update columns)
      | .error error => some (account, threw error)
  | checking update [] =>
      some (account, loading (.update ⟨update, none⟩) .getProfile)
  | loading purpose point =>
      some (load crypto environment.now account purpose point)
  | deleting change user => some (deleteProfile account, saving change user)
  | saving change user =>
      some (save (overlay user change.patch) account, updated change)
  | validateExistence status => some (account, writing status)
  | writing status => some (save status.columns account, invalidating status)
  | writingOnline isOnline =>
      some (save (onlineStatus isOnline environment.now) account,
        invalidatingStatus (onlineStatus isOnline environment.now))
  | invalidating status =>
      some (deleteProfile account, written status.columns)
  | invalidatingStatus columns => some (deleteStatus account, written columns)
  | found _ | refused _ | updated _ | written _ | threw _ => none

/-- The calls as they arrive. -/
def findById : UserCall :=
  loading .findById .getProfile

def validateRecoveryCode (recoveryCode : String) : UserCall :=
  loading (.validate recoveryCode) .getProfile

def update (update : PartialUser) : UserCall :=
  checking update UniqueColumn.all

/-- The calls that load a user, as they arrive. -/
def loads : UserCall → Bool
  | loading .findById .getProfile | loading (.validate _) .getProfile => true
  | _ => false

/-- The calls that write the profile, as they arrive. -/
def writesProfile : UserCall → Bool
  | checking _ columns => columns == UniqueColumn.all
  | validateExistence _ => true
  | _ => false

def writesOnline : UserCall → Bool
  | writingOnline _ => true
  | _ => false

/-- All calls on one user. -/
def arrives (call : UserCall) : Bool :=
  call.loads || call.writesProfile || call.writesOnline

/-- Whether the call has neither returned nor thrown. -/
def inFlight : UserCall → Bool
  | found _ | refused _ | updated _ | written _ | threw _ => false
  | _ => true

/-- What a step does to the row and to the cached profile. -/
inductive Effect (environment : UserEnvironment) (account after : Account) :
    UserCall → UserCall → Prop
  | conflict {update column columns error}
      (taken : checkUnique environment update column = .error error)
      (kept : after = account) :
      Effect environment account after (checking update (column :: columns))
        (threw error)
  | check {update column columns} (kept : after = account) :
      Effect environment account after (checking update (column :: columns))
        (checking update columns)
  | checked {update} (kept : after = account) :
      Effect environment account after (checking update [])
        (loading (.update ⟨update, none⟩) .getProfile)
  | load {purpose point later} (kept : after = account) :
      Effect environment account after (loading purpose point)
        (loading purpose later)
  | fill {purpose profileData} (row : after.row = account.row)
      (cache : after.profileCache = RedisService.entry environment.now
        profileCacheTtlSec profileData) :
      Effect environment account after
        (loading purpose (.setProfile profileData))
        (loading purpose (.getStatus profileData))
  | loaded {purpose point user} (row : after.row = account.row)
      (cache : after.profileCache = account.profileCache) :
      Effect environment account after (loading purpose point)
        (loaded crypto purpose user)
  | delete {change user} (row : after.row = account.row)
      (cache : after.profileCache = none) :
      Effect environment account after (deleting change user)
        (saving change user)
  | save {change user}
      (row : after.row = assign account.row (overlay user change.patch))
      (cache : after.profileCache = account.profileCache) :
      Effect environment account after (saving change user) (updated change)
  | exist {status} (kept : after = account) :
      Effect environment account after (validateExistence status)
        (writing status)
  | write {status} (row : after.row = assign account.row status.columns)
      (cache : after.profileCache = account.profileCache) :
      Effect environment account after (writing status) (invalidating status)
  | writeOnline {isOnline}
      (row : after.row =
        assign account.row (onlineStatus isOnline environment.now))
      (cache : after.profileCache = account.profileCache) :
      Effect environment account after (writingOnline isOnline)
        (invalidatingStatus (onlineStatus isOnline environment.now))
  | invalidate {status} (row : after.row = account.row)
      (cache : after.profileCache = none) :
      Effect environment account after (invalidating status)
        (written status.columns)
  | invalidateStatus {columns} (row : after.row = account.row)
      (cache : after.profileCache = account.profileCache) :
      Effect environment account after (invalidatingStatus columns)
        (written columns)

variable {crypto} {environment : UserEnvironment} {account after : Account}
  {call moved : UserCall}

theorem effect_of_load {purpose : LoadPurpose} {point : LoadPoint}
    (moves : load crypto environment.now account purpose point = (after, moved)) :
    Effect crypto environment account after (loading purpose point) moved := by
  cases point with
  | getProfile =>
      simp only [load] at moves
      split at moves <;>
        (obtain ⟨rfl, rfl⟩ := Prod.mk.inj moves; exact .load rfl)
  | findProfile =>
      obtain ⟨rfl, rfl⟩ := Prod.mk.inj moves
      exact .load rfl
  | setProfile profileData =>
      obtain ⟨rfl, rfl⟩ := Prod.mk.inj moves
      exact .fill rfl rfl
  | getStatus profileData =>
      simp only [load] at moves
      split at moves
      · obtain ⟨rfl, rfl⟩ := Prod.mk.inj moves
        exact .loaded rfl rfl
      · obtain ⟨rfl, rfl⟩ := Prod.mk.inj moves
        exact .load rfl
  | findStatus profileData =>
      obtain ⟨rfl, rfl⟩ := Prod.mk.inj moves
      exact .load rfl
  | setStatus profileData statusData =>
      obtain ⟨rfl, rfl⟩ := Prod.mk.inj moves
      exact .loaded rfl rfl

theorem effect_of_next
    (moves : next crypto environment account call = some (after, moved)) :
    Effect crypto environment account after call moved := by
  cases call with
  | checking update columns =>
      cases columns with
      | nil =>
          obtain ⟨rfl, rfl⟩ := Prod.mk.inj (Option.some.inj moves)
          exact .checked rfl
      | cons column columns =>
          simp only [next] at moves
          split at moves
          · obtain ⟨rfl, rfl⟩ := Prod.mk.inj (Option.some.inj moves)
            exact .check rfl
          · next error taken =>
              obtain ⟨rfl, rfl⟩ := Prod.mk.inj (Option.some.inj moves)
              exact .conflict taken rfl
  | loading purpose point => exact effect_of_load (Option.some.inj moves)
  | deleting change user =>
      obtain ⟨rfl, rfl⟩ := Prod.mk.inj (Option.some.inj moves)
      exact .delete rfl rfl
  | saving change user =>
      obtain ⟨rfl, rfl⟩ := Prod.mk.inj (Option.some.inj moves)
      exact .save rfl rfl
  | validateExistence status =>
      obtain ⟨rfl, rfl⟩ := Prod.mk.inj (Option.some.inj moves)
      exact .exist rfl
  | writing status =>
      obtain ⟨rfl, rfl⟩ := Prod.mk.inj (Option.some.inj moves)
      exact .write rfl rfl
  | writingOnline isOnline =>
      obtain ⟨rfl, rfl⟩ := Prod.mk.inj (Option.some.inj moves)
      exact .writeOnline rfl rfl
  | invalidating status =>
      obtain ⟨rfl, rfl⟩ := Prod.mk.inj (Option.some.inj moves)
      exact .invalidate rfl rfl
  | invalidatingStatus columns =>
      obtain ⟨rfl, rfl⟩ := Prod.mk.inj (Option.some.inj moves)
      exact .invalidateStatus rfl rfl
  | found | refused | updated | written | threw => contradiction

end UserCall

/-- The system in which the calls of some kinds arrive. -/
def userSystem (crypto : Crypto) (starts : UserCall → Bool) :
    System Account UserCall UserEnvironment where
  starts := starts
  next := UserCall.next crypto

/-- The call that moves is not about to save a user. -/
def UserCall.movesNoSave (config : Config Account UserCall) :
    Move UserCall UserEnvironment → Bool
  | .spawn _ => true
  | .act index _ =>
      match config.calls[index]? with
      | some (saving _ _) => false
      | _ => true

theorem UserCall.not_saving_of_movesNoSave {config : Config Account UserCall}
    {index : Nat} {environment : UserEnvironment} {change : UserChange}
    {user : PartialUser} (other : movesNoSave config (.act index environment) = true)
    (saves : config.calls[index]? = some (saving change user)) : False := by
  simp [movesNoSave, saves] at other

end SpareSpace
