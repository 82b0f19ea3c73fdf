import SpareSpace.UserEntities

/-!
# The users service on one account

Reading a user goes through two cache entries, one for the profile and one for
the online status.  An update reads the user this way, deletes the cached
profile, assigns its columns and saves the whole entity; the status updates
write their columns directly and delete the cache entry afterwards.
-/

namespace SpareSpace

open ColumnRecords Fallible

/-- A call on the account of one user. -/
abbrev AccountCall := Fallible HttpException Account

namespace UsersService

def profileCacheTtlSec : Int := 3600

def statusCacheTtlSec : Int := 3600

def rolesCacheTtlSec : Int := 3600

/-- The row of a new user: the given columns and the defaults. -/
def newRow (phone passwordHash firstName lastName : String)
    (patronymic : Option String) (now : Int) : User
  | .phone => phone
  | .passwordHash => passwordHash
  | .firstName => firstName
  | .lastName => lastName
  | .patronymic => patronymic
  | .email | .avatarUrl | .telegramUsername | .twoFaSecret => none
  | .renterRating | .landlordRating => none
  | .renterReviewCount | .landlordReviewCount => (0 : Nat)
  | .lastSeenAt => now
  | .telegramId | .telegramChatId => none
  | .isOnline | .verified | .isBanned | .twoFaEnabled => false
  | .twoFaRecoveryCodesHashes => none

/-- A new user has no roles and nothing cached. -/
def newAccount (row : User) (id : Nat) : UserAccount :=
  ⟨id, ⟨row, [], none, none, none, none⟩⟩

theorem newAccount_id (row : User) (id : Nat) : (newAccount row id).id = id :=
  rfl

/-- `userRepository.findOne` with the select list of the profile. -/
def findProfile (account : Account) : Option PartialUser :=
  some (select UserColumn.inProfile account.row)

/-- `userRepository.findOne` with the select list of the status. -/
def findStatus (account : Account) : Option PartialUser :=
  some (select UserColumn.inStatus account.row)

/-- `{ ...profileData, isOnline, lastSeenAt }`. -/
def merge (profileData statusData : PartialUser) : PartialUser :=
  fun column =>
    if column.inStatus then statusData column else profileData column

def userNotFound (id : Nat) : HttpException :=
  .notFound s!"User {id} not found"

def findById (environment : UserEnvironment) (id : Nat) :
    AccountCall PartialUser := do
  match ← RedisService.getOrSet Account.profileSlot environment.now
      profileCacheTtlSec (reads fun account => .ok (findProfile account)) with
  | none => throw (userNotFound id)
  | some profileData =>
      match ← RedisService.getOrSet Account.statusSlot environment.now
          statusCacheTtlSec (reads fun account => .ok (findStatus account)) with
      | none => throw (userNotFound id)
      | some statusData => return merge profileData statusData

/-- One of the four checks of an update. -/
def checkUnique (environment : UserEnvironment) (update : PartialUser)
    (column : UniqueColumn) : Except HttpException Unit :=
  if column.given update && environment.taken column then
    .error (.conflict column.message)
  else
    .ok ()

/-- `redisService.delete` of the cached profile. -/
def deleteProfile (account : Account) : Account :=
  { account with profileCache := none }

def deleteStatus (account : Account) : Account :=
  { account with statusCache := none }

/-- `userRepository.save` of an entity: the columns it has are written over
the row. -/
def save (entity : PartialUser) (account : Account) : Account :=
  { account with row := assign account.row entity }

def update (environment : UserEnvironment) (id : Nat)
    (update : PartialUser) : AccountCall PartialUser := do
  UniqueColumn.all.forM fun column =>
    lift (checkUnique environment update column)
  let user ← findById environment id
  updates fun account => .ok ((), deleteProfile account)
  updates fun account => .ok ((), save (overlay user update) account)
  return overlay user update

/-- The columns written by `updateOnlineStatus`. -/
def onlineStatus (isOnline : Bool) (now : Int) : PartialUser
  | .isOnline => some isOnline
  | .lastSeenAt => some now
  | _ => none

def verifiedStatus (verified : Bool) : PartialUser
  | .verified => some verified
  | _ => none

def banStatus (isBanned : Bool) : PartialUser
  | .isBanned => some isBanned
  | _ => none

def updateOnlineStatus (environment : UserEnvironment) (isOnline : Bool) :
    AccountCall Unit := do
  updates fun account =>
    .ok ((), save (onlineStatus isOnline environment.now) account)
  updates fun account => .ok ((), deleteStatus account)

/-- The common body of `updateVerifiedStatus` and `updateBanStatus`; the
account they name exists. -/
def updateColumns (columns : PartialUser) : AccountCall Unit := do
  updates fun account => .ok ((), save columns account)
  updates fun account => .ok ((), deleteProfile account)

def updateVerifiedStatus (verified : Bool) : AccountCall Unit :=
  updateColumns (verifiedStatus verified)

def updateBanStatus (isBanned : Bool) : AccountCall Unit :=
  updateColumns (banStatus isBanned)

def getUserRoles (environment : UserEnvironment) :
    AccountCall (List UserRoleType) := do
  match ← RedisService.getOrSet Account.rolesSlot environment.now
      rolesCacheTtlSec (reads fun account => .ok (some account.roles)) with
  | some roles => return roles
  | none => return []

def hasRole (environment : UserEnvironment) (role : UserRoleType) :
    AccountCall Bool := do
  let roles ← getUserRoles environment
  return roles.contains role

def addRole (environment : UserEnvironment) (role : UserRoleType) :
    AccountCall Unit := do
  if ← hasRole environment role then
    throw (.conflict s!"Role {role.text} already exists for user")
  updates fun account =>
    .ok ((), { account with roles := account.roles ++ [role] })
  updates fun account => .ok ((), { account with rolesCache := none })

end UsersService

end SpareSpace
