import SpareSpace.Entities
import SpareSpace.ColumnRecords
import SpareSpace.RedisService

/-!
# Users, their tokens and their cache entries

A user row is a record by column.  A loaded user entity is a patch: the select
lists of the queries decide which columns it has, and saving it writes exactly
those.  An account is a user row together with the rows and cache entries that
belong to this user alone.  The time stamps `createdAt` and `updatedAt` are
left out.
-/

namespace SpareSpace

open ColumnRecords

inductive UserColumn
  | phone
  | email
  | firstName
  | lastName
  | patronymic
  | avatarUrl
  | passwordHash
  | renterRating
  | landlordRating
  | renterReviewCount
  | landlordReviewCount
  | isOnline
  | lastSeenAt
  | telegramId
  | telegramChatId
  | telegramUsername
  | verified
  | isBanned
  | twoFaEnabled
  | twoFaSecret
  | twoFaRecoveryCodesHashes
  deriving DecidableEq, Repr

/-- The type of a column; ratings are counted in hundredths. -/
abbrev UserColumn.Value : UserColumn → Type
  | phone | firstName | lastName | passwordHash => String
  | email | patronymic | avatarUrl | telegramUsername | twoFaSecret =>
      Option String
  | renterRating | landlordRating => Option Nat
  | renterReviewCount | landlordReviewCount => Nat
  | lastSeenAt => Int
  | telegramId | telegramChatId => Option Int
  | isOnline | verified | isBanned | twoFaEnabled => Bool
  | twoFaRecoveryCodesHashes => Option (List String)

/-- A row of the `users` table, without its id. -/
abbrev User := Record UserColumn.Value

/-- A `Partial<User>`, and a user entity with the columns it was loaded with. -/
abbrev PartialUser := Patch UserColumn.Value

/-- The enumeration's text, as keys and messages show it. -/
def UserRoleType.text : UserRoleType → String
  | renter => "RENTER"
  | landlord => "LANDLORD"
  | admin => "ADMIN"

/-- The columns of the profile query. -/
def UserColumn.inProfile : UserColumn → Bool
  | isOnline | lastSeenAt | telegramUsername => false
  | _ => true

/-- The columns of the status query. -/
def UserColumn.inStatus : UserColumn → Bool
  | isOnline | lastSeenAt => true
  | _ => false

/-- What belongs to one user: the row, the roles, and the values kept under
`user:profile:{id}`, `user:status:{id}`, `user:roles:{id}` and
`2fa:temp:{id}`. -/
structure Account where
  row : User
  roles : List UserRoleType
  profileCache : Cached PartialUser
  statusCache : Cached PartialUser
  rolesCache : Cached (List UserRoleType)
  tempSecret : Cached String

namespace Account

def profileSlot : Slot Account PartialUser :=
  ⟨profileCache, fun cached account => { account with profileCache := cached }⟩

def statusSlot : Slot Account PartialUser :=
  ⟨statusCache, fun cached account => { account with statusCache := cached }⟩

def rolesSlot : Slot Account (List UserRoleType) :=
  ⟨rolesCache, fun cached account => { account with rolesCache := cached }⟩

end Account

/-- A user's id and what belongs to the user. -/
structure UserAccount where
  id : Nat
  account : Account

/-- The columns that no two users may share. -/
inductive UniqueColumn
  | phone
  | email
  | telegramId
  | telegramChatId
  deriving DecidableEq, Repr

namespace UniqueColumn

/-- Whether an update gives the column a truthy value. -/
def given (update : PartialUser) : UniqueColumn → Bool
  | phone => (update .phone).any fun value => value != ""
  | email => (update .email).join.any fun value => value != ""
  | telegramId => (update .telegramId).join.any fun value => value != 0
  | telegramChatId => (update .telegramChatId).join.any fun value => value != 0

def message : UniqueColumn → String
  | phone => "Phone already exists"
  | email => "Email already exists"
  | telegramId => "Telegram id already exists"
  | telegramChatId => "Telegram chat already exists"

/-- The columns in the order in which an update checks them. -/
def all : List UniqueColumn :=
  [phone, email, telegramId, telegramChatId]

end UniqueColumn

/-- What a call on one account finds outside it: the clock, and whether some
row already has the value that an update gives a unique column. -/
structure UserEnvironment where
  now : Int
  taken : UniqueColumn → Bool

/-- Time zero, with no value taken. -/
def UserEnvironment.atZero : UserEnvironment :=
  ⟨0, fun _ => false⟩

structure RefreshToken where
  id : Nat
  userId : Nat
  tokenHash : String
  expiresAt : Int
  revoked : Bool
  deriving DecidableEq, Repr

/-- The payloads the server signs. -/
inductive JwtPayload
  | access (sub : Nat) (roles : List UserRoleType)
  | twoFactor (sub : Nat)
  | register (phone : String)
  deriving DecidableEq, Repr

/-- A signed token; `exp` is in seconds. -/
structure Jwt where
  payload : JwtPayload
  exp : Int
  deriving DecidableEq, Repr

end SpareSpace
