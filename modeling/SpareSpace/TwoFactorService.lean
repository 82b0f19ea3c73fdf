import SpareSpace.UsersService

/-!
# The two-factor service on one account

A second factor is a TOTP secret, stored encrypted, with a list of hashed
recovery codes.  Enabling checks a code against a temporary secret kept in the
cache; disabling clears all three columns; a recovery code that is accepted is
taken off the list.  Hashing, encryption and TOTP come from libraries and are
arguments, as is whatever is drawn at random.
-/

namespace SpareSpace

open ColumnRecords Fallible

/-- The library functions of authentication. -/
structure Crypto where
  hmac : String → String
  bcryptHash : (salt data : String) → String
  bcryptCompare : (data hash : String) → Bool
  encrypt : (iv text : String) → String
  decrypt : String → Option String
  totpVerify : (token secret : String) → (now : Int) → Bool

/-- `bcrypt` looks at 72 bytes: a hash of shorter data is accepted for the
same data only. -/
def Crypto.ComparesOwn (crypto : Crypto) : Prop :=
  ∀ data salt other, other.utf8ByteSize < 72 →
    crypto.bcryptCompare data (crypto.bcryptHash salt other) = true →
      data = other

/-- Library functions that leave texts as they are. -/
def Crypto.plain : Crypto where
  hmac := id
  bcryptHash _ data := data
  bcryptCompare data hash := data == hash
  encrypt _ text := text
  decrypt := some
  totpVerify token secret _ := token == secret

theorem Crypto.plain_comparesOwn : Crypto.plain.ComparesOwn := by
  intro data salt other _ accepted
  exact eq_of_beq accepted

namespace TwoFactorService

def recoveryCodesCount : Nat := 10

def recoveryCodeLength : Nat := 10

def tempSecretTtlSec : Int := 3600

/-- A recovery code as it is drawn, with the salt of its hash.  A code is
written in hexadecimal digits, of one byte each. -/
structure RecoveryDraw where
  code : String
  salt : String
  size : code.utf8ByteSize = recoveryCodeLength

/-- What enabling and generating draw at random. -/
structure Draws where
  secret : String
  iv : String
  recovery : Fin recoveryCodesCount → RecoveryDraw

def Draws.codes (draws : Draws) : List String :=
  List.ofFn fun index => (draws.recovery index).code

def Draws.hashes (crypto : Crypto) (draws : Draws) : List String :=
  List.ofFn fun index =>
    crypto.bcryptHash (draws.recovery index).salt (draws.recovery index).code

/-- `user.twoFaEnabled` of a loaded user. -/
def enabled (user : PartialUser) : Bool :=
  (user .twoFaEnabled).getD false

/-- `user.twoFaSecret`, when it is truthy. -/
def storedSecret (user : PartialUser) : Option String :=
  (user .twoFaSecret).join.filter fun secret => secret != ""

/-- `user.twoFaRecoveryCodesHashes`; null has no elements. -/
def recoveryHashes (user : PartialUser) : List String :=
  (user .twoFaRecoveryCodesHashes).join.getD []

def enabledWith (secret : String) : PartialUser
  | .twoFaSecret => some (some secret)
  | .twoFaEnabled => some true
  | _ => none

def withHashes (hashes : List String) : PartialUser
  | .twoFaRecoveryCodesHashes => some (some hashes)
  | _ => none

def cleared : PartialUser
  | .twoFaEnabled => some false
  | .twoFaSecret => some none
  | .twoFaRecoveryCodesHashes => some none
  | _ => none

variable (crypto : Crypto) (environment : UserEnvironment) (userId : Nat)

/-- The secret is kept for an hour and returned; the link for the
authenticator application is left out. -/
def generateSecret (draws : Draws) : AccountCall String := do
  let user ← UsersService.findById environment userId
  if enabled user then
    throw (.badRequest "2FA is already enabled for this user")
  updates fun account => .ok ((), { account with
    tempSecret := RedisService.entry environment.now tempSecretTtlSec
      draws.secret })
  return draws.secret

def generateAndStoreRecoveryCodes (draws : Draws) :
    AccountCall (List String) := do
  let _ ← UsersService.update environment userId
    (withHashes (draws.hashes crypto))
  return draws.codes

def enableTwoFactor (draws : Draws) (code : String) :
    AccountCall (List String) := do
  let user ← UsersService.findById environment userId
  if enabled user then
    throw (.badRequest "2FA is already enabled")
  let tempSecret ← reads fun account =>
    .ok (RedisService.get environment.now account.tempSecret)
  match tempSecret.filter fun secret => secret != "" with
  | none =>
      throw (.badRequest "Temporary 2FA secret not found or expired.")
  | some tempSecret =>
      if !crypto.totpVerify code tempSecret environment.now then
        throw (.unauthorized "Invalid 2FA code")
      let _ ← UsersService.update environment userId
        (enabledWith (crypto.encrypt draws.iv tempSecret))
      let recoveryCodes ←
        generateAndStoreRecoveryCodes crypto environment userId draws
      updates fun account => .ok ((), { account with tempSecret := none })
      return recoveryCodes

/-- Whether a code is a valid TOTP for the secret of a loaded user. -/
def acceptsTotp (user : PartialUser) (code : String) : Bool :=
  match storedSecret user with
  | none => false
  | some secret =>
      match crypto.decrypt secret with
      | none => false
      | some secret => crypto.totpVerify code secret environment.now

def validateTwoFactorCode (code : String) : AccountCall Bool := do
  let user ← UsersService.findById environment userId
  return enabled user && acceptsTotp crypto environment user code

/-- The hashes that remain after the first one that accepts the code. -/
def consume (code : String) : List String → Option (List String)
  | [] => none
  | hash :: rest =>
      if crypto.bcryptCompare code hash then
        some rest
      else
        (consume code rest).map fun remaining => hash :: remaining

def validateRecoveryCode (recoveryCode : String) : AccountCall Bool := do
  let user ← UsersService.findById environment userId
  if !enabled user then
    return false
  match consume crypto recoveryCode (recoveryHashes user) with
  | none => return false
  | some newHashes =>
      let _ ← UsersService.update environment userId (withHashes newHashes)
      return true

/-- The check of a code given to `disableTwoFactor`; an absent or empty code
is not checked. -/
def checkDisabling (code : Option String) : AccountCall Unit :=
  match code.filter fun code => code != "" with
  | none => pure ()
  | some code => do
      if !(← validateTwoFactorCode crypto environment userId code) then
        if !(← validateRecoveryCode crypto environment userId code) then
          throw (.unauthorized "Invalid 2FA or recovery code")

def disableTwoFactor (code : Option String) : AccountCall Unit := do
  let user ← UsersService.findById environment userId
  if !enabled user then
    throw (.badRequest "2FA is not enabled for this user")
  checkDisabling crypto environment userId code
  let _ ← UsersService.update environment userId cleared
  return ()

end TwoFactorService

end SpareSpace
