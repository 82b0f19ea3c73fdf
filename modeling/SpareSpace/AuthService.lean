import SpareSpace.TwoFactorService
import SpareSpace.KeyedTable
import SpareSpace.ScriptTexts

/-!
# The authentication service

Whole requests over the users, the refresh tokens, the digits of flash calls
kept in the cache and the tokens signed so far.  A signed token verifies when
the server has signed it and its time is not over, which is what a signature
that nobody can forge means.
-/

namespace SpareSpace

open ColumnRecords Fallible ScriptTexts

structure AuthState where
  accounts : KeyedTable UserAccount UserAccount.id
  refreshTokens : KeyedTable RefreshToken RefreshToken.id
  flashCalls : String → Cached String
  signed : List Jwt

/-- No users, no tokens and nothing in the cache. -/
def AuthState.empty : AuthState :=
  ⟨.empty, .empty, fun _ => none, []⟩

inductive AuthException
  | http (error : HttpException)
  | internalServerError (message : String)
  deriving DecidableEq, Repr

abbrev AuthCall := Fallible AuthException AuthState

/-- The configuration of the service; `jwtExpiresIn` is in seconds. -/
structure AuthConfig where
  refreshTokenExpiryDays : Int
  jwtExpiresIn : Int
  flashCallDebug : Bool
  deriving DecidableEq, Repr

/-- What the call provider answers; `failed` stands for a failed request. -/
inductive ProviderResponse
  | ok (code : String)
  | refused
  | failed
  deriving DecidableEq, Repr

/-- What a request finds outside the state, random draws included. -/
structure AuthEnvironment extends UserEnvironment where
  provider : ProviderResponse
  refreshToken : String
  passwordSalt : String
  draws : TwoFactorService.Draws

inductive AuthResponse
  | done
  | registerToken (token : Jwt)
  | twoFactorToken (token : Jwt)
  | tokens (accessToken : Jwt) (refreshToken : String)
  | secret (secret : String)
  | recoveryCodes (codes : List String)
  deriving DecidableEq, Repr

structure CompleteRegistrationDto where
  registerToken : Jwt
  firstName : String
  lastName : String
  patronymic : Option String
  password : String
  deriving DecidableEq, Repr

structure LoginDto where
  phone : Option String
  email : Option String
  password : String
  deriving DecidableEq, Repr

/-- `phone.replace(/[\s\-\(\)]/g, '')`. -/
def cleanPhoneNumber (phone : String) : String :=
  String.ofList (phone.toList.filter fun character =>
    !(isWhiteSpace character || character == '-' || character == '(' ||
      character == ')'))

/-- `text.length`, which counts UTF-16 units. -/
def utf16Length (text : String) : Nat :=
  (text.toList.map fun character =>
    if character.toNat < 0x10000 then 1 else 2).sum

namespace AuthState

/-- Run a call on a user's account. -/
def onAccount {α : Type} (userId : Nat) (missing : HttpException)
    (call : AccountCall α) : AuthCall α :=
  ExceptT.mk fun state =>
    match state.accounts.find? userId with
    | none => (.error (.http missing), state)
    | some found =>
        let (result, account) := run call found.account
        (result.mapError AuthException.http,
          { state with accounts := state.accounts.save ⟨userId, account⟩ })

/-- `userRepository.findOneBy({ phone })`. -/
def findByPhone (state : AuthState) (phone : String) : Option UserAccount :=
  state.accounts.rows.find? fun user => user.account.row .phone == phone

/-- `userRepository.findOneBy({ email })`. -/
def findByEmail (state : AuthState) (email : String) : Option UserAccount :=
  state.accounts.rows.find? fun user => user.account.row .email == some email

/-- `tokenRepository.findOne` by the hash of the token presented. -/
def findToken (state : AuthState) (tokenHash : String) : Option RefreshToken :=
  state.refreshTokens.rows.find? fun token => token.tokenHash == tokenHash

end AuthState

namespace JwtService

/-- `jwtService.sign` with a life time in seconds. -/
def token (now expiresIn : Int) (payload : JwtPayload) : Jwt :=
  ⟨payload, now / 1000 + expiresIn⟩

def sign (now expiresIn : Int) (payload : JwtPayload) : AuthCall Jwt :=
  updates fun state => .ok (token now expiresIn payload,
    { state with signed := token now expiresIn payload :: state.signed })

/-- The token's time is not over. -/
def unexpired (now : Int) (token : Jwt) : Bool :=
  decide (now / 1000 < token.exp)

def verify (now : Int) (token : Jwt) (message : String) :
    AuthCall JwtPayload :=
  reads fun state =>
    if state.signed.contains token && unexpired now token then
      .ok token.payload
    else
      .error (.http (.unauthorized message))

end JwtService

namespace UsersService

/-- `userRepository.save` of a new user, whose phone must be new. -/
def create (row : User) : AuthCall Nat :=
  updates fun state =>
    if (state.findByPhone (row .phone)).isSome then
      .error (.http (.database "users_phone_key"))
    else
      .ok (state.accounts.nextId, { state with
        accounts := state.accounts.insert (newAccount row) (newAccount_id row) })

end UsersService

namespace AuthService

open AuthState TwoFactorService

def flashCallCacheTtlSec : Int := 300

/-- `expiresIn: '10m'` and `'5m'`. -/
def registerTokenTtlSec : Int := 600

def twoFactorTokenTtlSec : Int := 300

variable (config : AuthConfig) (crypto : Crypto) (environment : AuthEnvironment)

/-- The digits of a new call, from the provider unless in debug mode. -/
def orderCall : Except AuthException String :=
  if config.flashCallDebug then
    .ok "0000"
  else
    match environment.provider with
    | .ok code => .ok code
    | .refused =>
        .error (.internalServerError "Не удалось инициировать звонок")
    | .failed => .error (.internalServerError "Ошибка при запросе звонка")

def requestFlashCall (phone : String) : AuthCall Unit := do
  let lastFourDigits ← lift (orderCall config environment)
  updates fun state => .ok ((), { state with
    flashCalls := Function.update state.flashCalls (cleanPhoneNumber phone)
      (RedisService.entry environment.now flashCallCacheTtlSec lastFourDigits) })

/-- The cached digits, when they are truthy. -/
def cachedDigits (state : AuthState) (cleanedPhone : String) : Option String :=
  (RedisService.get environment.now (state.flashCalls cleanedPhone)).filter
    fun digits => digits != ""

/-- The check of the digits that `verifyFlashCall` is given. -/
def checkDigits (state : AuthState) (cleanedPhone lastFourDigits : String) :
    Except AuthException Unit :=
  if cachedDigits environment state cleanedPhone ≠ some lastFourDigits ∧
      lastFourDigits ≠ "0000" then
    .error (.http
      (.unauthorized "Invalid or expired phone verification digits"))
  else
    .ok ()

/-- The row a new refresh token is stored in. -/
def refreshTokenRow (userId id : Nat) : RefreshToken where
  id := id
  userId := userId
  tokenHash := crypto.hmac environment.refreshToken
  expiresAt := environment.now +
    config.refreshTokenExpiryDays * 24 * 60 * 60 * 1000
  revoked := false

theorem refreshTokenRow_id (userId id : Nat) :
    (refreshTokenRow config crypto environment userId id).id = id :=
  rfl

def issueTokens (userId : Nat) : AuthCall AuthResponse := do
  let roles ← onAccount userId (.database "refresh_tokens_user_id_fkey")
    (UsersService.getUserRoles environment.toUserEnvironment)
  let accessToken ← JwtService.sign environment.now config.jwtExpiresIn
    (.access userId roles)
  updates fun state => .ok ((), { state with
    refreshTokens := state.refreshTokens.insert
      (refreshTokenRow config crypto environment userId)
      (refreshTokenRow_id config crypto environment userId) })
  return .tokens accessToken environment.refreshToken

/-- What follows a checked password or phone: tokens, or a token for the
second factor. -/
def signIn (user : UserAccount) : AuthCall AuthResponse := do
  if user.account.row .twoFaEnabled then
    let twoFactorToken ← JwtService.sign environment.now twoFactorTokenTtlSec
      (.twoFactor user.id)
    return .twoFactorToken twoFactorToken
  issueTokens config crypto environment user.id

def verifyFlashCall (phone lastFourDigits : String) : AuthCall AuthResponse := do
  let cleanedPhone := cleanPhoneNumber phone
  reads fun state =>
    checkDigits environment state cleanedPhone lastFourDigits
  updates fun state => .ok ((), { state with
    flashCalls := Function.update state.flashCalls cleanedPhone none })
  match ← reads fun state => .ok (state.findByPhone cleanedPhone) with
  | none =>
      let registerToken ← JwtService.sign environment.now registerTokenTtlSec
        (.register cleanedPhone)
      return .registerToken registerToken
  | some user => signIn config crypto environment user

def completeRegistration (dto : CompleteRegistrationDto) :
    AuthCall AuthResponse := do
  let payload ← JwtService.verify environment.now dto.registerToken
    "Invalid or expired register token"
  match payload with
  | .register phone =>
      let passwordHash := crypto.bcryptHash environment.passwordSalt dto.password
      let userId ← UsersService.create (UsersService.newRow phone passwordHash
        dto.firstName dto.lastName dto.patronymic environment.now)
      onAccount userId (UsersService.userNotFound userId)
        (UsersService.addRole environment.toUserEnvironment .renter)
      onAccount userId (UsersService.userNotFound userId)
        (UsersService.addRole environment.toUserEnvironment .landlord)
      issueTokens config crypto environment userId
  | _ => throw (.http (.unauthorized "Invalid token type"))

/-- The user a login names, by phone when one is given. -/
def findLogin (dto : LoginDto) (state : AuthState) :
    Except AuthException UserAccount :=
  let invalid := .error (.http (.unauthorized "Invalid credentials"))
  match dto.phone.filter fun phone => phone != "" with
  | some phone =>
      match state.findByPhone (cleanPhoneNumber phone) with
      | some user => .ok user
      | none => invalid
  | none =>
      match dto.email.filter fun email => email != "" with
      | some email =>
          match state.findByEmail email with
          | some user => .ok user
          | none => invalid
      | none => invalid

def login (dto : LoginDto) : AuthCall AuthResponse := do
  let user ← reads (findLogin dto)
  if !crypto.bcryptCompare dto.password (user.account.row .passwordHash) then
    throw (.http (.unauthorized "Invalid credentials"))
  signIn config crypto environment user

/-- The checks of a presented refresh token, in their order. -/
def checkRefreshToken (now : Int) (revokedMessage : String)
    (found : Option RefreshToken) : Except HttpException RefreshToken :=
  match found with
  | none => .error (.unauthorized "Refresh token not found")
  | some token =>
      if token.expiresAt < now then
        .error (.unauthorized "Refresh token expired")
      else if token.revoked then
        .error (.unauthorized revokedMessage)
      else
        .ok token

/-- `tokenRepository.update(token.id, { revoked: true })`. -/
def revoke (tokens : KeyedTable RefreshToken RefreshToken.id) (id : Nat) :
    KeyedTable RefreshToken RefreshToken.id :=
  tokens.mapRows
    (fun row => if row.id = id then { row with revoked := true } else row)
    (by intro row; split <;> rfl)

/-- Find a presented token, check it and revoke it. -/
def spend (refreshToken revokedMessage : String) : AuthCall RefreshToken := do
  let token ← reads fun state =>
    (checkRefreshToken environment.now revokedMessage
      (state.findToken (crypto.hmac refreshToken))).mapError AuthException.http
  updates fun state => .ok ((), { state with
    refreshTokens := revoke state.refreshTokens token.id })
  return token

def refresh (refreshToken : String) : AuthCall AuthResponse := do
  let token ← spend crypto environment refreshToken "Refresh token revoked"
  issueTokens config crypto environment token.userId

def logout (refreshToken : String) : AuthCall AuthResponse := do
  let _ ← spend crypto environment refreshToken "Refresh token already revoked"
  return .done

/-- A code of six characters is a TOTP, one of ten a recovery code. -/
def validateCode (userId : Nat) (code : String) : AuthCall Bool :=
  if utf16Length code = 6 then
    onAccount userId (UsersService.userNotFound userId)
      (validateTwoFactorCode crypto environment.toUserEnvironment userId code)
  else if utf16Length code = 10 then
    onAccount userId (UsersService.userNotFound userId)
      (validateRecoveryCode crypto environment.toUserEnvironment userId code)
  else
    throw (.http (.badRequest ("Code length must be 6 symbols(TOTP code) or " ++
      s!"10 symbols(Recovery code). Actual code length: {utf16Length code}")))

def verifyTwoFactor (twoFactorAuthToken : Jwt) (code : String) :
    AuthCall AuthResponse := do
  let payload ← JwtService.verify environment.now twoFactorAuthToken
    "Invalid or expired two-factor token"
  match payload with
  | .twoFactor userId =>
      if !(← validateCode crypto environment userId code) then
        throw (.http (.unauthorized "Invalid code"))
      issueTokens config crypto environment userId
  | _ => throw (.http (.unauthorized "Invalid token type"))

end AuthService

/-- `JwtStrategy.validate`: the user a bearer token stands for. -/
def JwtStrategy.validate (environment : UserEnvironment)
    (payload : JwtPayload) : AuthCall (Nat × List UserRoleType) :=
  match payload with
  | .twoFactor _ | .register _ =>
      throw (.http (.unauthorized "Invalid token type"))
  | .access userId _ => do
      if userId = 0 then
        throw (.http (.unauthorized "Invalid token payload"))
      let user ← AuthState.onAccount userId (UsersService.userNotFound userId)
        (UsersService.findById environment userId)
      if (user .isBanned).getD false then
        throw (.http (.unauthorized "Account is banned"))
      let roles ← AuthState.onAccount userId (UsersService.userNotFound userId)
        (UsersService.getUserRoles environment)
      if roles.isEmpty then
        throw (.http (.unauthorized "User has no assigned roles"))
      return (userId, roles)

/-- The requests of the authentication and two-factor endpoints. -/
inductive AuthRequest
  | requestFlashCall (phone : String)
  | verifyFlashCall (phone lastFourDigits : String)
  | completeRegistration (dto : CompleteRegistrationDto)
  | login (dto : LoginDto)
  | refresh (refreshToken : String)
  | logout (refreshToken : String)
  | verifyTwoFactor (twoFactorToken : Jwt) (code : String)
  | generateSecret (userId : Nat)
  | enableTwoFactor (userId : Nat) (code : String)
  | disableTwoFactor (userId : Nat) (code : Option String)
  deriving DecidableEq

/-- The service call that serves a request. -/
def AuthRequest.serve (config : AuthConfig) (crypto : Crypto)
    (environment : AuthEnvironment) : AuthRequest → AuthCall AuthResponse
  | requestFlashCall phone => do
      AuthService.requestFlashCall config environment phone
      return .done
  | verifyFlashCall phone lastFourDigits =>
      AuthService.verifyFlashCall config crypto environment phone lastFourDigits
  | completeRegistration dto =>
      AuthService.completeRegistration config crypto environment dto
  | login dto => AuthService.login config crypto environment dto
  | refresh refreshToken =>
      AuthService.refresh config crypto environment refreshToken
  | logout refreshToken => AuthService.logout crypto environment refreshToken
  | verifyTwoFactor twoFactorToken code =>
      AuthService.verifyTwoFactor config crypto environment twoFactorToken code
  | generateSecret userId => do
      let secret ← AuthState.onAccount userId (UsersService.userNotFound userId)
        (TwoFactorService.generateSecret environment.toUserEnvironment userId
          environment.draws)
      return .secret secret
  | enableTwoFactor userId code => do
      let codes ← AuthState.onAccount userId (UsersService.userNotFound userId)
        (TwoFactorService.enableTwoFactor crypto environment.toUserEnvironment
          userId environment.draws code)
      return .recoveryCodes codes
  | disableTwoFactor userId code => do
      AuthState.onAccount userId (UsersService.userNotFound userId)
        (TwoFactorService.disableTwoFactor crypto environment.toUserEnvironment
          userId code)
      return .done

end SpareSpace
