import SpareSpace.AuthService
import SpareSpace.RelatedCalls

/-!
# The endpoints of the users controllers

A bearer token is verified, its user loaded and its roles read anew at every request; the
administrators' endpoints ask for the role `ADMIN`.  The endpoints of the second factor act
on the user of the token, and the other requests of the authentication stand beside them
without a token.  Of a user the response keeps the loaded entity, from which the mappers
pick columns.
-/

namespace SpareSpace

open Fallible

inductive ApiException
  | auth (error : AuthException)
  | forbidden (message : String)
  deriving DecidableEq, Repr

abbrev ApiCall := Fallible ApiException AuthState

/-- An `UpdateUserDto`; a field that is not given is undefined. -/
structure UpdateUserDto where
  firstName : Option String
  lastName : Option String
  patronymic : Option String
  phone : Option String
  email : Option String
  deriving DecidableEq, Repr

/-- The columns of a `Partial<User>`; other properties are not whitelisted. -/
def UpdateUserDto.columns (dto : UpdateUserDto) : PartialUser
  | .firstName => dto.firstName
  | .lastName => dto.lastName
  | .patronymic => dto.patronymic.map some
  | .phone => dto.phone
  | .email => dto.email.map some
  | _ => none

namespace UsersService

/-- `removeRole` has no caller; the status updates find their account first. -/
def onUser {α : Type} (userId : Nat) (call : AccountCall α) : ApiCall α :=
  ExceptT.adapt ApiException.auth (AuthState.onAccount userId (userNotFound userId) call)

end UsersService

/-- `JwtAuthGuard`: the user of a bearer token, and the user's roles. -/
def JwtAuthGuard.canActivate (environment : UserEnvironment) (bearer : Jwt) :
    ApiCall (Nat × List UserRoleType) :=
  ExceptT.adapt ApiException.auth do
    let payload ← JwtService.verify environment.now bearer "Unauthorized"
    JwtStrategy.validate environment payload

/-- `RolesGuard`: one of the required roles is among the user's. -/
def RolesGuard.canActivate (requiredRoles roles : List UserRoleType) : ApiCall Unit :=
  if requiredRoles.any fun role => roles.contains role then
    pure ()
  else
    throw (.forbidden "Forbidden resource")

namespace UsersController

variable (environment : UserEnvironment)

def getMyProfile (bearer : Jwt) : ApiCall PartialUser := do
  let (currentUserId, _) ← JwtAuthGuard.canActivate environment bearer
  UsersService.onUser currentUserId (UsersService.findById environment currentUserId)

def findOne (userId : Nat) : ApiCall PartialUser := do
  let user ← UsersService.onUser userId (UsersService.findById environment userId)
  if (user .isBanned).getD false then
    throw (.auth (.http (.notFound "User not found")))
  return user

def update (bearer : Jwt) (updateUserDto : UpdateUserDto) : ApiCall PartialUser := do
  let (currentUserId, _) ← JwtAuthGuard.canActivate environment bearer
  UsersService.onUser currentUserId
    (UsersService.update environment currentUserId updateUserDto.columns)

end UsersController

namespace UsersAdminController

variable (environment : UserEnvironment) (bearer : Jwt)

/-- The guards of the controller. -/
def guarded {α : Type} (call : ApiCall α) : ApiCall α := do
  let (_, roles) ← JwtAuthGuard.canActivate environment bearer
  RolesGuard.canActivate [.admin] roles
  call

def updateBanStatus (userId : Nat) (isBanned : Bool) : ApiCall Unit :=
  guarded environment bearer
    (UsersService.onUser userId (UsersService.updateBanStatus isBanned))

def updateVerifiedStatus (userId : Nat) (verified : Bool) : ApiCall Unit :=
  guarded environment bearer
    (UsersService.onUser userId (UsersService.updateVerifiedStatus verified))

end UsersAdminController

/-- The endpoints of the second factor that change it. -/
inductive TwoFactorRequest
  | generate
  | enable (code : String)
  | disable (code : Option String)
  deriving DecidableEq

/-- The service call for the user of the token. -/
def TwoFactorRequest.onUser (userId : Nat) : TwoFactorRequest → AuthRequest
  | generate => .generateSecret userId
  | enable code => .enableTwoFactor userId code
  | disable code => .disableTwoFactor userId code

/-- The requests that the controller of the second factor makes of its service. -/
def AuthRequest.onSecondFactor : AuthRequest → Bool
  | generateSecret _ | enableTwoFactor _ _ | disableTwoFactor _ _ => true
  | _ => false

/-- The requests of the authentication controller come without a token. -/
inductive ApiRequest
  | auth (request : AuthRequest) (isOpen : request.onSecondFactor = false)
  | twoFactor (bearer : Jwt) (request : TwoFactorRequest)
  | twoFactorStatus (bearer : Jwt)
  | getMyProfile (bearer : Jwt)
  | findOne (userId : Nat)
  | updateMyProfile (bearer : Jwt) (updateUserDto : UpdateUserDto)
  | updateBanStatus (bearer : Jwt) (userId : Nat) (isBanned : Bool)
  | updateVerifiedStatus (bearer : Jwt) (userId : Nat) (verified : Bool)

inductive ApiResponse
  | auth (response : AuthResponse)
  | user (user : PartialUser)
  | status (enabled : Bool)
  | ok

namespace TwoFactorController

variable (config : AuthConfig) (crypto : Crypto) (environment : AuthEnvironment) (bearer : Jwt)

/-- `generate`, `enable` and `disable`. -/
def change (request : TwoFactorRequest) : ApiCall AuthResponse := do
  let (currentUserId, _) ← JwtAuthGuard.canActivate environment.toUserEnvironment bearer
  ExceptT.adapt ApiException.auth
    ((request.onUser currentUserId).serve config crypto environment)

def status : ApiCall Bool := do
  let (currentUserId, _) ← JwtAuthGuard.canActivate environment.toUserEnvironment bearer
  let user ← UsersService.onUser currentUserId
    (UsersService.findById environment.toUserEnvironment currentUserId)
  return (user .twoFaEnabled).getD false

end TwoFactorController

namespace ApiRequest

def call (config : AuthConfig) (crypto : Crypto) (environment : AuthEnvironment) :
    ApiRequest → ApiCall ApiResponse
  | auth request _ => do
      return .auth (← ExceptT.adapt ApiException.auth (request.serve config crypto environment))
  | twoFactor bearer request => do
      return .auth (← TwoFactorController.change config crypto environment bearer request)
  | twoFactorStatus bearer => do
      return .status (← TwoFactorController.status environment bearer)
  | getMyProfile bearer => do
      return .user (← UsersController.getMyProfile environment.toUserEnvironment bearer)
  | findOne userId => do
      return .user (← UsersController.findOne environment.toUserEnvironment userId)
  | updateMyProfile bearer updateUserDto => do
      return .user
        (← UsersController.update environment.toUserEnvironment bearer updateUserDto)
  | updateBanStatus bearer userId isBanned => do
      UsersAdminController.updateBanStatus environment.toUserEnvironment bearer userId isBanned
      return .ok
  | updateVerifiedStatus bearer userId verified => do
      UsersAdminController.updateVerifiedStatus environment.toUserEnvironment bearer userId
        verified
      return .ok

/-- A whole request: what it answers and the state it leaves. -/
def serve (config : AuthConfig) (crypto : Crypto) (state : AuthState)
    (request : AuthEnvironment × ApiRequest) :
    Except ApiException ApiResponse × AuthState :=
  run (request.2.call config crypto request.1) state

/-- The bearer token that a request comes with. -/
def bearer : ApiRequest → Option Jwt
  | twoFactor bearer _ | twoFactorStatus bearer => some bearer
  | getMyProfile bearer | updateMyProfile bearer _ => some bearer
  | updateBanStatus bearer _ _ | updateVerifiedStatus bearer _ _ => some bearer
  | auth _ _ | findOne _ => none

end ApiRequest

end SpareSpace
