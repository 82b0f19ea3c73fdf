import SpareSpace.AuthOutcomes

/-!
# Sockets and bearer tokens

A socket is let in by a middleware that verifies the token of its handshake
and takes the user and the roles from the payload; a request is let in by a
strategy that looks the user up, refuses a banned one and reads the roles.
Both load the user through the same cache entries.  They agree on a token
exactly when the user is not banned and still has the roles of the token.
-/

namespace SpareSpace

open ColumnRecords Fallible AuthState

/-- The message of a caught exception. -/
def AuthException.text : AuthException → String
  | http (.badRequest message) | http (.unauthorized message)
  | http (.notFound message) | http (.conflict message)
  | http (.database message) | internalServerError message => message

/-- The places of a handshake that may hold a token. -/
structure Handshake where
  authToken : Option Jwt
  authorization : Option Jwt
  queryToken : Option Jwt
  deriving DecidableEq, Repr

/-- The first place that holds a token gives it. -/
def Handshake.token (handshake : Handshake) : Option Jwt :=
  handshake.authToken <|> handshake.authorization <|> handshake.queryToken

/-- What the middleware keeps in `client.data.user`. -/
structure SocketUser where
  userId : Nat
  roles : List UserRoleType
  deriving DecidableEq, Repr

/-- A call of the middleware, of whose exceptions only the text is used. -/
abbrev SocketCall := Fallible String AuthState

namespace WsAuthMiddleware

/-- The user id of a payload, unless it is missing or zero. -/
def subjectOf (clientId : String) (payload : JwtPayload) : Except String Nat :=
  match payload with
  | .access sub _ | .twoFactor sub =>
      if sub = 0 then
        .error s!"Invalid token payload; client.id: {clientId}"
      else
        .ok sub
  | .register _ => .error s!"Invalid token payload; client.id: {clientId}"

/-- `payload.roles`, which must be present and not empty. -/
def rolesOf (userId : Nat) (payload : JwtPayload) :
    Except String (List UserRoleType) :=
  match payload with
  | .access _ (role :: others) => .ok (role :: others)
  | _ => .error s!"User {userId} has no assigned roles"

/-- The steps of `use` that may throw. -/
def authenticate (environment : UserEnvironment) (clientId : String)
    (handshake : Handshake) : SocketCall SocketUser :=
  match handshake.token with
  | none => throw s!"No token provided for connection; client.id: {clientId}"
  | some token => do
      let payload ← ExceptT.adapt AuthException.text
        (JwtService.verify environment.now token "jwt expired")
      let userId ← lift (subjectOf clientId payload)
      let _ ← ExceptT.adapt AuthException.text
        (onAccount userId (UsersService.userNotFound userId)
          (UsersService.findById environment userId))
      let roles ← lift (rolesOf userId payload)
      return ⟨userId, roles⟩

/-- The caught exceptions are logged, and the connection is refused with one
text. -/
def use (environment : UserEnvironment) (clientId : String)
    (handshake : Handshake) : SocketCall SocketUser :=
  tryCatch (authenticate environment clientId handshake) fun _ =>
    throw "Authentication failed"

end WsAuthMiddleware

/-- What the strategy does with a bearer token: its signature and its time are
verified before its payload is validated. -/
def JwtStrategy.authenticate (environment : UserEnvironment) (token : Jwt) :
    AuthCall (Nat × List UserRoleType) := do
  let payload ← JwtService.verify environment.now token "Unauthorized"
  JwtStrategy.validate environment payload

namespace Account

/-- The profile that is read at some time: the cached one, else that of the
row. -/
def shownProfile (account : Account) (now : Int) : PartialUser :=
  (RedisService.get now account.profileCache).getD
    (select UserColumn.inProfile account.row)

/-- Whether the profile that is read is that of a banned user. -/
def shownBanned (account : Account) (now : Int) : Bool :=
  (account.shownProfile now .isBanned).getD false

/-- The roles that are read at some time. -/
def shownRoles (account : Account) (now : Int) : List UserRoleType :=
  (RedisService.get now account.rolesCache).getD account.roles

end Account

namespace UsersService

variable (environment : UserEnvironment) (id : Nat) (account : Account)

/-- A load shows the profile and leaves the roles alone. -/
theorem findById_shows :
    ∃ user after, run (findById environment id) account = (.ok user, after) ∧
      (∀ column, column.inProfile = true →
        user column = account.shownProfile environment.now column) ∧
      after.shownRoles environment.now = account.shownRoles environment.now := by
  obtain ⟨middle, ranProfile, profile⟩ :=
    RedisService.run_getOrSet_getD HttpException Account.profileSlot
      environment.now profileCacheTtlSec account findProfile rfl
  obtain ⟨after, ranStatus, status⟩ :=
    RedisService.run_getOrSet_getD HttpException Account.statusSlot
      environment.now statusCacheTtlSec middle findStatus rfl
  refine ⟨merge (account.shownProfile environment.now)
    ((RedisService.get environment.now middle.statusCache).getD
      (select UserColumn.inStatus middle.row)), after, ?_, ?_, ?_⟩
  · unfold findById
    rw [run_bind_ok ranProfile]
    simp only
    rw [run_bind_ok ranStatus]
    rfl
  · intro column inProfile
    have notStatus : column.inStatus = false := by
      cases column <;> first | rfl | contradiction
    simp [merge, notStatus]
  · have first : middle.shownRoles environment.now =
        account.shownRoles environment.now := by
      rcases profile with rfl | rfl <;> rfl
    rw [← first]
    rcases status with rfl | rfl <;> rfl

/-- The roles that are read. -/
theorem getUserRoles_shows :
    ∃ after, run (getUserRoles environment) account =
      (.ok (account.shownRoles environment.now), after) := by
  unfold Account.shownRoles
  cases cached : RedisService.get environment.now account.rolesCache with
  | some roles => exact ⟨account, run_getUserRoles_hit cached⟩
  | none => exact ⟨_, run_getUserRoles_miss cached⟩

end UsersService

namespace AuthState

variable {α : Type} {userId : Nat} {missing : HttpException}
  {call : AccountCall α} {state : AuthState}

/-- A call on an account that returns is a call on the account of a user. -/
theorem onAccount_ok_iff {value : α} {last : AuthState} :
    run (onAccount userId missing call) state = (.ok value, last) ↔
      ∃ found account, state.accounts.find? userId = some found ∧
        run call found.account = (.ok value, account) ∧
          last = { state with
            accounts := state.accounts.save ⟨userId, account⟩ } := by
  cases present : state.accounts.find? userId with
  | none => simp [run_onAccount_none present]
  | some found =>
      rw [run_onAccount_some present]
      rcases ran : run call found.account with ⟨result, account⟩
      simp [ran, mapError_ok_iff, eq_comm]

end AuthState

section Agreement

variable {environment : UserEnvironment} {clientId : String}
  {handshake : Handshake} {token : Jwt} {state : AuthState}

/-- The token verifies, and names a user and roles. -/
structure Jwt.Names (token : Jwt) (state : AuthState) (now : Int)
    (userId : Nat) (roles : List UserRoleType) : Prop where
  payload : token.payload = .access userId roles
  signed : token ∈ state.signed
  unexpired : JwtService.unexpired now token = true
  positive : userId ≠ 0
  assigned : roles ≠ []

theorem JwtService.verify_ok_iff {now : Int} {message : String}
    {payload : JwtPayload} {last : AuthState} :
    run (JwtService.verify now token message) state = (.ok payload, last) ↔
      last = state ∧ token ∈ state.signed ∧
        JwtService.unexpired now token = true ∧ payload = token.payload := by
  constructor
  · exact JwtService.run_verify_ok
  · rintro ⟨rfl, signed, live, rfl⟩
    simp [JwtService.verify, signed, live]

namespace WsAuthMiddleware

variable {payload : JwtPayload} {userId : Nat} {roles : List UserRoleType}

theorem rolesOf_ok_iff :
    rolesOf userId payload = .ok roles ↔
      roles ≠ [] ∧ ∃ sub, payload = .access sub roles := by
  cases payload with
  | access sub named =>
      cases named with
      | nil => simp +contextual [rolesOf, eq_comm]
      | cons role others =>
          simp only [rolesOf, Except.ok.injEq, JwtPayload.access.injEq,
            exists_eq_left']
          constructor
          · rintro rfl
            exact ⟨nofun, rfl⟩
          · exact fun ⟨_, same⟩ => same
  | twoFactor sub => simp [rolesOf]
  | register phone => simp [rolesOf]

/-- The checks on a payload let an access payload through that names a user and
roles. -/
theorem named_iff :
    subjectOf clientId payload = .ok userId ∧ rolesOf userId payload = .ok roles ↔
      payload = .access userId roles ∧ userId ≠ 0 ∧ roles ≠ [] := by
  rw [rolesOf_ok_iff]
  constructor
  · rintro ⟨subject, assigned, sub, rfl⟩
    simp only [subjectOf] at subject
    split at subject
    · contradiction
    · next positive =>
        obtain rfl := Except.ok.inj subject
        exact ⟨rfl, positive, assigned⟩
  · rintro ⟨rfl, positive, assigned⟩
    exact ⟨if_neg positive, assigned, userId, rfl⟩

/-- The middleware lets a socket in as the user and with the roles that its
token names, when the user exists. -/
theorem use_ok_iff (presented : handshake.token = some token) {user : SocketUser} :
    (run (use environment clientId handshake) state).1 = .ok user ↔
      token.Names state environment.now user.userId user.roles ∧
        (state.accounts.find? user.userId).isSome := by
  have caught : (run (use environment clientId handshake) state).1 = .ok user ↔
      (run (authenticate environment clientId handshake) state).1 = .ok user := by
    rw [use, run_tryCatch]
    rcases run (authenticate environment clientId handshake) state with
      ⟨_ | _, _⟩ <;> simp
  rw [caught, authenticate, presented]
  constructor
  · intro admitted
    obtain ⟨payload, _, verified, ran⟩ := bind_ok (Prod.ext admitted rfl)
    obtain ⟨rfl, signed, live, rfl⟩ :=
      JwtService.verify_ok_iff.mp (adapt_ok_iff.mp verified)
    obtain ⟨userId, _, checked, ran⟩ := bind_ok ran
    obtain ⟨subject, rfl⟩ := lift_ok_iff.mp checked
    obtain ⟨_, _, loaded, ran⟩ := bind_ok ran
    obtain ⟨found, _, present, _, rfl⟩ :=
      onAccount_ok_iff.mp (adapt_ok_iff.mp loaded)
    obtain ⟨roles, _, checked, ran⟩ := bind_ok ran
    obtain ⟨assigned, rfl⟩ := lift_ok_iff.mp checked
    obtain rfl := Except.ok.inj (Prod.mk.inj ran).1
    obtain ⟨payload, positive, nonempty⟩ := named_iff.mp ⟨subject, assigned⟩
    exact ⟨⟨payload, signed, live, positive, nonempty⟩, by simp [present]⟩
  · rintro ⟨names, present⟩
    obtain ⟨found, present⟩ := Option.isSome_iff_exists.mp present
    obtain ⟨loaded, account, ran, _⟩ :=
      UsersService.findById_shows environment user.userId found.account
    obtain ⟨subject, assigned⟩ := (@named_iff clientId _ _ _).mpr
      ⟨names.payload, names.positive, names.assigned⟩
    rw [run_bind_ok (adapt_ok_iff.mpr (JwtService.verify_ok_iff.mpr
      ⟨rfl, names.signed, names.unexpired, rfl⟩))]
    rw [run_bind, run_lift, subject]
    simp only
    rw [run_bind_ok (adapt_ok_iff.mpr (onAccount_ok_iff.mpr
      ⟨found, account, present, ran, rfl⟩))]
    rw [run_bind, run_lift, assigned]
    rfl

end WsAuthMiddleware

namespace JwtStrategy

/-- The strategy accepts a token that names a user who is not banned, with the
roles that are read for the user. -/
theorem authenticate_ok_iff {userId : Nat} {roles shown : List UserRoleType}
    {found : UserAccount} (names : token.Names state environment.now userId roles)
    (present : state.accounts.find? userId = some found) :
    (run (authenticate environment token) state).1 = .ok (userId, shown) ↔
      found.account.shownBanned environment.now = false ∧
        shown = found.account.shownRoles environment.now ∧ shown ≠ [] := by
  obtain ⟨user, account, loaded, profile, sameRoles⟩ :=
    UsersService.findById_shows environment userId found.account
  obtain ⟨later, read⟩ := UsersService.getUserRoles_shows environment account
  have banned : (user .isBanned).getD false =
      found.account.shownBanned environment.now :=
    congrArg (fun column => Option.getD column false) (profile .isBanned rfl)
  have again : (state.accounts.save ⟨userId, account⟩).find? userId =
      some ⟨userId, account⟩ := by
    simp
  unfold authenticate
  rw [run_bind_ok (JwtService.verify_ok_iff.mpr
    ⟨rfl, names.signed, names.unexpired, rfl⟩), names.payload]
  simp only [validate, if_neg names.positive]
  rw [run_bind_ok (onAccount_ok_iff.mpr ⟨found, account, present, loaded, rfl⟩)]
  rw [banned]
  cases found.account.shownBanned environment.now with
  | true => simp
  | false =>
      simp only [Bool.false_eq_true, if_false]
      rw [run_bind_ok (onAccount_ok_iff.mpr ⟨_, later, again, read, rfl⟩),
        sameRoles]
      cases found.account.shownRoles environment.now with
      | nil => simp
      | cons role others => simp +contextual [eq_comm]

end JwtStrategy

/-- For every token, environment and state: whenever a socket is let in with the
token, the same token is accepted as a bearer token for the same user with the
same roles, if and only if the user that the token names, where it verifies and
names one, is not banned and has exactly the token's roles. -/
theorem socket_and_bearer_agree_iff (presented : handshake.token = some token) :
    (∀ user,
      (run (WsAuthMiddleware.use environment clientId handshake) state).1 =
          .ok user →
        ∃ roles, (run (JwtStrategy.authenticate environment token) state).1 =
            .ok (user.userId, roles) ∧
          ∀ role, role ∈ roles ↔ role ∈ user.roles) ↔
      ∀ userId roles found, token.Names state environment.now userId roles →
        state.accounts.find? userId = some found →
          found.account.shownBanned environment.now = false ∧
            ∀ role, role ∈ found.account.shownRoles environment.now ↔
              role ∈ roles := by
  constructor
  · intro agrees userId roles found names present
    obtain ⟨shown, accepted, same⟩ := agrees ⟨userId, roles⟩
      ((WsAuthMiddleware.use_ok_iff presented).mpr ⟨names, by simp [present]⟩)
    obtain ⟨allowed, rfl, _⟩ :=
      (JwtStrategy.authenticate_ok_iff names present).mp accepted
    exact ⟨allowed, same⟩
  · intro current user admitted
    obtain ⟨names, present⟩ := (WsAuthMiddleware.use_ok_iff presented).mp admitted
    obtain ⟨found, present⟩ := Option.isSome_iff_exists.mp present
    obtain ⟨allowed, same⟩ := current _ _ found names present
    refine ⟨_, (JwtStrategy.authenticate_ok_iff names present).mpr
      ⟨allowed, rfl, ?_⟩, same⟩
    obtain ⟨role, assigned⟩ := List.exists_mem_of_ne_nil _ names.assigned
    exact List.ne_nil_of_mem ((same role).mpr assigned)

end Agreement

/-- A user with one role, and an access token with this role. -/
private def signedIn (isBanned : Bool) (roles : List UserRoleType) : AuthState :=
  { AuthState.empty with
    accounts := KeyedTable.empty.insert
      (fun id => ⟨id, { (UsersService.newAccount
        (assign (UsersService.newRow "+79001234567" "password" "Ivan" "Petrov"
          none 0) (UsersService.banStatus isBanned)) id).account with
        roles := roles }⟩) fun _ => rfl
    signed := [⟨.access 1 [.renter], 900⟩] }

private def byHandshake : Handshake :=
  ⟨some ⟨.access 1 [.renter], 900⟩, none, none⟩

theorem socket_and_bearer_agree_iff_sample :
    byHandshake.token = some ⟨.access 1 [.renter], 900⟩ ∧
      ((∀ user, (run (WsAuthMiddleware.use .atZero "socket" byHandshake)
          (signedIn false [.renter])).1 = .ok user →
        ∃ roles, (run (JwtStrategy.authenticate .atZero
            ⟨.access 1 [.renter], 900⟩) (signedIn false [.renter])).1 =
              .ok (user.userId, roles) ∧
          ∀ role, role ∈ roles ↔ role ∈ user.roles) ↔
        ∀ userId roles found,
          Jwt.Names ⟨.access 1 [.renter], 900⟩ (signedIn false [.renter]) 0
              userId roles →
            (signedIn false [.renter]).accounts.find? userId = some found →
              found.account.shownBanned 0 = false ∧
                ∀ role, role ∈ found.account.shownRoles 0 ↔ role ∈ roles) :=
  ⟨rfl, socket_and_bearer_agree_iff rfl⟩

/-- A banned user's token opens a socket and is refused as a bearer token. -/
theorem banned_user_opens_socket :
    ¬ ∀ environment clientId handshake token state,
      Handshake.token handshake = some token →
        ∀ user,
          (run (WsAuthMiddleware.use environment clientId handshake) state).1 =
              .ok user →
            ∃ roles,
              (run (JwtStrategy.authenticate environment token) state).1 =
                  .ok (user.userId, roles) ∧
                ∀ role, role ∈ roles ↔ role ∈ user.roles := by
  intro agree
  obtain ⟨roles, accepted, _⟩ := agree .atZero "socket" byHandshake
    ⟨.access 1 [.renter], 900⟩ (signedIn true [.renter]) rfl ⟨1, [.renter]⟩ rfl
  have refused : (run (JwtStrategy.authenticate .atZero
      ⟨.access 1 [.renter], 900⟩) (signedIn true [.renter])).1 =
        .error (.http (.unauthorized "Account is banned")) :=
    rfl
  rw [refused] at accepted
  contradiction

end SpareSpace
