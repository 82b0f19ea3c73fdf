import SpareSpace.AccountObservations

/-!
# Who decides on the standing of users

Whether a user is banned, verified and an administrator makes up the user's standing.  An
administrator bans and verifies users.  The standing of all users is determined by the
decisions that requests have taken, and a request takes its decision exactly when its bearer
token stands for an administrator who is not banned; what the token says about roles does not
matter.  A user who is banned is locked out until a decision lifts the ban.
-/

namespace SpareSpace

open ColumnRecords Fallible RedisService ServiceTraces

structure Standing where
  banned : Bool
  verified : Bool
  admin : Bool
  deriving DecidableEq, Repr

def Account.standing (account : Account) : Standing where
  banned := account.row .isBanned
  verified := account.row .verified
  admin := account.roles.contains .admin

/-- A standing is set by what sets the ban or the verification; no request makes an
administrator. -/
def Observation.standing : Observation Standing where
  of := Account.standing
  newcomer := ⟨false, false, false⟩
  Spares patch := patch .isBanned = none ∧ patch .verified = none
  of_caches _ _ _ _ := rfl
  of_new _ _ _ _ _ _ _ := rfl
  of_role account role notAdmin := by
    simp [Account.standing, Ne.symm notAdmin]
  of_update account after patch spares columns roles _ := by
    have banned := columns .isBanned rfl
    have verified := columns .verified rfl
    rw [assign_of_none spares.1] at banned
    rw [assign_of_none spares.2] at verified
    simp only [Account.standing, roles, banned, verified]
  spares_profile _ := ⟨rfl, rfl⟩
  spares_hashes _ := ⟨rfl, rfl⟩

def AuthState.standing (state : AuthState) (userId : Nat) : Standing :=
  Observation.standing.ofUser state userId

/-- What an administrator decides about a user. -/
inductive Decision
  | ban (userId : Nat) (isBanned : Bool)
  | verify (userId : Nat) (verified : Bool)
  deriving DecidableEq, Repr

namespace Decision

/-- The user that a decision is about. -/
def userId : Decision → Nat
  | ban userId _ | verify userId _ => userId

/-- The standing that a decision leaves its user. -/
def outcome : Decision → Standing → Standing
  | ban _ isBanned, standing => { standing with banned := isBanned }
  | verify _ verified, standing => { standing with verified := verified }

def change (standings : Nat → Standing) (decision : Decision) : Nat → Standing :=
  Function.update standings decision.userId (decision.outcome (standings decision.userId))

/-- The columns that a decision writes. -/
def columns : Decision → PartialUser
  | ban _ isBanned => UsersService.banStatus isBanned
  | verify _ verified => UsersService.verifiedStatus verified

variable (standings : Nat → Standing) (decision : Decision) (decisions : List Decision)

theorem admin_change (userId : Nat) :
    (change standings decision userId).admin = (standings userId).admin := by
  unfold change
  rw [Function.update_apply]
  split
  · next same =>
      rw [same]
      cases decision <;> rfl
  · rfl

/-- Decisions make nobody an administrator, and dismiss none. -/
theorem admin_foldl (userId : Nat) :
    (decisions.foldl change standings userId).admin = (standings userId).admin := by
  induction decisions generalizing standings with
  | nil => rfl
  | cons decision rest ih =>
      rw [List.foldl_cons, ih]
      apply admin_change

/-- Who is banned stays so without a decision that lifts the ban. -/
theorem banned_foldl {userId : Nat} (banned : (standings userId).banned = true)
    (noUnban : .ban userId false ∉ decisions) :
    (decisions.foldl change standings userId).banned = true := by
  induction decisions generalizing standings with
  | nil => exact banned
  | cons decision rest ih =>
      rw [List.mem_cons, not_or] at noUnban
      apply ih _ _ noUnban.2
      unfold change
      rw [Function.update_apply]
      split
      · next same =>
          cases decision with
          | ban other isBanned =>
              obtain rfl : userId = other := same
              cases isBanned with
              | true => rfl
              | false => exact absurd rfl noUnban.1
          | verify other verified =>
              obtain rfl : userId = other := same
              exact banned
      · exact banned

end Decision

namespace ApiRequest

/-- The decision that a request asks for, with its bearer token. -/
def decision : ApiRequest → Option (Jwt × Decision)
  | updateBanStatus bearer userId isBanned => some (bearer, .ban userId isBanned)
  | updateVerifiedStatus bearer userId verified => some (bearer, .verify userId verified)
  | _ => none

/-- The decision that a request has taken if it was answered. -/
def decided (request : AuthEnvironment × ApiRequest) :
    Except ApiException ApiResponse → Option Decision
  | .ok _ => request.2.decision.map Prod.snd
  | .error _ => none

end ApiRequest

/-- A bearer token stands for a user: the server has signed it, its time is not over, and its
user is there, is not banned and has roles. -/
structure AuthState.Authenticates (state : AuthState) (now : Int) (bearer : Jwt)
    (user : UserAccount) : Prop where
  signed : bearer ∈ state.signed
  unexpired : JwtService.unexpired now bearer = true
  access : ∃ roles, bearer.payload = .access user.id roles
  nonzero : user.id ≠ 0
  found : state.accounts.find? user.id = some user
  active : user.account.row .isBanned = false
  roles : user.account.roles ≠ []

namespace UsersService

variable (environment : UserEnvironment) {account : Account}

/-- While the cached roles are those of the rows, they are what is read. -/
theorem getUserRoles_ok (sound : account.Sound) :
    (run (getUserRoles environment) account).1 = .ok account.roles := by
  cases cached : RedisService.get environment.now account.rolesCache with
  | some roles =>
      obtain ⟨expiresAt, kept, -⟩ := eq_of_get cached
      rw [run_getUserRoles_hit cached, ← sound.roles _ kept]
  | none => rw [run_getUserRoles_miss cached]

/-- A load finds whether the user is banned, and leaves the roles as they are. -/
theorem findById_ok (id : Nat) (sound : account.Sound) :
    ∃ user, (run (findById environment id) account).1 = .ok user ∧
      user .isBanned = some (account.row .isBanned) ∧
      (run (findById environment id) account).2.Sound ∧
      (run (findById environment id) account).2.roles = account.roles := by
  obtain ⟨user, after, ran, loads⟩ := findById_spec environment id account
  obtain ⟨kept, -⟩ := @kept_findById _ .nothing environment id account sound
  obtain ⟨-, same⟩ := keeps_roles_findById environment id account trivial
  refine ⟨user, ?_, loads.profile sound.coherent .isBanned rfl, kept, ?_⟩
  · rw [ran]
  · exact congrArg Prod.fst same

end UsersService

namespace AuthState

theorem standing_of_find? {state : AuthState} {userId : Nat} {user : UserAccount}
    (found : state.accounts.find? userId = some user) :
    state.standing userId = user.account.standing :=
  Observation.ofUser_of_find? found

/-- The users that are there. -/
def known (state : AuthState) (userId : Nat) : Bool :=
  (state.accounts.find? userId).isSome

theorem keeps_known_onAccount {α : Type} {userId : Nat} {missing : HttpException}
    (call : AccountCall α) : Keeps known (onAccount userId missing call) := by
  intro state _
  apply And.intro trivial
  cases found : state.accounts.find? userId with
  | none => rw [run_onAccount_none found]
  | some user =>
      rw [run_onAccount_some found]
      funext other
      unfold known
      rw [KeyedTable.find?_save]
      split
      · next same => rw [same, found]; rfl
      · rfl

end AuthState

namespace JwtStrategy

open AuthState UsersService

variable (environment : UserEnvironment) (payload : JwtPayload)

theorem keeps_known_validate : Keeps known (validate environment payload) := by
  apply preserves_validate
  · exact fun userId => keeps_known_onAccount _
  · exact fun userId => keeps_known_onAccount _

variable {environment} {state : AuthState} {userId : Nat} {claimed : List UserRoleType}

/-- The validation of a token for a user who is there. -/
theorem run_validate_found {user : UserAccount} (sound : state.Sound)
    (found : state.accounts.find? userId = some user) (nonzero : userId ≠ 0) :
    (run (validate environment (.access userId claimed)) state).1 =
      if user.account.row .isBanned then
        .error (.http (.unauthorized "Account is banned"))
      else if user.account.roles.isEmpty then
        .error (.http (.unauthorized "User has no assigned roles"))
      else
        .ok (userId, user.account.roles) := by
  obtain ⟨loaded, ran, banned, kept, roles⟩ :=
    findById_ok environment userId (sound userId user found)
  have read := getUserRoles_ok environment kept
  unfold validate
  simp only [nonzero, if_false]
  rw [run_bind, run_onAccount_some found, ran]
  simp only [Except.mapError, banned, Option.getD_some]
  split
  · rfl
  · rw [run_bind,
      run_onAccount_some (KeyedTable.find?_save _ _ _ |>.trans (if_pos rfl)), read]
    simp only [Except.mapError, roles]
    split <;> rfl

/-- A validation returns the user of an access token, with the roles of the rows. -/
theorem validate_ok_iff (sound : state.Sound) {roles : List UserRoleType} :
    (run (validate environment payload) state).1 = .ok (userId, roles) ↔
      (∃ claimed, payload = .access userId claimed) ∧ userId ≠ 0 ∧
        ∃ user, state.accounts.find? userId = some user ∧
          user.account.row .isBanned = false ∧ user.account.roles = roles ∧ roles ≠ [] := by
  constructor
  · intro ran
    cases payload with
    | twoFactor | register => contradiction
    | access other claimed =>
        by_cases zero : other = 0
        · simp only [validate, zero, if_true] at ran
          contradiction
        · cases found : state.accounts.find? other with
          | none =>
              simp only [validate, zero, if_false, run_bind, run_onAccount_none found] at ran
              contradiction
          | some user =>
              rw [run_validate_found sound found zero] at ran
              split at ran
              · contradiction
              · next active =>
                  split at ran
                  · contradiction
                  · next nonempty =>
                      obtain ⟨rfl, rfl⟩ := Prod.mk.inj (Except.ok.inj ran)
                      refine ⟨⟨claimed, rfl⟩, zero, user, found, ?_, rfl, ?_⟩
                      · exact Bool.eq_false_of_not_eq_true active
                      · exact fun empty => nonempty (List.isEmpty_iff.mpr empty)
  · rintro ⟨⟨claimed, rfl⟩, nonzero, user, found, active, rfl, nonempty⟩
    rw [run_validate_found sound found nonzero, active, if_neg Bool.false_ne_true]
    rw [if_neg (fun empty => nonempty (List.isEmpty_iff.mp empty))]

end JwtStrategy

namespace JwtAuthGuard

open AuthState

variable {environment : UserEnvironment} {bearer : Jwt} {state : AuthState}

theorem keeps_known_canActivate : Keeps known (canActivate environment bearer) := by
  apply Preserves.adapt
  apply Preserves.bind (Preserves.reads _)
  intro payload
  apply JwtStrategy.keeps_known_validate

/-- A token that the server has signed and whose time is not over is validated. -/
theorem run_canActivate (valid : bearer ∈ state.signed)
    (unexpired : JwtService.unexpired environment.now bearer = true) :
    run (canActivate environment bearer) state =
      run (ExceptT.adapt ApiException.auth (JwtStrategy.validate environment bearer.payload))
        state := by
  unfold canActivate
  rw [run_adapt, run_adapt, run_bind, JwtService.verify, run_reads]
  rw [if_pos (by simp [valid, unexpired])]

theorem canActivate_invalid
    (invalid : ¬ (bearer ∈ state.signed ∧
      JwtService.unexpired environment.now bearer = true)) :
    run (canActivate environment bearer) state =
      (.error (.auth (.http (.unauthorized "Unauthorized"))), state) := by
  unfold canActivate
  rw [run_adapt, run_bind, JwtService.verify, run_reads]
  rw [if_neg (by simpa using invalid)]
  rfl

/-- The guard lets a bearer token pass exactly when it stands for a user, and finds the
user's roles. -/
theorem canActivate_ok_iff (sound : state.Sound) {userId : Nat} {roles : List UserRoleType} :
    (run (canActivate environment bearer) state).1 = .ok (userId, roles) ↔
      ∃ user, state.Authenticates environment.now bearer user ∧ user.id = userId ∧
        user.account.roles = roles := by
  constructor
  · intro passed
    by_cases valid : bearer ∈ state.signed ∧
      JwtService.unexpired environment.now bearer = true
    · rw [run_canActivate valid.1 valid.2, run_adapt, mapError_ok_iff,
        JwtStrategy.validate_ok_iff _ sound] at passed
      obtain ⟨access, nonzero, user, found, active, rfl, nonempty⟩ := passed
      obtain rfl := state.accounts.key_of_find? found
      exact ⟨user, ⟨valid.1, valid.2, access, nonzero, found, active, nonempty⟩, rfl, rfl⟩
    · rw [canActivate_invalid valid] at passed
      contradiction
  · rintro ⟨user, authenticates, rfl, rfl⟩
    rw [run_canActivate authenticates.signed authenticates.unexpired, run_adapt,
      mapError_ok_iff, JwtStrategy.validate_ok_iff _ sound]
    exact ⟨authenticates.access, authenticates.nonzero, user, authenticates.found,
      authenticates.active, rfl, authenticates.roles⟩

/-- The token of a banned user is refused, whether or not its time is over. -/
theorem canActivate_banned (sound : state.Sound) {user : UserAccount}
    {claimed : List UserRoleType} (access : bearer.payload = .access user.id claimed)
    (found : state.accounts.find? user.id = some user)
    (banned : user.account.row .isBanned = true) :
    ∃ message, (run (canActivate environment bearer) state).1 =
      .error (.auth (.http (.unauthorized message))) := by
  by_cases valid : bearer ∈ state.signed ∧
    JwtService.unexpired environment.now bearer = true
  · rw [run_canActivate valid.1 valid.2, run_adapt, access]
    by_cases zero : user.id = 0
    · simp only [JwtStrategy.validate, zero, if_true]
      exact ⟨_, rfl⟩
    · rw [JwtStrategy.run_validate_found sound found zero, banned, if_pos rfl]
      exact ⟨_, rfl⟩
  · rw [canActivate_invalid valid]
    exact ⟨_, rfl⟩

end JwtAuthGuard

/-- A bearer token stands for an administrator. -/
def AuthState.Authorises (state : AuthState) (now : Int) (bearer : Jwt) : Prop :=
  ∃ user, state.Authenticates now bearer user ∧ .admin ∈ user.account.roles

namespace UsersAdminController

open AuthState

variable {environment : UserEnvironment} {bearer : Jwt} {state : AuthState}

/-- A guarded call runs for an administrator, and for nobody else. -/
theorem guarded_cases {α : Type} (sound : state.Sound) (call : ApiCall α) :
    ∃ next : AuthState, next.Sound ∧ next.standing = state.standing ∧
      next.known = state.known ∧
      (state.Authorises environment.now bearer ∧
          run (guarded environment bearer call) state = run call next ∨
        ¬ state.Authorises environment.now bearer ∧
          ∃ error, run (guarded environment bearer call) state = (.error error, next)) := by
  have same : (run (JwtAuthGuard.canActivate environment bearer) state).2.standing =
      state.standing := by
    funext userId
    exact (@JwtAuthGuard.keptAt_canActivate _ .standing userId _ _ state sound).2
  have kept := (@JwtAuthGuard.keptAt_canActivate _ .nothing 0 environment bearer state sound).1
  obtain ⟨-, known⟩ := @JwtAuthGuard.keeps_known_canActivate environment bearer state trivial
  have passes (userId : Nat) (roles : List UserRoleType) :=
    @JwtAuthGuard.canActivate_ok_iff environment bearer state sound userId roles
  unfold guarded
  rw [run_bind]
  rcases ran : run (JwtAuthGuard.canActivate environment bearer) state with ⟨result, next⟩
  simp only [ran] at same kept known passes
  refine ⟨next, kept, same, known, ?_⟩
  cases result with
  | error error =>
      right
      refine ⟨?_, error, rfl⟩
      rintro ⟨user, authenticates, -⟩
      have passed := (passes _ _).mpr ⟨user, authenticates, rfl, rfl⟩
      contradiction
  | ok found =>
      obtain ⟨userId, roles⟩ := found
      obtain ⟨user, authenticates, rfl, rfl⟩ := (passes _ _).mp rfl
      simp only [RolesGuard.canActivate, List.any_cons, List.any_nil, Bool.or_false]
      by_cases admin : .admin ∈ user.account.roles
      · left
        apply And.intro ⟨user, authenticates, admin⟩
        rw [if_pos (List.contains_iff_mem.mpr admin)]
        rfl
      · right
        constructor
        · rintro ⟨other, otherwise, isAdmin⟩
          obtain ⟨_, access⟩ := authenticates.access
          obtain ⟨_, otherAccess⟩ := otherwise.access
          obtain ⟨same, -⟩ := JwtPayload.access.inj (otherAccess.symm.trans access)
          have found := authenticates.found
          rw [← same, otherwise.found] at found
          exact admin (Option.some.inj found ▸ isAdmin)
        · rw [if_neg fun contained => admin (List.contains_iff_mem.mp contained)]
          exact ⟨_, rfl⟩

/-- A decision is refused for a user who is not there. -/
theorem run_updateColumns (sound : state.Sound) (decision : Decision) :
    ∃ next : AuthState, next.Sound ∧
      ((state.known decision.userId = true ∧
          run (UsersService.onUser decision.userId
            (UsersService.updateColumns decision.columns)) state = (.ok (), next) ∧
          next.standing = decision.change state.standing) ∨
        (state.known decision.userId = false ∧
          (∃ error, run (UsersService.onUser decision.userId
            (UsersService.updateColumns decision.columns)) state = (.error error, next)) ∧
          next.standing = state.standing)) := by
  unfold UsersService.onUser known
  rw [run_adapt]
  cases found : state.accounts.find? decision.userId with
  | none =>
      rw [run_onAccount_none found]
      exact ⟨state, sound, Or.inr ⟨rfl, ⟨_, rfl⟩, rfl⟩⟩
  | some user =>
      rw [run_onAccount_some found]
      refine ⟨_, Observation.sound_save sound ?_, Or.inl ⟨rfl, rfl, ?_⟩⟩
      · constructor
        · exact Account.coherent_of_empty rfl
        · exact (sound _ user found).roles
      · rw [Decision.change, standing_of_find? found]
        unfold standing
        rw [Observation.ofUser_save]
        cases decision <;> rfl

/-- A decision is taken for an administrator about a user who is there, and for nobody
else. -/
theorem guarded_updateColumns_cases (sound : state.Sound) (decision : Decision) :
    ∃ last : AuthState, last.Sound ∧
      (((state.Authorises environment.now bearer ∧ state.known decision.userId = true) ∧
          run (guarded environment bearer (UsersService.onUser decision.userId
            (UsersService.updateColumns decision.columns))) state = (.ok (), last) ∧
          last.standing = decision.change state.standing) ∨
        (¬ (state.Authorises environment.now bearer ∧ state.known decision.userId = true) ∧
          (∃ error, run (guarded environment bearer (UsersService.onUser decision.userId
            (UsersService.updateColumns decision.columns))) state = (.error error, last)) ∧
          last.standing = state.standing)) := by
  obtain ⟨next, kept, same, known, ⟨authorised, ran⟩ | ⟨refused, fails⟩⟩ :=
    @guarded_cases environment bearer state _ sound (UsersService.onUser decision.userId
      (UsersService.updateColumns decision.columns))
  · obtain ⟨last, stays, outcome⟩ := run_updateColumns kept decision
    rw [ran, ← known, ← same]
    refine ⟨last, stays, outcome.imp ?_ ?_⟩
    · rintro ⟨there, decides, changed⟩
      exact ⟨⟨authorised, there⟩, decides, changed⟩
    · rintro ⟨absent, fails, stood⟩
      refine ⟨fun both => ?_, fails, stood⟩
      rw [absent] at both
      exact Bool.false_ne_true both.2
  · exact ⟨next, kept, Or.inr ⟨fun both => refused both.1, fails, same⟩⟩

end UsersAdminController

namespace ApiRequest

open AuthState

variable {config : AuthConfig} {crypto : Crypto} {state : AuthState}

/-- A request that asks for a decision is a guarded update of the columns of its user. -/
theorem run_call_decision {request : ApiRequest} {bearer : Jwt} {decision : Decision}
    (asks : request.decision = some (bearer, decision)) (environment : AuthEnvironment) :
    request.call config crypto environment = (do
      UsersAdminController.guarded environment.toUserEnvironment bearer
        (UsersService.onUser decision.userId
          (UsersService.updateColumns decision.columns))
      return .ok) := by
  cases request with
  | auth | twoFactor | twoFactorStatus | getMyProfile | findOne | updateMyProfile =>
      contradiction
  | updateBanStatus | updateVerifiedStatus =>
      obtain ⟨rfl, rfl⟩ := Prod.mk.inj (Option.some.inj asks)
      rfl

/-- The other requests keep the standing of all users. -/
theorem standing_call {request : ApiRequest} (asksNot : request.decision = none)
    (environment : AuthEnvironment) (sound : state.Sound) :
    (run (request.call config crypto environment) state).2.Sound ∧
      (run (request.call config crypto environment) state).2.standing = state.standing := by
  have spares (userId : Nat) : Observation.standing.SparesRequest userId request := by
    cases request with
    | twoFactor bearer request =>
        intro other _
        cases request with
        | generate => exact fun _ _ _ => rfl
        | enable code => exact fun _ => ⟨fun _ _ => rfl, fun _ => ⟨rfl, rfl⟩⟩
        | disable code => exact fun _ => ⟨rfl, rfl⟩
    | updateBanStatus | updateVerifiedStatus => contradiction
    | _ => trivial
  constructor
  · exact (ApiRequest.keptAt_call (spares 0) config crypto environment state sound).1
  · funext userId
    exact (ApiRequest.keptAt_call (spares userId) config crypto environment state sound).2

/-- What a request changes of the standings is the decision it has taken, which it takes
exactly for an administrator and about a user who is there. -/
theorem serve_spec (sound : state.Sound) (request : AuthEnvironment × ApiRequest) :
    (serve config crypto state request).2.Sound ∧
      (serve config crypto state request).2.standing =
        (decided request (serve config crypto state request).1).elim state.standing
          (Decision.change state.standing) ∧
      ∀ decision, decided request (serve config crypto state request).1 = some decision ↔
        ∃ bearer, request.2.decision = some (bearer, decision) ∧
          state.Authorises request.1.now bearer ∧ state.known decision.userId = true := by
  obtain ⟨environment, request⟩ := request
  cases asks : request.decision with
  | none =>
      obtain ⟨kept, same⟩ := @standing_call config crypto state _ asks environment sound
      have undecided (result : Except ApiException ApiResponse) :
          decided (environment, request) result = none := by
        cases result <;> simp [decided, asks]
      refine ⟨kept, ?_, fun decision => ?_⟩
      · rw [undecided]
        exact same
      · rw [undecided]
        simp
  | some asked =>
      obtain ⟨bearer, decision⟩ := asked
      unfold serve
      rw [run_call_decision asks, run_bind]
      obtain ⟨last, kept, ⟨authorised, ran, changed⟩ | ⟨refused, ⟨error, ran⟩, stood⟩⟩ :=
        @UsersAdminController.guarded_updateColumns_cases environment.toUserEnvironment bearer
          state sound decision
      · rw [ran]
        simp only [run_pure, decided, asks, Option.map_some, Option.elim_some]
        refine ⟨kept, changed, fun other => ?_⟩
        constructor
        · intro taken
          obtain rfl := Option.some.inj taken
          exact ⟨bearer, rfl, authorised⟩
        · rintro ⟨given, same, -⟩
          exact congrArg some (Prod.mk.inj (Option.some.inj same)).2
      · rw [ran]
        simp only [decided, Option.elim_none]
        refine ⟨kept, stood, fun other => ?_⟩
        constructor
        · exact nofun
        · rintro ⟨given, same, authorised⟩
          obtain ⟨rfl, rfl⟩ := Prod.mk.inj (Option.some.inj same)
          exact absurd authorised refused

/-- The decisions that a list of requests takes. -/
abbrev decisions (config : AuthConfig) (crypto : Crypto) :
    AuthState → List (AuthEnvironment × ApiRequest) → List Decision :=
  noted (serve config crypto) decided

theorem after_serve (sound : state.Sound)
    (requests : List (AuthEnvironment × ApiRequest)) :
    (after (serve config crypto) state requests).Sound ∧
      (after (serve config crypto) state requests).standing =
        (decisions config crypto state requests).foldl Decision.change state.standing := by
  apply @view_after _ _ _ _ _ _ decided AuthState.Sound AuthState.standing
  · intro state request sound
    obtain ⟨kept, changed, -⟩ := @serve_spec config crypto state sound request
    exact ⟨kept, changed⟩
  · exact sound

/-- A request with a token of a banned user is refused. -/
theorem serve_banned (sound : state.Sound) {userId : Nat}
    (banned : (state.standing userId).banned = true)
    {request : AuthEnvironment × ApiRequest} {bearer : Jwt} {claimed : List UserRoleType}
    (bears : request.2.bearer = some bearer) (access : bearer.payload = .access userId claimed) :
    ∃ message, (serve config crypto state request).1 =
      .error (.auth (.http (.unauthorized message))) := by
  obtain ⟨environment, request⟩ := request
  cases found : state.accounts.find? userId with
  | none =>
      unfold AuthState.standing Observation.ofUser at banned
      rw [found] at banned
      contradiction
  | some user =>
      rw [standing_of_find? found] at banned
      obtain rfl := state.accounts.key_of_find? found
      obtain ⟨message, refused⟩ :=
        @JwtAuthGuard.canActivate_banned environment.toUserEnvironment bearer state sound _ _
          access found banned
      refine ⟨message, ?_⟩
      have fails {α : Type} (rest : Nat × List UserRoleType → ApiCall α) :
          (run (JwtAuthGuard.canActivate environment.toUserEnvironment bearer >>= rest)
            state).1 = .error (.auth (.http (.unauthorized message))) := by
        rw [run_bind]
        rcases ran : run (JwtAuthGuard.canActivate environment.toUserEnvironment bearer) state
          with ⟨result, next⟩
        rw [ran] at refused
        obtain rfl : result = _ := refused
        rfl
      cases request with
      | auth | findOne => contradiction
      | twoFactor | twoFactorStatus | getMyProfile | updateMyProfile | updateBanStatus
      | updateVerifiedStatus =>
          obtain rfl := Option.some.inj bears
          simp only [serve, call, TwoFactorController.change, TwoFactorController.status,
            UsersController.getMyProfile, UsersController.update,
            UsersAdminController.updateBanStatus, UsersAdminController.updateVerifiedStatus,
            UsersAdminController.guarded, bind_assoc]
          apply fails

/-- The public profile of a banned user is not found. -/
theorem serve_findOne_banned (sound : state.Sound) {userId : Nat}
    (banned : (state.standing userId).banned = true) (environment : AuthEnvironment) :
    (serve config crypto state (environment, .findOne userId)).1 =
      .error (.auth (.http (.notFound "User not found"))) := by
  cases found : state.accounts.find? userId with
  | none =>
      unfold AuthState.standing Observation.ofUser at banned
      rw [found] at banned
      contradiction
  | some user =>
      rw [standing_of_find? found] at banned
      obtain ⟨loaded, ran, known, -⟩ := UsersService.findById_ok
        environment.toUserEnvironment userId (sound userId user found)
      simp only [serve, call, UsersController.findOne, UsersService.onUser]
      rw [bind_assoc, run_bind, run_adapt, run_onAccount_some found, ran]
      simp only [Except.mapError, known, show user.account.row .isBanned = true from banned]
      rfl

end ApiRequest

section Runs

open ApiRequest

variable {config : AuthConfig} {crypto : Crypto} {state : AuthState}

/-- After every list of requests the standing of all users is that at the start, changed by
the decisions taken one after the other; nobody has become an administrator or ceased to be
one.  A further request takes a decision exactly when the decision is what it asks for, its
bearer token stands for an administrator, and the user to decide about is there. -/
theorem standing_decided_by_administrators (sound : state.Sound)
    (requests : List (AuthEnvironment × ApiRequest)) {last : AuthState}
    (reached : after (serve config crypto) state requests = last) :
    last.standing =
        (decisions config crypto state requests).foldl Decision.change state.standing ∧
      (∀ userId, (last.standing userId).admin = (state.standing userId).admin) ∧
      ∀ request decision,
        decided request (serve config crypto last request).1 = some decision ↔
          ∃ bearer, request.2.decision = some (bearer, decision) ∧
            last.Authorises request.1.now bearer ∧ last.known decision.userId = true := by
  obtain ⟨lastSound, standing⟩ := @after_serve config crypto state sound requests
  rw [reached] at lastSound standing
  refine ⟨standing, fun userId => ?_, fun request => ?_⟩
  · rw [standing]
    apply Decision.admin_foldl
  · exact (serve_spec lastSound request).2.2

/-- A user who is banned is locked out until a decision lifts the ban: every request with an
access token of the user, whenever the token was signed, is refused and leaves all standings
as they are, and the public profile of the user is not found. -/
theorem banned_until_unbanned (sound : state.Sound) {userId : Nat}
    (banned : (state.standing userId).banned = true)
    {requests : List (AuthEnvironment × ApiRequest)}
    (noUnban : .ban userId false ∉ decisions config crypto state requests)
    {earlier later : List (AuthEnvironment × ApiRequest)}
    {request : AuthEnvironment × ApiRequest} (split : requests = earlier ++ request :: later) :
    (∀ bearer claimed, request.2.bearer = some bearer →
      bearer.payload = .access userId claimed →
        (∃ message,
          (serve config crypto (after (serve config crypto) state earlier) request).1 =
            .error (.auth (.http (.unauthorized message)))) ∧
          (serve config crypto (after (serve config crypto) state earlier) request).2.standing =
            (after (serve config crypto) state earlier).standing) ∧
    (request.2 = .findOne userId →
      (serve config crypto (after (serve config crypto) state earlier) request).1 =
        .error (.auth (.http (.notFound "User not found")))) := by
  obtain ⟨reached, standing⟩ := @after_serve config crypto state sound earlier
  have still : ((after (serve config crypto) state earlier).standing userId).banned = true := by
    rw [standing]
    apply Decision.banned_foldl _ _ banned
    intro lifted
    apply noUnban
    rw [split]
    unfold decisions
    rw [noted_append]
    exact List.mem_append_left _ lifted
  constructor
  · intro bearer claimed bears access
    obtain ⟨message, refused⟩ := @serve_banned config crypto _ reached _ still _ _ _ bears access
    apply And.intro ⟨message, refused⟩
    obtain ⟨-, changed, -⟩ := @serve_spec config crypto _ reached request
    rw [changed, refused]
    rfl
  · obtain ⟨environment, request⟩ := request
    rintro rfl
    exact serve_findOne_banned reached still environment

end Runs

section Samples

open ApiRequest

private def promoted (userId : Nat) : UserAccount where
  id := userId
  account := {
    (UsersService.newAccount
      (UsersService.newRow "+79001234567" "password" "Anna" "Petrova" none 0) userId).account
    with roles := [.admin] }

private def ordinary (userId : Nat) : UserAccount where
  id := userId
  account := {
    (UsersService.newAccount
      (UsersService.newRow "+79007654321" "password" "Ivan" "Petrov" none 0) userId).account
    with roles := [.renter, .landlord] }

private theorem promoted_id (userId : Nat) : (promoted userId).id = userId :=
  rfl

private theorem ordinary_id (userId : Nat) : (ordinary userId).id = userId :=
  rfl

private def adminToken : Jwt :=
  ⟨.access 1 [.admin], 900⟩

private def renterToken : Jwt :=
  ⟨.access 2 [.renter, .landlord], 900⟩

/-- An administrator and a user, both with an access token. -/
private def adminAndUser : AuthState where
  accounts := (KeyedTable.empty.insert promoted promoted_id).insert ordinary ordinary_id
  refreshTokens := .empty
  flashCalls _ := none
  signed := [adminToken, renterToken]

private theorem adminAndUser_sound : adminAndUser.Sound := by
  intro userId user found
  have present := adminAndUser.accounts.mem_of_find? found
  simp only [adminAndUser, KeyedTable.mem_insert_iff] at present
  rcases present with (absent | rfl) | rfl
  · exact absurd absent List.not_mem_nil
  · exact Account.sound_of_empty rfl rfl
  · exact Account.sound_of_empty rfl rfl

private def atZero (request : ApiRequest) : AuthEnvironment × ApiRequest :=
  (AuthEnvironment.plain 0 .failed, request)

/-- The user cannot ban the administrator, who can ban the user. -/
theorem standing_decided_by_administrators_sample :
    ∃ last : AuthState,
      after (serve ⟨30, 900, false⟩ .plain) adminAndUser
        [atZero (.updateBanStatus renterToken 1 true),
          atZero (.updateBanStatus adminToken 2 true)] = last ∧
      last.standing = Decision.change adminAndUser.standing (.ban 2 true) ∧
      (last.standing 1).admin = true := by
  obtain ⟨standing, admins, -⟩ :=
    @standing_decided_by_administrators ⟨30, 900, false⟩ .plain _ adminAndUser_sound
      [atZero (.updateBanStatus renterToken 1 true),
        atZero (.updateBanStatus adminToken 2 true)] _ rfl
  exact ⟨_, rfl, standing, admins 1⟩

/-- After the ban the user's token opens neither the user's own profile nor the settings of
the second factor. -/
theorem banned_until_unbanned_sample :
    let banned := after (serve ⟨30, 900, false⟩ .plain) adminAndUser
      [atZero (.updateBanStatus adminToken 2 true)]
    (∃ message, (serve ⟨30, 900, false⟩ .plain banned (atZero (.getMyProfile renterToken))).1 =
      .error (.auth (.http (.unauthorized message)))) ∧
    ∃ message,
      (serve ⟨30, 900, false⟩ .plain
        (after (serve ⟨30, 900, false⟩ .plain) banned [atZero (.getMyProfile renterToken)])
        (atZero (.twoFactor renterToken .generate))).1 =
          .error (.auth (.http (.unauthorized message))) := by
  intro banned
  have reached : banned.Sound := (@after_serve ⟨30, 900, false⟩ .plain _ adminAndUser_sound
    [atZero (.updateBanStatus adminToken 2 true)]).1
  have locked := @banned_until_unbanned ⟨30, 900, false⟩ .plain _ reached 2 rfl
    [atZero (.getMyProfile renterToken), atZero (.twoFactor renterToken .generate)] (by decide)
  have profile := (@locked [] _ _ rfl).1 renterToken _ rfl rfl
  have secret := (@locked [atZero (.getMyProfile renterToken)] [] _ rfl).1 renterToken _ rfl rfl
  exact ⟨profile.1, secret.1⟩

end Samples

end SpareSpace
