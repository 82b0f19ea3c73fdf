import SpareSpace.AuthOutcomes
import SpareSpace.TransitionRuns
import Mathlib.Data.List.Forall2
import Mathlib.Data.List.Perm.Basic

/-!
# The second factor

Tokens for a user whose row asks for a second factor come from a refresh token
or from a verification whose code is a valid TOTP or an unused recovery code.
A run keeps, for each user, the recovery codes generated last and those used
since; the hashes in the row are hashes of the others.
-/

namespace SpareSpace

open Fallible AuthState TransitionRuns TwoFactorService AuthService

/-- The recovery codes generated last and those accepted since. -/
structure RecoveryHistory where
  generated : List String
  used : List String

namespace RecoveryHistory

def empty : RecoveryHistory :=
  ⟨[], []⟩

/-- The code has been generated more often than it has been used. -/
def Unused (history : RecoveryHistory) (code : String) : Prop :=
  history.used.count code < history.generated.count code

def use (history : RecoveryHistory) (code : String) : RecoveryHistory :=
  ⟨history.generated, code :: history.used⟩

end RecoveryHistory

namespace TwoFactorService

variable {crypto : Crypto} {code : String} {codes hashes rest : List String}

/-- The hash is one of the code, which is short enough for `bcrypt`. -/
def IsHash (crypto : Crypto) (code hash : String) : Prop :=
  code.utf8ByteSize < 72 ∧ ∃ salt, hash = crypto.bcryptHash salt code

/-- An accepted code is one of those whose hashes are kept, and its hash is the
one that goes. -/
theorem consume_spec (compares : crypto.ComparesOwn)
    (kept : List.Forall₂ (IsHash crypto) codes hashes)
    (consumed : consume crypto code hashes = some rest) :
    ∃ left, List.Forall₂ (IsHash crypto) left rest ∧
      codes.Perm (code :: left) := by
  induction kept generalizing rest with
  | nil => contradiction
  | @cons first hash codes hashes isHash kept ih =>
      simp only [consume] at consumed
      split at consumed
      · next accepted =>
          obtain ⟨short, salt, rfl⟩ := isHash
          obtain rfl := compares code salt first short accepted
          obtain rfl := Option.some.inj consumed
          exact ⟨codes, kept, List.Perm.refl _⟩
      · cases later : consume crypto code hashes with
        | none => simp [later] at consumed
        | some remaining =>
            rw [later] at consumed
            obtain rfl := Option.some.inj consumed
            obtain ⟨left, keptLeft, perm⟩ := ih later
            exact ⟨first :: left, List.Forall₂.cons isHash keptLeft,
              (perm.cons first).trans (List.Perm.swap code first left)⟩

theorem hashes_isHash (crypto : Crypto) (draws : Draws) :
    List.Forall₂ (IsHash crypto) draws.codes (draws.hashes crypto) := by
  rw [List.forall₂_iff_get]
  refine ⟨by simp [Draws.codes, Draws.hashes], fun i inside _ => ?_⟩
  have drawn : ∀ draw : RecoveryDraw,
      IsHash crypto draw.code (crypto.bcryptHash draw.salt draw.code) := by
    intro draw
    exact ⟨by rw [draw.size]; decide, draw.salt, rfl⟩
  simpa [Draws.codes, Draws.hashes] using drawn _

/-- The hashes in an account are those of the codes generated and not used. -/
structure Kept (crypto : Crypto) (history : RecoveryHistory)
    (account : Account) : Prop where
  coherent : account.Coherent
  hashed : ∃ left, List.Forall₂ (IsHash crypto) left (storedHashes account.row) ∧
    (left ++ history.used).Perm history.generated

variable {history : RecoveryHistory} {account after : Account}

theorem Kept.quiet (kept : Kept crypto history account)
    (quiet : account.Quiet after) : Kept crypto history after := by
  refine ⟨quiet.coherent kept.coherent, ?_⟩
  rw [quiet.row]
  exact kept.hashed

theorem kept_of_fresh (fresh : account.Fresh) :
    Kept crypto .empty account := by
  refine ⟨fresh.coherent, [], ?_, List.Perm.refl _⟩
  rw [fresh.noHashes]
  exact List.Forall₂.nil

theorem Kept.use (compares : crypto.ComparesOwn)
    (kept : Kept crypto history account)
    (consumed : consume crypto code (storedHashes account.row) = some rest)
    (coherent : after.Coherent) (stored : storedHashes after.row = rest) :
    history.Unused code ∧ Kept crypto (history.use code) after := by
  obtain ⟨codes, hashed, all⟩ := kept.hashed
  obtain ⟨left, hashedLeft, perm⟩ := consume_spec compares hashed consumed
  have now : (code :: left ++ history.used).Perm history.generated :=
    (perm.symm.append_right history.used).trans all
  constructor
  · unfold RecoveryHistory.Unused
    rw [← now.count_eq code]
    simp only [List.cons_append, List.count_cons_self, List.count_append]
    omega
  · refine ⟨coherent, left, stored ▸ hashedLeft, ?_⟩
    exact List.perm_middle.trans now

end TwoFactorService

/-- The state of the service with every user's recovery codes. -/
structure SecondFactorWatch where
  state : AuthState
  codes : Nat → RecoveryHistory

namespace SecondFactorWatch

/-- The codes after a ten-character code has been accepted. -/
def useCode (codes : Nat → RecoveryHistory) (userId : Nat) (code : String) :
    Nat → RecoveryHistory :=
  if utf16Length code = 10 then
    Function.update codes userId ((codes userId).use code)
  else
    codes

/-- The codes after a request that has returned. -/
def codesAfter (codes : Nat → RecoveryHistory) :
    AuthRequest → AuthResponse → Nat → RecoveryHistory
  | .enableTwoFactor userId _, .recoveryCodes generated =>
      Function.update codes userId ⟨generated, []⟩
  | .disableTwoFactor userId _, _ => Function.update codes userId .empty
  | .verifyTwoFactor token code, _ =>
      match token.payload with
      | .twoFactor userId => useCode codes userId code
      | _ => codes
  | _, _ => codes

def record (codes : Nat → RecoveryHistory) (request : AuthRequest) :
    Except AuthException AuthResponse → Nat → RecoveryHistory
  | .ok response => codesAfter codes request response
  | .error _ => codes

/-- Serve a request and follow the recovery codes. -/
def step (config : AuthConfig) (crypto : Crypto) (watch : SecondFactorWatch)
    (label : AuthEnvironment × AuthRequest) : Option SecondFactorWatch :=
  let served := run (label.2.serve config crypto label.1) watch.state
  some ⟨served.2, record watch.codes label.2 served.1⟩

/-- Every user's hashes are those of the unused codes, and nobody else has
codes. -/
structure Sound (crypto : Crypto) (watch : SecondFactorWatch) : Prop where
  kept : ∀ userId user, watch.state.accounts.find? userId = some user →
    Kept crypto (watch.codes userId) user.account
  absent : ∀ userId, watch.state.accounts.find? userId = none →
    watch.codes userId = .empty

variable {config : AuthConfig} {crypto : Crypto} {environment : AuthEnvironment}
  {watch : SecondFactorWatch} {state after : AuthState}
  {codes : Nat → RecoveryHistory} {userId : Nat} {code : String}

theorem Sound.eta (sound : Sound crypto watch) :
    Sound crypto ⟨watch.state, watch.codes⟩ :=
  sound

theorem Sound.steady (sound : Sound crypto ⟨state, codes⟩)
    (steady : Steady state after) : Sound crypto ⟨after, codes⟩ := by
  constructor
  · intro userId user found
    cases stood : state.accounts.find? userId with
    | none =>
        have fresh := steady.joined userId user stood found
        rw [sound.absent userId stood]
        exact kept_of_fresh fresh
    | some old =>
        obtain ⟨new, foundNew, quiet⟩ := steady.kept userId old stood
        rw [found] at foundNew
        obtain rfl := Option.some.inj foundNew
        exact (sound.kept userId old stood).quiet quiet
  · intro userId gone
    cases stood : state.accounts.find? userId with
    | none => exact sound.absent userId stood
    | some old =>
        obtain ⟨new, foundNew, _⟩ := steady.kept userId old stood
        rw [gone] at foundNew
        contradiction

/-- One account may change if its user's codes change with it. -/
theorem Sound.write (sound : Sound crypto ⟨state, codes⟩) {account : Account}
    {history : RecoveryHistory} (kept : Kept crypto history account) :
    Sound crypto
      ⟨{ state with accounts := state.accounts.save ⟨userId, account⟩ },
        Function.update codes userId history⟩ := by
  constructor
  · intro other user foundOther
    simp only [KeyedTable.find?_save] at foundOther
    change Kept crypto (Function.update codes userId history other) _
    split at foundOther
    · next same =>
        obtain rfl := Option.some.inj foundOther
        rw [same, Function.update_self]
        exact kept
    · next different =>
        rw [Function.update_of_ne different]
        exact sound.kept other user foundOther
  · intro other gone
    simp only [KeyedTable.find?_save] at gone
    change Function.update codes userId history other = _
    split at gone
    · contradiction
    · next different =>
        rw [Function.update_of_ne different]
        exact sound.absent other gone

/-- The code is a valid TOTP for the user's stored secret, or a recovery code
of the user that has not been used. -/
def Accepts (crypto : Crypto) (now : Int) (watch : SecondFactorWatch)
    (userId : Nat) (code : String) : Prop :=
  (∃ user, watch.state.accounts.find? userId = some user ∧
      ValidTotp crypto now user.account.row code) ∨
    (watch.codes userId).Unused code

/-- A code that is valid is acceptable and, if it is a recovery code, used up;
any other leaves everything quiet. -/
theorem validateCode_spec (compares : crypto.ComparesOwn)
    (sound : Sound crypto ⟨state, codes⟩) (environment : AuthEnvironment)
    (userId : Nat) (code : String) :
    ∃ result after,
      run (validateCode crypto environment userId code) state = (result, after) ∧
        ((result = .ok true ∧
            Accepts crypto environment.now ⟨state, codes⟩ userId code ∧
              (after.accounts.find? userId).isSome ∧
                Sound crypto ⟨after, useCode codes userId code⟩) ∨
          (result ≠ .ok true ∧ Steady state after)) := by
  unfold validateCode
  cases present : state.accounts.find? userId with
  | none =>
      simp only [run_onAccount_none present, apply_ite (fun call => run call state)]
      split
      · exact ⟨_, _, rfl, Or.inr ⟨nofun, Steady.refl _⟩⟩
      · split
        · exact ⟨_, _, rfl, Or.inr ⟨nofun, Steady.refl _⟩⟩
        · exact ⟨_, _, rfl, Or.inr ⟨nofun, Steady.refl _⟩⟩
  | some found =>
      have kept := sound.kept userId found present
      split
      · next six =>
          obtain ⟨valid, account, ran, quiet, totp⟩ :=
            validateTwoFactorCode_spec crypto environment.toUserEnvironment userId
              code kept.coherent
          rw [run_onAccount_some present, ran]
          refine ⟨_, _, rfl, ?_⟩
          cases valid with
          | false => exact Or.inr ⟨nofun, steady_save present quiet⟩
          | true =>
              have unchanged : useCode codes userId code = codes := by
                simp [useCode, six]
              rw [unchanged]
              exact Or.inl ⟨rfl, Or.inl ⟨found, present, totp rfl⟩, by simp,
                sound.steady (steady_save present quiet)⟩
      · split
        · next ten =>
            obtain ⟨valid, account, ran, outcome⟩ :=
              validateRecoveryCode_spec crypto environment.toUserEnvironment
                userId code kept.coherent
            rw [run_onAccount_some present, ran]
            refine ⟨_, _, rfl, ?_⟩
            rcases outcome with ⟨rfl, quiet⟩ |
              ⟨rfl, coherent, rest, consumed, stored, _⟩
            · exact Or.inr ⟨nofun, steady_save present quiet⟩
            · obtain ⟨unused, keptAfter⟩ :=
                kept.use compares consumed coherent stored
              rw [useCode, if_pos ten]
              exact Or.inl ⟨rfl, Or.inr unused, by simp,
                sound.write keptAfter⟩
        · exact ⟨_, _, rfl, Or.inr ⟨nofun, Steady.refl _⟩⟩

/-- A verification that returns was entitled to, and one that throws changes
nothing about recovery codes. -/
theorem verifyTwoFactor_spec (compares : crypto.ComparesOwn)
    (sound : Sound crypto ⟨state, codes⟩) (config : AuthConfig)
    (environment : AuthEnvironment) (token : Jwt) (code : String) :
    ∃ result after,
      run (verifyTwoFactor config crypto environment token code) state =
          (result, after) ∧
        Sound crypto
            ⟨after, record codes (.verifyTwoFactor token code) result⟩ ∧
          ∀ response, result = .ok response →
            ∃ userId, IssuedTo userId response ∧ token ∈ state.signed ∧
              JwtService.unexpired environment.now token = true ∧
                token.payload = .twoFactor userId ∧
                  Accepts crypto environment.now ⟨state, codes⟩ userId code := by
  unfold verifyTwoFactor
  rw [run_bind]
  rcases checked : run (JwtService.verify environment.now token
    "Invalid or expired two-factor token") state with ⟨error | payload, next⟩
  · have same : next = state := by
      have reads := congrArg Prod.snd checked
      exact reads.symm
    rw [same]
    exact ⟨_, _, rfl, sound, nofun⟩
  · obtain ⟨rfl, signed, live, rfl⟩ := JwtService.run_verify_ok checked
    simp only
    cases named : token.payload with
    | access | register => exact ⟨_, _, rfl, sound, nofun⟩
    | twoFactor userId =>
        obtain ⟨result, after, ran, outcome⟩ :=
          validateCode_spec compares sound environment userId code
        simp only
        rw [run_bind, ran]
        rcases outcome with ⟨rfl, accepts, present, soundAfter⟩ |
          ⟨refused, steady⟩
        · obtain ⟨user, found⟩ := Option.isSome_iff_exists.mp present
          obtain ⟨response, last, issues, issued, steady⟩ :=
            issueTokens_spec config crypto environment found
          refine ⟨.ok response, last, issues, ?_, ?_⟩
          · simp only [record, codesAfter, named]
            exact soundAfter.steady steady
          · intro returned same
            obtain rfl := Except.ok.inj same
            exact ⟨userId, issued, signed, live, rfl, accepts⟩
        · rcases result with error | valid
          · exact ⟨_, _, rfl, sound.steady steady, nofun⟩
          · cases valid with
            | true => exact absurd rfl refused
            | false => exact ⟨_, _, rfl, sound.steady steady, nofun⟩

theorem Sound.enableTwoFactor (sound : Sound crypto watch)
    {after : SecondFactorWatch}
    (taken : watch.step config crypto
      (environment, .enableTwoFactor userId code) = some after) :
    Sound crypto after := by
  obtain rfl := Option.some.inj taken
  simp only [AuthRequest.serve]
  cases present : watch.state.accounts.find? userId with
  | none =>
      rw [run_bind, run_onAccount_none present]
      exact sound
  | some found =>
      obtain ⟨result, account, ran, outcome⟩ :=
        enableTwoFactor_spec crypto environment.toUserEnvironment userId
          environment.draws code found.account
      rw [run_bind, run_onAccount_some present, ran]
      rcases outcome with ⟨error, rfl, quiet⟩ | ⟨rfl, coherent, stored⟩
      · exact Sound.steady sound (steady_save present quiet)
      · refine Sound.write sound ⟨coherent, environment.draws.codes, ?_, ?_⟩
        · rw [stored]
          exact hashes_isHash crypto environment.draws
        · rw [List.append_nil]

theorem Sound.disableTwoFactor (sound : Sound crypto watch)
    {code : Option String} {after : SecondFactorWatch}
    (taken : watch.step config crypto
      (environment, .disableTwoFactor userId code) = some after) :
    Sound crypto after := by
  obtain rfl := Option.some.inj taken
  simp only [AuthRequest.serve]
  cases present : watch.state.accounts.find? userId with
  | none =>
      rw [run_bind, run_onAccount_none present]
      exact sound
  | some found =>
      obtain ⟨result, account, ran, outcome⟩ :=
        disableTwoFactor_spec crypto environment.toUserEnvironment userId code
          (sound.kept userId found present).coherent
      rw [run_bind, run_onAccount_some present, ran]
      rcases outcome with ⟨error, rfl, quiet⟩ | ⟨rfl, coherent, noHashes⟩
      · exact Sound.steady sound (steady_save present quiet)
      · exact Sound.write sound (kept_of_fresh ⟨coherent, noHashes⟩)

/-- A request that is steady and about no recovery codes keeps them sound. -/
theorem Sound.quietly (sound : Sound crypto watch) {request : AuthRequest}
    {after : SecondFactorWatch}
    (taken : watch.step config crypto (environment, request) = some after)
    (steady : Steady watch.state
      (run (request.serve config crypto environment) watch.state).2)
    (silent : ∀ response, codesAfter watch.codes request response = watch.codes) :
    Sound crypto after := by
  obtain rfl := Option.some.inj taken
  have same : record watch.codes request
      (run (request.serve config crypto environment) watch.state).1 =
        watch.codes := by
    cases (run (request.serve config crypto environment) watch.state).1 with
    | error error => rfl
    | ok response => exact silent response
  simp only [same]
  exact Sound.steady sound steady

theorem Sound.step (compares : crypto.ComparesOwn) (sound : Sound crypto watch)
    {label : AuthEnvironment × AuthRequest} {after : SecondFactorWatch}
    (taken : watch.step config crypto label = some after) :
    Sound crypto after := by
  obtain ⟨environment, request⟩ := label
  cases request with
  | requestFlashCall phone =>
      obtain rfl := Option.some.inj taken
      simp only [AuthRequest.serve, AuthService.requestFlashCall, run_bind, run_lift]
      cases orderCall config environment with
      | error error => exact sound
      | ok digits => exact ⟨sound.kept, sound.absent⟩
  | verifyFlashCall phone lastFourDigits =>
      obtain rfl := Option.some.inj taken
      simp only [AuthRequest.serve]
      cases passed : checkDigits environment watch.state
          (cleanPhoneNumber phone) lastFourDigits with
      | error error =>
          rw [verifyFlashCall_error passed]
          exact sound
      | ok =>
          obtain ⟨response, last, ran, steady, _⟩ :=
            verifyFlashCall_ok config crypto passed
          rw [ran]
          have before : Sound crypto
              ⟨usedUp watch.state (cleanPhoneNumber phone), watch.codes⟩ :=
            ⟨sound.kept, sound.absent⟩
          exact before.steady steady
  | completeRegistration dto =>
      exact sound.quietly taken (completeRegistration_spec config crypto environment
        dto watch.state).1
        fun _ => rfl
  | login dto =>
      exact sound.quietly taken (login_spec config crypto environment dto
        watch.state).1
        fun _ => rfl
  | refresh refreshToken =>
      exact sound.quietly taken (steady_refresh config crypto environment refreshToken
        watch.state)
        fun _ => rfl
  | logout refreshToken =>
      exact sound.quietly taken (steady_logout crypto environment refreshToken
        watch.state)
        fun _ => rfl
  | verifyTwoFactor twoFactorToken code =>
      obtain rfl := Option.some.inj taken
      obtain ⟨result, last, ran, soundAfter, _⟩ :=
        verifyTwoFactor_spec compares sound.eta config environment
          twoFactorToken code
      simp only [AuthRequest.serve, ran]
      exact soundAfter
  | generateSecret userId =>
      refine sound.quietly taken ?_ fun _ => rfl
      exact Steady.bind (steady_onAccount fun account =>
        quiet_generateSecret _ _ _ account) fun _ next _ => Steady.refl next
  | enableTwoFactor userId code =>
      exact sound.enableTwoFactor taken
  | disableTwoFactor userId code =>
      exact sound.disableTwoFactor taken

end SecondFactorWatch

open SecondFactorWatch

variable {config : AuthConfig} {crypto : Crypto}
  {start watch : SecondFactorWatch}

/-- Where a request that returns tokens for a user with a second factor has
them from. -/
theorem SecondFactorWatch.Sound.entitled (compares : crypto.ComparesOwn)
    (sound : Sound crypto watch) {environment : AuthEnvironment}
    {request : AuthRequest} {response : AuthResponse} {after : AuthState}
    {userId : Nat} {user : UserAccount}
    (served : Fallible.run (AuthRequest.serve config crypto environment request)
      watch.state = (.ok response, after))
    (issued : IssuedTo userId response)
    (found : after.accounts.find? userId = some user)
    (on : user.account.row .twoFaEnabled = true) :
    (∃ refreshToken token, request = .refresh refreshToken ∧
      Presented crypto environment.now watch.state refreshToken token ∧
        token.userId = userId) ∨
      ∃ token code, request = .verifyTwoFactor token code ∧
        token ∈ watch.state.signed ∧
          JwtService.unexpired environment.now token = true ∧
            token.payload = .twoFactor userId ∧
              Accepts crypto environment.now watch userId code := by
  have steadyAfter (steady : Steady watch.state
      (Fallible.run (AuthRequest.serve config crypto environment request)
        watch.state).2) : Steady watch.state after := by
    rwa [served] at steady
  cases request with
  | verifyFlashCall phone lastFourDigits =>
      cases passed : checkDigits environment watch.state
          (cleanPhoneNumber phone) lastFourDigits with
      | error error =>
          rw [AuthRequest.serve, verifyFlashCall_error passed] at served
          exact absurd (Prod.mk.inj served).1 (by simp)
      | ok =>
          obtain ⟨_, _, ran, steady, without⟩ :=
            verifyFlashCall_ok config crypto passed
          rw [AuthRequest.serve, ran] at served
          obtain ⟨same, rfl⟩ := Prod.mk.inj served
          obtain rfl := Except.ok.inj same
          have off : WithoutSecondFactor
              (usedUp watch.state (cleanPhoneNumber phone)) userId :=
            without userId issued
          exact absurd on ((off.steady steady).not_enabled found)
  | completeRegistration dto =>
      have off := (completeRegistration_spec config crypto environment dto
        watch.state).2 response after userId served issued
      exact absurd on (off.not_enabled found)
  | login dto =>
      obtain ⟨steady, without⟩ :=
        login_spec config crypto environment dto watch.state
      have off := without response after userId served issued
      exact absurd on ((off.steady (steadyAfter steady)).not_enabled found)
  | refresh refreshToken =>
      obtain ⟨token, presented, owner⟩ := refresh_issues served issued
      exact Or.inl ⟨refreshToken, token, rfl, presented, owner⟩
  | verifyTwoFactor twoFactorToken code =>
      obtain ⟨result, _, ran, _, entitled⟩ :=
        verifyTwoFactor_spec compares sound.eta config environment
          twoFactorToken code
      rw [AuthRequest.serve, ran] at served
      obtain ⟨other, issuedOther, signed, live, named, accepts⟩ :=
        entitled response (Prod.mk.inj served).1
      obtain rfl := issuedOther.unique issued
      exact Or.inr ⟨twoFactorToken, code, rfl, signed, live, named, accepts⟩
  | requestFlashCall | logout | generateSecret | enableTwoFactor
  | disableTwoFactor =>
      exact absurd issued (not_issuedTo_of_returns nofun served)

/-- A payload that is accepted is that of an access token. -/
theorem JwtStrategy.validate_access {environment : UserEnvironment}
    {payload : JwtPayload} {state after : AuthState} {bearer}
    (accepted : Fallible.run (JwtStrategy.validate environment payload) state =
      (.ok bearer, after)) :
    ∃ sub roles, payload = .access sub roles := by
  cases payload with
  | access sub roles => exact ⟨sub, roles, rfl⟩
  | twoFactor sub => exact absurd (Prod.mk.inj accepted).1 (by simp)
  | register phone => exact absurd (Prod.mk.inj accepted).1 (by simp)

/-- In every state of every run: tokens for a user whose row asks for a second
factor when the request returns come from a valid refresh token of the user, or
from a verification with a token for the second factor and an acceptable code.
Only access tokens are accepted as bearer tokens. -/
theorem second_factor_required (compares : crypto.ComparesOwn)
    (sound : Sound crypto start)
    (run : Reachable (SecondFactorWatch.step config crypto) start watch) :
    (∀ environment request response after userId user,
      Fallible.run (AuthRequest.serve config crypto environment request)
          watch.state = (.ok response, after) →
        IssuedTo userId response → after.accounts.find? userId = some user →
          user.account.row .twoFaEnabled = true →
            (∃ refreshToken token, request = .refresh refreshToken ∧
              Presented crypto environment.now watch.state refreshToken token ∧
                token.userId = userId) ∨
              ∃ token code, request = .verifyTwoFactor token code ∧
                token ∈ watch.state.signed ∧
                  JwtService.unexpired environment.now token = true ∧
                    token.payload = .twoFactor userId ∧
                      Accepts crypto environment.now watch userId code) ∧
      ∀ environment payload state bearer after,
        Fallible.run (JwtStrategy.validate environment payload) state =
            (.ok bearer, after) →
          ∃ sub roles, payload = .access sub roles := by
  have soundNow : Sound crypto watch :=
    Run.invariant (Sound crypto) sound
      (fun _ _ _ sound _ taken => sound.step compares taken) run
  constructor
  · intro environment request response after userId user served issued found on
    exact soundNow.entitled compares served issued found on
  · intro environment payload state bearer after accepted
    exact JwtStrategy.validate_access accepted

/-- A user with a second factor and one recovery code. -/
private def protectedRow : User :=
  ColumnRecords.assign
    (UsersService.newRow "+79001234567" "password" "Ivan" "Petrov" none 0)
    (ColumnRecords.overlay (enabledWith "secret") (withHashes ["0a1b2c3d4e"]))

private def protectedStart : SecondFactorWatch where
  state := { AuthState.empty with
    accounts := KeyedTable.empty.insert (UsersService.newAccount protectedRow)
      (UsersService.newAccount_id protectedRow)
    signed := [⟨.twoFactor 1, 300⟩] }
  codes := Function.update (fun _ => .empty) 1 ⟨["0a1b2c3d4e"], []⟩

private theorem protectedStart_sound : Sound Crypto.plain protectedStart := by
  constructor
  · intro userId user found
    have stored : protectedStart.state.accounts.find? userId = some user := found
    simp only [protectedStart, KeyedTable.find?_insert] at stored
    split at stored
    · next same =>
        obtain rfl := Option.some.inj stored
        obtain rfl : userId = 1 := same
        refine ⟨Account.coherent_of_empty rfl, ["0a1b2c3d4e"], ?_, List.Perm.refl _⟩
        exact List.Forall₂.cons ⟨by decide, "salt", rfl⟩ List.Forall₂.nil
    · contradiction
  · intro userId gone
    have different : userId ≠ 1 := by
      rintro rfl
      contradiction
    simp [protectedStart, different]

/-- A login that ends with a recovery code. -/
theorem second_factor_required_sample :
    ∃ watch response after user,
      Reachable (SecondFactorWatch.step ⟨30, 900, false⟩ Crypto.plain)
          protectedStart watch ∧
        Fallible.run (AuthRequest.serve ⟨30, 900, false⟩ Crypto.plain
            (AuthEnvironment.plain 0 .failed)
            (.verifyTwoFactor ⟨.twoFactor 1, 300⟩ "0a1b2c3d4e"))
            watch.state = (.ok response, after) ∧
          IssuedTo 1 response ∧ after.accounts.find? 1 = some user ∧
            user.account.row .twoFaEnabled = true ∧
              Accepts Crypto.plain 0 watch 1 "0a1b2c3d4e" := by
  have required := (@second_factor_required ⟨30, 900, false⟩ Crypto.plain _ _
    Crypto.plain_comparesOwn protectedStart_sound Run.start).1
  refine ⟨_, _, _, _, Run.start, rfl, ⟨_, _, _, rfl, rfl⟩, rfl, rfl, ?_⟩
  rcases required (AuthEnvironment.plain 0 .failed)
      (.verifyTwoFactor ⟨.twoFactor 1, 300⟩ "0a1b2c3d4e") _ _ 1 _ rfl
      ⟨_, _, _, rfl, rfl⟩ rfl rfl with
    ⟨_, _, same, _⟩ | ⟨_, _, same, _, _, _, accepts⟩
  · contradiction
  · obtain ⟨rfl, rfl⟩ := AuthRequest.verifyTwoFactor.inj same
    exact accepts

end SpareSpace
