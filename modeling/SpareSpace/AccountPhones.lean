import SpareSpace.AuthOutcomes

/-!
# Which requests leave the phones alone

An update writes every column of the user it has loaded, the phone included, so a call
keeps the phone only as long as the cached profile agrees with the row.  Under this
agreement every request but a registration leaves all phones as they are, and a
registration token is signed for a phone without separators only.
-/

namespace SpareSpace

open ColumnRecords Fallible RedisService

theorem cleanPhoneNumber_clean (phone : String) :
    cleanPhoneNumber (cleanPhoneNumber phone) = cleanPhoneNumber phone := by
  simp [cleanPhoneNumber, List.filter_filter]

namespace Account

/-- The phone is kept while the cached profile agrees with the row, which stays so. -/
def KeepsPhone (before after : Account) : Prop :=
  before.Coherent → after.Coherent ∧ after.row .phone = before.row .phone

variable {before middle after account : Account}

theorem KeepsPhone.refl (account : Account) : account.KeepsPhone account :=
  fun coherent => ⟨coherent, rfl⟩

theorem KeepsPhone.trans (first : before.KeepsPhone middle)
    (second : middle.KeepsPhone after) : before.KeepsPhone after := by
  intro coherent
  obtain ⟨between, phone⟩ := first coherent
  obtain ⟨last, same⟩ := second between
  exact ⟨last, same.trans phone⟩

theorem Quiet.keepsPhone (quiet : before.Quiet after) : before.KeepsPhone after :=
  fun coherent => ⟨quiet.coherent coherent, congrFun quiet.row .phone⟩

theorem KeepsPhone.bind {α β : Type} {call : AccountCall α} {rest : α → AccountCall β}
    (first : account.KeepsPhone (run call account).2)
    (later : ∀ value (next : Account), next.KeepsPhone (run (rest value) next).2) :
    account.KeepsPhone (run (call >>= rest) account).2 :=
  related_bind (fun first second => first.trans second) first
    fun value next _ => later value next

end Account

open Account

namespace UsersService

variable {environment : UserEnvironment} {id : Nat} {account : Account}

theorem keepsPhone_findById (environment : UserEnvironment) (id : Nat)
    (account : Account) : account.KeepsPhone (run (findById environment id) account).2 := by
  obtain ⟨user, after, ran, loads⟩ := findById_spec environment id account
  rw [ran]
  exact loads.quiet.keepsPhone

/-- An update keeps the phone if it does not set it. -/
theorem keepsPhone_update {patch : PartialUser} (unset : patch .phone = none)
    (environment : UserEnvironment) (id : Nat) (account : Account) :
    account.KeepsPhone (run (update environment id patch) account).2 := by
  rcases update_cases patch environment id account with
    ⟨error, ran⟩ | ⟨user, after, ran, wrote⟩
  · rw [ran]
    exact .refl account
  · rw [ran]
    exact fun coherent =>
      ⟨wrote.coherent, (wrote.profile coherent .phone rfl).trans (assign_of_none unset)⟩

/-- An update that returns has found nobody with the values it gives. -/
theorem untaken_of_update {patch user : PartialUser} {after : Account}
    (ran : run (update environment id patch) account = (.ok user, after))
    {column : UniqueColumn} (given : column.given patch = true) :
    environment.taken column = false := by
  unfold update at ran
  obtain ⟨_, _, checked, _⟩ := bind_ok ran
  have passed := of_forM_lift_ok checked column (by cases column <;> simp [UniqueColumn.all])
  simpa [checkUnique, given] using passed

theorem keepsPhone_getUserRoles (environment : UserEnvironment) (account : Account) :
    account.KeepsPhone (run (getUserRoles environment) account).2 := by
  obtain ⟨roles, after, ran, quiet⟩ := getUserRoles_spec environment account
  rw [ran]
  exact quiet.keepsPhone

end UsersService

namespace TwoFactorService

open UsersService

variable (crypto : Crypto) (environment : UserEnvironment) (userId : Nat)
  (account : Account)

theorem keepsPhone_validateTwoFactorCode (code : String) :
    account.KeepsPhone
      (run (validateTwoFactorCode crypto environment userId code) account).2 := by
  unfold validateTwoFactorCode
  exact KeepsPhone.bind (keepsPhone_findById environment userId account)
    fun _ next => .refl next

theorem keepsPhone_validateRecoveryCode (code : String) :
    account.KeepsPhone
      (run (validateRecoveryCode crypto environment userId code) account).2 := by
  unfold validateRecoveryCode
  refine KeepsPhone.bind (keepsPhone_findById environment userId account)
    fun user next => ?_
  split
  · exact .refl next
  · split
    · exact .refl next
    · exact KeepsPhone.bind (keepsPhone_update rfl environment userId next)
        fun _ last => .refl last

theorem keepsPhone_enableTwoFactor (draws : Draws) (code : String) :
    account.KeepsPhone
      (run (enableTwoFactor crypto environment userId draws code) account).2 := by
  unfold enableTwoFactor generateAndStoreRecoveryCodes
  refine KeepsPhone.bind (keepsPhone_findById environment userId account)
    fun user found => ?_
  split
  · exact .refl found
  · refine KeepsPhone.bind (.refl found) fun tempSecret next => ?_
    split
    · exact .refl next
    · split
      · exact .refl next
      · refine KeepsPhone.bind (keepsPhone_update rfl environment userId next)
          fun _ enabled => ?_
        refine KeepsPhone.bind (KeepsPhone.bind
          (keepsPhone_update rfl environment userId enabled) fun _ last => .refl last)
          fun _ stored => ?_
        exact KeepsPhone.bind (Quiet.of_eq rfl rfl).keepsPhone fun _ last => .refl last

theorem keepsPhone_checkDisabling (code : Option String) :
    account.KeepsPhone
      (run (checkDisabling crypto environment userId code) account).2 := by
  unfold checkDisabling
  split
  · exact .refl account
  · refine KeepsPhone.bind (keepsPhone_validateTwoFactorCode crypto environment userId
      account _) fun valid next => ?_
    cases valid with
    | true => exact .refl next
    | false =>
        refine KeepsPhone.bind (keepsPhone_validateRecoveryCode crypto environment userId
          next _) fun accepted last => ?_
        cases accepted <;> exact .refl last

theorem keepsPhone_disableTwoFactor (code : Option String) :
    account.KeepsPhone
      (run (disableTwoFactor crypto environment userId code) account).2 := by
  unfold disableTwoFactor
  refine KeepsPhone.bind (keepsPhone_findById environment userId account)
    fun user found => ?_
  cases enabled user with
  | false => exact .refl found
  | true =>
      simp only [Bool.not_true, Bool.false_eq_true, if_false]
      exact KeepsPhone.bind (keepsPhone_checkDisabling crypto environment userId found code)
        fun _ checked => KeepsPhone.bind (keepsPhone_update rfl environment userId checked)
          fun _ last => .refl last

end TwoFactorService

/-- A token for a registration names a phone without separators. -/
def Jwt.Clean (token : Jwt) : Prop :=
  ∀ phone, token.payload = .register phone →
    cleanPhoneNumber phone = phone ∧ phone ≠ ""

namespace AuthState

/-- The cached profiles agree with the rows. -/
def Coherent (state : AuthState) : Prop :=
  ∀ userId user, state.accounts.find? userId = some user → user.account.Coherent

def phoneOf (state : AuthState) (userId : Nat) : Option String :=
  (state.accounts.find? userId).map fun user => user.account.row .phone

/-- The users have their phones as before. -/
structure SamePhones (before after : AuthState) : Prop where
  coherent : after.Coherent
  phones : after.phoneOf = before.phoneOf
  signed : ∀ token ∈ after.signed, token ∈ before.signed ∨ token.Clean

/-- The phones are kept while the cached profiles agree with the rows. -/
def KeepsPhones (before after : AuthState) : Prop :=
  before.Coherent → before.SamePhones after

variable {before middle after state : AuthState} {userId : Nat}

theorem KeepsPhones.refl (state : AuthState) : state.KeepsPhones state :=
  fun coherent => ⟨coherent, rfl, fun _ => Or.inl⟩

theorem KeepsPhones.trans (first : before.KeepsPhones middle)
    (second : middle.KeepsPhones after) : before.KeepsPhones after := by
  intro coherent
  have half := first coherent
  have rest := second half.coherent
  refine ⟨rest.coherent, rest.phones.trans half.phones, fun token present => ?_⟩
  rcases rest.signed token present with old | clean
  · exact half.signed token old
  · exact Or.inr clean

theorem KeepsPhones.bind {α β : Type} {call : AuthCall α} {rest : α → AuthCall β}
    (first : state.KeepsPhones (run call state).2)
    (later : ∀ value (next : AuthState), next.KeepsPhones (run (rest value) next).2) :
    state.KeepsPhones (run (call >>= rest) state).2 :=
  related_bind (fun first second => first.trans second) first
    fun value next _ => later value next

theorem KeepsPhones.of_eq (accounts : after.accounts = before.accounts)
    (signed : after.signed = before.signed) : before.KeepsPhones after := by
  intro coherent
  refine ⟨?_, ?_, fun token present => Or.inl (signed ▸ present)⟩
  · unfold Coherent
    rw [accounts]
    exact coherent
  · unfold phoneOf
    rw [accounts]

/-- An account written back with its phone. -/
theorem keepsPhones_save {found : UserAccount} {account : Account}
    (present : state.accounts.find? userId = some found)
    (keeps : found.account.KeepsPhone account) :
    state.KeepsPhones
      { state with accounts := state.accounts.save ⟨userId, account⟩ } := by
  intro coherent
  obtain ⟨kept, phone⟩ := keeps (coherent userId found present)
  refine ⟨fun other user located => ?_, funext fun other => ?_, fun _ => Or.inl⟩
  · rw [KeyedTable.find?_save] at located
    split at located
    · exact Option.some.inj located ▸ kept
    · exact coherent other user located
  · unfold phoneOf
    rw [KeyedTable.find?_save]
    split
    · next same =>
        rw [same, present]
        exact congrArg some phone
    · rfl

/-- A call on one account that keeps its phone keeps all phones. -/
theorem keepsPhones_onAccount {α : Type} {missing : HttpException} {call : AccountCall α}
    (keeps : ∀ account : Account, account.KeepsPhone (run call account).2) :
    state.KeepsPhones (run (onAccount userId missing call) state).2 := by
  cases present : state.accounts.find? userId with
  | none =>
      rw [run_onAccount_none present]
      exact .refl state
  | some found =>
      rw [run_onAccount_some present]
      exact keepsPhones_save present (keeps found.account)

theorem keepsPhones_sign (now expiresIn : Int) {payload : JwtPayload}
    (clean : ∀ phone, payload = .register phone →
      cleanPhoneNumber phone = phone ∧ phone ≠ "") (state : AuthState) :
    state.KeepsPhones (run (JwtService.sign now expiresIn payload) state).2 := by
  intro coherent
  refine ⟨coherent, rfl, fun token present => ?_⟩
  rcases List.mem_cons.mp present with rfl | old
  · exact Or.inr clean
  · exact Or.inl old

end AuthState

namespace AuthService

open AuthState TwoFactorService UsersService

variable (config : AuthConfig) (crypto : Crypto) (environment : AuthEnvironment)
  (state : AuthState)

theorem keepsPhones_issueTokens (userId : Nat) :
    state.KeepsPhones (run (issueTokens config crypto environment userId) state).2 := by
  unfold issueTokens
  refine KeepsPhones.bind (keepsPhones_onAccount (keepsPhone_getUserRoles _))
    fun roles next => ?_
  refine KeepsPhones.bind (keepsPhones_sign _ _ (fun _ other => by contradiction) next)
    fun token signed => ?_
  exact KeepsPhones.bind (.of_eq rfl rfl) fun _ last => .refl last

theorem keepsPhones_signIn (user : UserAccount) :
    state.KeepsPhones (run (signIn config crypto environment user) state).2 := by
  unfold signIn
  split
  · exact KeepsPhones.bind (keepsPhones_sign _ _ (fun _ other => by contradiction) state)
      fun _ last => .refl last
  · exact keepsPhones_issueTokens config crypto environment state user.id

/-- A verification signs a token for the phone without its separators. -/
theorem keepsPhones_verifyFlashCall {phone : String} (spelled : cleanPhoneNumber phone ≠ "")
    (lastFourDigits : String) :
    state.KeepsPhones
      (run (verifyFlashCall config crypto environment phone lastFourDigits) state).2 := by
  unfold verifyFlashCall
  refine KeepsPhones.bind (.refl state) fun _ checked => ?_
  refine KeepsPhones.bind (.of_eq rfl rfl) fun _ used => ?_
  refine KeepsPhones.bind (.refl used) fun found next => ?_
  cases found with
  | none =>
      refine KeepsPhones.bind (keepsPhones_sign _ _ ?_ next) fun _ last => .refl last
      intro registered same
      obtain rfl := JwtPayload.register.inj same
      exact ⟨cleanPhoneNumber_clean phone, spelled⟩
  | some user => exact keepsPhones_signIn config crypto environment next user

theorem keepsPhones_login (dto : LoginDto) :
    state.KeepsPhones (run (login config crypto environment dto) state).2 := by
  unfold login
  refine KeepsPhones.bind (.refl state) fun user next => ?_
  split
  · exact .refl next
  · exact keepsPhones_signIn config crypto environment next user

theorem keepsPhones_spend (refreshToken message : String) :
    state.KeepsPhones (run (spend crypto environment refreshToken message) state).2 := by
  unfold spend
  refine KeepsPhones.bind (.refl state) fun token next => ?_
  exact KeepsPhones.bind (.of_eq rfl rfl) fun _ last => .refl last

theorem keepsPhones_validateCode (userId : Nat) (code : String) :
    state.KeepsPhones (run (validateCode crypto environment userId code) state).2 := by
  unfold validateCode
  split
  · exact keepsPhones_onAccount fun account =>
      keepsPhone_validateTwoFactorCode crypto _ userId account code
  · split
    · exact keepsPhones_onAccount fun account =>
        keepsPhone_validateRecoveryCode crypto _ userId account code
    · exact .refl state

theorem keepsPhones_verifyTwoFactor (token : Jwt) (code : String) :
    state.KeepsPhones
      (run (verifyTwoFactor config crypto environment token code) state).2 := by
  unfold verifyTwoFactor
  refine KeepsPhones.bind (.refl state) fun payload verified => ?_
  cases payload with
  | access | register => exact .refl verified
  | twoFactor userId =>
      refine KeepsPhones.bind (keepsPhones_validateCode crypto environment verified userId
        code) fun valid next => ?_
      cases valid with
      | true => exact keepsPhones_issueTokens config crypto environment next userId
      | false => exact .refl next

end AuthService

/-- The requests other than registrations, with a phone that has more than separators. -/
def AuthRequest.Quiet : AuthRequest → Prop
  | verifyFlashCall phone _ => cleanPhoneNumber phone ≠ ""
  | completeRegistration _ => False
  | _ => True

open AuthService AuthState in
theorem AuthRequest.keepsPhones_serve {request : AuthRequest} (quiet : request.Quiet)
    (config : AuthConfig) (crypto : Crypto) (environment : AuthEnvironment)
    (state : AuthState) :
    state.KeepsPhones (run (request.serve config crypto environment) state).2 := by
  cases request with
  | requestFlashCall phone =>
      refine KeepsPhones.bind ?_ fun _ last => .refl last
      unfold AuthService.requestFlashCall
      exact KeepsPhones.bind (.refl state) fun _ next => .of_eq rfl rfl
  | verifyFlashCall phone lastFourDigits =>
      exact keepsPhones_verifyFlashCall config crypto environment state quiet lastFourDigits
  | completeRegistration dto => exact quiet.elim
  | login dto => exact keepsPhones_login config crypto environment state dto
  | refresh refreshToken =>
      exact KeepsPhones.bind (keepsPhones_spend crypto environment state _ _)
        fun token next => keepsPhones_issueTokens config crypto environment next token.userId
  | logout refreshToken =>
      exact KeepsPhones.bind (keepsPhones_spend crypto environment state _ _)
        fun _ last => .refl last
  | verifyTwoFactor token code =>
      exact keepsPhones_verifyTwoFactor config crypto environment state token code
  | generateSecret userId =>
      exact KeepsPhones.bind (keepsPhones_onAccount fun account =>
        (TwoFactorService.quiet_generateSecret _ userId _ account).keepsPhone)
        fun _ last => .refl last
  | enableTwoFactor userId code =>
      exact KeepsPhones.bind (keepsPhones_onAccount fun account =>
        TwoFactorService.keepsPhone_enableTwoFactor crypto _ userId account _ code)
        fun _ last => .refl last
  | disableTwoFactor userId code =>
      exact KeepsPhones.bind (keepsPhones_onAccount fun account =>
        TwoFactorService.keepsPhone_disableTwoFactor crypto _ userId account code)
        fun _ last => .refl last

end SpareSpace
