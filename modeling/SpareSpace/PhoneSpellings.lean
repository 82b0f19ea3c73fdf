import SpareSpace.AccountPhones
import SpareSpace.TelegramLinks

/-!
# Phones found however they are typed

Registrations keep a phone without its separators, and logins and verifications look for
a phone without them, while a profile update keeps the phone as it was typed.  Every
phone is found, and no number has two users, in every run whose profile updates give
phones without separators.
-/

namespace SpareSpace

open ColumnRecords Fallible TransitionRuns UsersService AuthState AuthService

/-- A request to the authentication endpoints, or a profile update of a user. -/
inductive PhoneRequest
  | auth (request : AuthRequest)
  | updateProfile (userId : Nat) (patch : PartialUser)

/-- What an update finds outside the account it is on. -/
def AuthState.environment (state : AuthState) (now : Int) (patch : PartialUser) :
    UserEnvironment where
  now := now
  taken column :=
    state.accounts.rows.any fun user => column.shared patch user.account.row

namespace PhoneRequest

/-- The state that a whole request leaves, whatever it returned. -/
def after (config : AuthConfig) (crypto : Crypto) (environment : AuthEnvironment)
    (state : AuthState) : PhoneRequest → AuthState
  | auth request => (run (request.serve config crypto environment) state).2
  | updateProfile userId patch =>
      (run (onAccount userId (userNotFound userId)
        (UsersService.update (state.environment environment.now patch) userId patch))
        state).2

/-- The phones in the request are ones that its DTO accepts. -/
def Accepted (isPhoneNumber : String → Bool) : PhoneRequest → Prop
  | auth (.verifyFlashCall phone _) => isPhoneNumber phone = true
  | updateProfile _ patch => ∀ phone, patch .phone = some phone →
      isPhoneNumber phone = true
  | _ => True

/-- A profile update gives a phone without separators. -/
def GivesClean : PhoneRequest → Prop
  | updateProfile _ patch => ∀ phone, patch .phone = some phone →
      cleanPhoneNumber phone = phone
  | auth _ => True

end PhoneRequest

/-- One whole request after another. -/
def phoneStep (config : AuthConfig) (crypto : Crypto) (state : AuthState)
    (label : AuthEnvironment × PhoneRequest) : Option AuthState :=
  some (label.2.after config crypto label.1 state)

/-- Every spelling of a user's phone selects the user, at a login and at a verification
whose digits pass, and no two phones are spellings of one. -/
structure AuthState.FindsPhones (state : AuthState) : Prop where
  login : ∀ user ∈ state.accounts.rows, ∀ dto phone, dto.phone = some phone →
    cleanPhoneNumber phone = cleanPhoneNumber (user.account.row .phone) →
    findLogin dto state = .ok user
  verifies : ∀ user ∈ state.accounts.rows, ∀ config crypto environment phone digits,
    cleanPhoneNumber phone = cleanPhoneNumber (user.account.row .phone) →
    checkDigits environment state (cleanPhoneNumber phone) digits = .ok () →
    run (verifyFlashCall config crypto environment phone digits) state =
      run (signIn config crypto environment user)
        (usedUp state (cleanPhoneNumber phone))
  single : ∀ first ∈ state.accounts.rows, ∀ second ∈ state.accounts.rows,
    cleanPhoneNumber (first.account.row .phone) =
      cleanPhoneNumber (second.account.row .phone) → first = second

/-- The users have different phones without separators, and so have the registration
tokens. -/
structure AuthState.PhonesClean (state : AuthState) : Prop where
  coherent : state.Coherent
  clean : ∀ userId phone, state.phoneOf userId = some phone →
    cleanPhoneNumber phone = phone ∧ phone ≠ ""
  single : ∀ first second phone, state.phoneOf first = some phone →
    state.phoneOf second = some phone → first = second
  signed : ∀ token ∈ state.signed, token.Clean

namespace AuthState

variable {config : AuthConfig} {crypto : Crypto} {environment : AuthEnvironment}
  {state before after : AuthState} {userId : Nat}

theorem phoneOf_id {user : UserAccount} (stored : user ∈ state.accounts.rows) :
    state.phoneOf user.id = some (user.account.row .phone) := by
  unfold phoneOf
  rw [state.accounts.find?_key_of_mem stored]
  rfl

/-- A phone that is looked for finds a user who has it. -/
theorem phoneOf_of_findByPhone {phone : String} {user : UserAccount}
    (found : state.findByPhone phone = some user) : state.phoneOf user.id = some phone := by
  have phones : user.account.row .phone = phone := by simpa using List.find?_some found
  rw [phoneOf_id (List.mem_of_find?_eq_some found), phones]

theorem findByPhone_eq_none_iff {phone : String} :
    state.findByPhone phone = none ↔
      ∀ user ∈ state.accounts.rows, user.account.row .phone ≠ phone := by
  simp [findByPhone]

namespace PhonesClean

theorem keep (clean : before.PhonesClean) (same : before.SamePhones after) :
    after.PhonesClean where
  coherent := same.coherent
  clean userId := same.phones ▸ clean.clean userId
  single := same.phones ▸ clean.single
  signed token present := by
    rcases same.signed token present with old | new
    · exact clean.signed token old
    · exact new

theorem keeps (clean : before.PhonesClean) (keeps : before.KeepsPhones after) :
    after.PhonesClean :=
  clean.keep (keeps clean.coherent)

/-- One user gets a phone that nobody has. -/
theorem give (clean : before.PhonesClean) {phone : String}
    (spelled : cleanPhoneNumber phone = phone ∧ phone ≠ "")
    (free : before.findByPhone phone = none) (coherent : after.Coherent)
    (phones : ∀ id, after.phoneOf id =
      if id = userId then some phone else before.phoneOf id)
    (signed : after.signed = before.signed) : after.PhonesClean := by
  have nobody (id : Nat) : before.phoneOf id ≠ some phone := by
    intro has
    obtain ⟨user, found, same⟩ := Option.map_eq_some_iff.mp has
    exact findByPhone_eq_none_iff.mp free user (before.accounts.mem_of_find? found) same
  refine ⟨coherent, fun id other => ?_, fun first second other => ?_,
    signed ▸ clean.signed⟩
  · rw [phones]
    split
    · exact fun same => Option.some.inj same ▸ spelled
    · exact clean.clean id other
  · rw [phones, phones]
    split
    · next firstGets =>
        split
        · next secondGets => exact fun _ _ => firstGets.trans secondGets.symm
        · exact fun same has => absurd (same ▸ has) (nobody second)
    · split
      · exact fun has same => absurd (same ▸ has) (nobody first)
      · exact clean.single first second other

/-- Another account under a phone that nobody has. -/
theorem insert (clean : state.PhonesClean) {row : User}
    (spelled : cleanPhoneNumber (row .phone) = row .phone ∧ row .phone ≠ "")
    (free : state.findByPhone (row .phone) = none) :
    PhonesClean { state with
      accounts := state.accounts.insert (newAccount row) (newAccount_id row) } := by
  refine @give state _ state.accounts.nextId clean _ spelled free (fun id user located => ?_)
    (fun id => ?_) rfl
  · rw [KeyedTable.find?_insert] at located
    split at located
    · exact Option.some.inj located ▸ Account.coherent_of_empty rfl
    · exact clean.coherent id user located
  · unfold phoneOf
    rw [KeyedTable.find?_insert]
    split <;> rfl

/-- An account written back with another phone that nobody has. -/
theorem save (clean : state.PhonesClean) {account : Account} (current : account.Coherent)
    (spelled : cleanPhoneNumber (account.row .phone) = account.row .phone ∧
      account.row .phone ≠ "")
    (free : state.findByPhone (account.row .phone) = none) :
    PhonesClean { state with accounts := state.accounts.save ⟨userId, account⟩ } := by
  refine @give state _ userId clean _ spelled free (fun id user located => ?_)
    (fun id => ?_) rfl
  · rw [KeyedTable.find?_save] at located
    split at located
    · exact Option.some.inj located ▸ current
    · exact clean.coherent id user located
  · unfold phoneOf
    rw [KeyedTable.find?_save]
    split <;> rfl

end PhonesClean

/-- A sequence keeps the phones clean if each of its parts does. -/
theorem phonesClean_bind {α β : Type} {call : AuthCall α} {rest : α → AuthCall β}
    (first : (run call state).2.PhonesClean)
    (later : ∀ value next, run call state = (.ok value, next) → next.PhonesClean →
      (run (rest value) next).2.PhonesClean) :
    (run (call >>= rest) state).2.PhonesClean := by
  rw [run_bind]
  rcases ran : run call state with ⟨error | value, next⟩
  · rw [ran] at first
    exact first
  · rw [ran] at first
    exact later value next ran first

/-- A registration adds the phone of its token, unless somebody has it. -/
theorem PhonesClean.register (clean : state.PhonesClean) (dto : CompleteRegistrationDto) :
    (run (completeRegistration config crypto environment dto) state).2.PhonesClean := by
  unfold completeRegistration
  refine phonesClean_bind clean fun payload verified ran _ => ?_
  obtain ⟨rfl, signed, _, rfl⟩ := JwtService.run_verify_ok ran
  cases names : dto.registerToken.payload with
  | access | twoFactor => exact clean
  | register phone =>
      have spelled := clean.signed _ signed phone names
      refine phonesClean_bind ?_ fun newId created _ added => ?_
      · unfold UsersService.create
        rw [run_updates]
        cases free : verified.findByPhone phone with
        | some user =>
            have taken : (verified.findByPhone (newRow phone
                (crypto.bcryptHash environment.passwordSalt dto.password) dto.firstName
                dto.lastName dto.patronymic environment.now .phone)).isSome := by
              simp [newRow, free]
            simp only [taken, if_true]
            exact clean
        | none =>
            have untaken : (verified.findByPhone (newRow phone
                (crypto.bcryptHash environment.passwordSalt dto.password) dto.firstName
                dto.lastName dto.patronymic environment.now .phone)).isSome = false := by
              simp [newRow, free]
            simp only [untaken, Bool.false_eq_true, if_false]
            exact clean.insert spelled free
      · refine added.keeps ?_
        refine KeepsPhones.bind (keepsPhones_onAccount fun account =>
          (quiet_addRole _ .renter account).keepsPhone) fun _ rented => ?_
        refine KeepsPhones.bind (keepsPhones_onAccount fun account =>
          (quiet_addRole _ .landlord account).keepsPhone) fun _ leased => ?_
        exact keepsPhones_issueTokens config crypto environment leased newId

/-- An update that gives a phone has found nobody who has it. -/
theorem PhonesClean.updateProfile (clean : state.PhonesClean) {patch : PartialUser}
    (given : ∀ phone, patch .phone = some phone →
      cleanPhoneNumber phone = phone ∧ phone ≠ "") :
    ((PhoneRequest.updateProfile userId patch).after config crypto environment
      state).PhonesClean := by
  simp only [PhoneRequest.after]
  cases sets : patch .phone with
  | none => exact clean.keeps (keepsPhones_onAccount (keepsPhone_update sets _ userId))
  | some phone =>
      cases present : state.accounts.find? userId with
      | none =>
          rw [run_onAccount_none present]
          exact clean
      | some found =>
          rw [run_onAccount_some present]
          rcases update_cases patch (state.environment environment.now patch) userId
            found.account with ⟨error, ran⟩ | ⟨user, written, ran, wrote⟩
          · rw [ran]
            exact clean.keeps (keepsPhones_save present (.refl found.account))
          · rw [ran]
            have spelled := given phone sets
            have phones : written.row .phone = phone :=
              (wrote.profile (clean.coherent userId found present) .phone rfl).trans
                (assign_of_some sets)
            have untaken := @untaken_of_update _ _ _ _ _ _ ran .phone
              (by simp [UniqueColumn.given, sets, spelled.2])
            refine clean.save wrote.coherent (phones ▸ spelled) ?_
            rw [phones, findByPhone_eq_none_iff]
            simpa [AuthState.environment, UniqueColumn.shared, sets] using untaken

/-- Each user is found by every spelling of the phone. -/
theorem PhonesClean.findByPhone (clean : state.PhonesClean) {user : UserAccount}
    (stored : user ∈ state.accounts.rows) {phone : String}
    (spelling : cleanPhoneNumber phone = cleanPhoneNumber (user.account.row .phone)) :
    state.findByPhone (cleanPhoneNumber phone) = some user := by
  have own := phoneOf_id stored
  rw [spelling, (clean.clean user.id _ own).1]
  cases found : state.findByPhone (user.account.row .phone) with
  | none => exact absurd rfl (findByPhone_eq_none_iff.mp found user stored)
  | some other =>
      have same := clean.single _ _ _ (phoneOf_of_findByPhone found) own
      rw [state.accounts.eq_of_key_eq (List.mem_of_find?_eq_some found) stored same]

theorem PhonesClean.findsPhones (clean : state.PhonesClean) : state.FindsPhones where
  login user stored dto phone given spelling := by
    have spelled := clean.clean user.id _ (phoneOf_id stored)
    have nonempty : phone ≠ "" := by
      rintro rfl
      exact spelled.2 (spelled.1.symm.trans spelling.symm)
    simp [findLogin, given, Option.filter, nonempty, clean.findByPhone stored spelling]
  verifies user stored config crypto environment phone digits spelling passed := by
    have found : (usedUp state (cleanPhoneNumber phone)).findByPhone
        (cleanPhoneNumber phone) = some user := clean.findByPhone stored spelling
    unfold verifyFlashCall
    rw [run_bind, run_reads, passed]
    simp only [run_bind, run_updates, run_reads]
    unfold usedUp at found ⊢
    rw [found]
  single first firstMem second secondMem same := by
    have firstOwn := phoneOf_id firstMem
    have secondOwn := phoneOf_id secondMem
    rw [(clean.clean _ _ firstOwn).1, (clean.clean _ _ secondOwn).1] at same
    exact state.accounts.eq_of_key_eq firstMem secondMem
      (clean.single _ _ _ firstOwn (same ▸ secondOwn))

end AuthState

open AuthState

variable {config : AuthConfig} {crypto : Crypto} {isPhoneNumber : String → Bool}

/-- Every accepted request but a registration leaves the phones alone. -/
theorem AuthRequest.quiet_of_accepted (request : AuthRequest)
    (spelled : ∀ phone, isPhoneNumber phone = true → cleanPhoneNumber phone ≠ "")
    (accepted : (PhoneRequest.auth request).Accepted isPhoneNumber) :
    (∃ dto, request = .completeRegistration dto) ∨ request.Quiet := by
  cases request with
  | completeRegistration dto => exact Or.inl ⟨dto, rfl⟩
  | verifyFlashCall phone lastFourDigits => exact Or.inr (spelled phone accepted)
  | _ => exact Or.inr trivial

/-- A request keeps the phones clean if the phones in it are accepted ones and a profile
update gives its phone without separators. -/
theorem AuthState.PhonesClean.step
    (spelled : ∀ phone, isPhoneNumber phone = true → cleanPhoneNumber phone ≠ "")
    {before : AuthState} (clean : before.PhonesClean) (environment : AuthEnvironment)
    {request : PhoneRequest} (accepted : request.Accepted isPhoneNumber)
    (gives : request.GivesClean) :
    (request.after config crypto environment before).PhonesClean := by
  cases request with
  | updateProfile userId patch =>
      refine clean.updateProfile fun phone sets => ?_
      have same := gives phone sets
      exact ⟨same, same ▸ spelled phone (accepted phone sets)⟩
  | auth request =>
      rcases request.quiet_of_accepted spelled accepted with ⟨dto, rfl⟩ | quiet
      · exact clean.register dto
      · exact clean.keeps (request.keepsPhones_serve quiet config crypto environment before)

theorem AuthState.PhonesClean.empty : AuthState.empty.PhonesClean where
  coherent _ _ found := by contradiction
  clean _ _ found := by contradiction
  single _ _ _ found := by contradiction
  signed _ present := by contradiction

/-- Phones are found however they are typed in every run whose profile updates give
phones without separators. -/
theorem phones_found
    (spelled : ∀ phone, isPhoneNumber phone = true → cleanPhoneNumber phone ≠ "")
    {last : AuthState}
    (reached : Run (phoneStep config crypto) (fun _ label =>
      label.2.Accepted isPhoneNumber ∧ label.2.GivesClean) .empty last) :
    last.FindsPhones := by
  refine (reached.invariant _ PhonesClean.empty fun before label after clean allowed
    taken => ?_).findsPhones
  obtain rfl := Option.some.inj taken
  exact clean.step spelled label.1 allowed.1 allowed.2

/-- Phones of the form `+7` and ten digits, up to separators. -/
private def russianPhone (phone : String) : Bool :=
  match (cleanPhoneNumber phone).toList with
  | '+' :: '7' :: digits => digits.length == 10 && digits.all Char.isDigit
  | _ => false

private theorem russianPhone_spelled (phone : String) (russian : russianPhone phone = true) :
    cleanPhoneNumber phone ≠ "" := by
  intro empty
  simp [russianPhone, empty] at russian

private def newPhone (phone : String) : PartialUser
  | .phone => some phone
  | _ => none

private def verification : PhoneRequest :=
  .auth (.verifyFlashCall "+7 (800) 555-35-35" "0000")

private def registration : PhoneRequest :=
  .auth (.completeRegistration
    ⟨⟨.register "+78005553535", 600⟩, "Ivan", "Petrov", none, "password"⟩)

private theorem accepted_verification : verification.Accepted russianPhone :=
  show russianPhone "+7 (800) 555-35-35" = true by decide +kernel

private theorem accepted_newPhone {userId : Nat} {phone : String}
    (russian : russianPhone phone = true) :
    (PhoneRequest.updateProfile userId (newPhone phone)).Accepted russianPhone := by
  rintro _ ⟨⟩
  exact russian

/-- The state after a verification, a registration and an update of the phone. -/
private def afterUpdate (phone : String) : AuthState :=
  [verification, registration, .updateProfile 1 (newPhone phone)].foldl
    (fun state request =>
      request.after ⟨30, 900, false⟩ .plain (.plain 0 .failed) state) .empty

private theorem run_afterUpdate {phone : String}
    {allowed : AuthState → AuthEnvironment × PhoneRequest → Prop}
    (verifies : ∀ state, allowed state (.plain 0 .failed, verification))
    (registers : ∀ state, allowed state (.plain 0 .failed, registration))
    (updates : ∀ state,
      allowed state (.plain 0 .failed, .updateProfile 1 (newPhone phone))) :
    Run (phoneStep ⟨30, 900, false⟩ .plain) allowed .empty (afterUpdate phone) :=
  ((Run.start.step _ (verifies _) rfl).step _ (registers _) rfl).step _ (updates _) rfl

/-- A registered user is found after the phone is changed. -/
theorem phones_found_sample :
    ∃ last : AuthState,
      Run (phoneStep ⟨30, 900, false⟩ .plain) (fun _ label =>
        label.2.Accepted russianPhone ∧ label.2.GivesClean) .empty last ∧
      last.phoneOf 1 = some "+79001234567" ∧ last.FindsPhones := by
  have reached : Run (phoneStep ⟨30, 900, false⟩ .plain) (fun _ label =>
      label.2.Accepted russianPhone ∧ label.2.GivesClean) .empty
      (afterUpdate "+79001234567") :=
    run_afterUpdate (fun _ => ⟨accepted_verification, trivial⟩)
      (fun _ => ⟨trivial, trivial⟩)
      fun _ => ⟨accepted_newPhone (by decide +kernel), by rintro _ ⟨⟩; decide +kernel⟩
  exact ⟨_, reached, by decide +kernel, phones_found russianPhone_spelled reached⟩

/-- After an update that gives the phone with spaces, the phone finds nobody. -/
theorem spaced_phone_finds_nobody :
    ¬ ∀ (config : AuthConfig) (crypto : Crypto) (isPhoneNumber : String → Bool),
      (∀ phone, isPhoneNumber phone = true → cleanPhoneNumber phone ≠ "") →
      ∀ last, Run (phoneStep config crypto) (fun _ label =>
        label.2.Accepted isPhoneNumber) .empty last → last.FindsPhones := by
  intro found
  have finds := found ⟨30, 900, false⟩ .plain russianPhone russianPhone_spelled
    (afterUpdate "+7 800 555-35-35")
    (run_afterUpdate (fun _ => accepted_verification) (fun _ => trivial)
      fun _ => accepted_newPhone (by decide +kernel))
  have stored : (afterUpdate "+7 800 555-35-35").phoneOf 1 = some "+7 800 555-35-35" := by
    decide +kernel
  obtain ⟨user, located, phone⟩ := Option.map_eq_some_iff.mp stored
  have selects := finds.login user (KeyedTable.mem_of_find? _ located)
    ⟨some "+78005553535", none, "password"⟩ "+78005553535" rfl
    (by rw [phone]; decide +kernel)
  have refused : (AuthService.findLogin ⟨some "+78005553535", none, "password"⟩
      (afterUpdate "+7 800 555-35-35")).isOk = false := by decide +kernel
  rw [selects] at refused
  exact Bool.noConfusion refused

end SpareSpace
