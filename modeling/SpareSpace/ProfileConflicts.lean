import SpareSpace.PhoneSpellings

/-!
# Conflicts of a profile update

An update asks for each unique column that it gives a value whether some row of the table
has this value, and the row of the updated user is among them.  A user who submits a
current phone or address is refused, and an update that gives a unique column succeeds
once and then conflicts with itself.  Without such columns it can be repeated, also
through the cached entities of the user.
-/

namespace SpareSpace

open ColumnRecords Fallible

namespace UsersService

variable {environment later : UserEnvironment} {id : Nat} {account after last : Account}
  {patch user again : PartialUser}

/-- What a load returns, and what it leaves in the cache of the status. -/
theorem run_findById (environment : UserEnvironment) (id : Nat) (account : Account) :
    ∃ profileData statusData loaded,
      run (findById environment id) account = (.ok (merge profileData statusData), loaded) ∧
        loaded.row = account.row ∧
        (account.profileCache = none →
          profileData = select UserColumn.inProfile account.row) ∧
        (statusData = select UserColumn.inStatus account.row ∨
          ∃ expiresAt, account.statusCache = some ⟨statusData, expiresAt⟩) ∧
        ∃ expiresAt, loaded.statusCache = some ⟨statusData, expiresAt⟩ := by
  obtain ⟨profileData, middle, ranProfile, profile⟩ :=
    RedisService.getOrSet_cases HttpException Account.profileSlot environment.now
      profileCacheTtlSec account findProfile rfl
  obtain ⟨statusData, loaded, ranStatus, status⟩ :=
    RedisService.getOrSet_cases HttpException Account.statusSlot environment.now
      statusCacheTtlSec middle findStatus rfl
  have middleRow : middle.row = account.row := by
    rcases profile with ⟨_, rfl⟩ | ⟨_, rfl⟩ <;> rfl
  have middleStatus : middle.statusCache = account.statusCache := by
    rcases profile with ⟨_, rfl⟩ | ⟨_, rfl⟩ <;> rfl
  refine ⟨profileData, statusData, loaded, ?_, ?_, ?_, ?_, ?_⟩
  · unfold findById
    rw [run_bind_ok ranProfile]
    simp only
    rw [run_bind_ok ranStatus]
    rfl
  · rcases status with ⟨_, rfl⟩ | ⟨_, rfl⟩ <;> exact middleRow
  · intro missing
    rcases profile with ⟨hit, _⟩ | ⟨fresh, _⟩
    · obtain ⟨expiresAt, cached, _⟩ := RedisService.eq_of_get hit
      exact absurd (missing.symm.trans cached) nofun
    · exact fresh
  · rcases status with ⟨hit, _⟩ | ⟨fresh, _⟩
    · obtain ⟨expiresAt, cached, _⟩ := RedisService.eq_of_get hit
      exact Or.inr ⟨expiresAt, middleStatus ▸ cached⟩
    · exact Or.inl (middleRow ▸ fresh)
  · rcases status with ⟨hit, rfl⟩ | ⟨rfl, rfl⟩
    · obtain ⟨expiresAt, cached, _⟩ := RedisService.eq_of_get hit
      exact ⟨expiresAt, cached⟩
    · exact ⟨_, rfl⟩

/-- An update that gives a taken value throws a conflict. -/
theorem run_update_taken {column : UniqueColumn} (given : column.given patch = true)
    (taken : environment.taken column = true) (id : Nat) (account : Account) :
    ∃ message, run (update environment id patch) account =
      (.error (.conflict message), account) := by
  obtain ⟨thrower, _, error, threw, ran⟩ := run_forM_lift_failing
    (show column ∈ UniqueColumn.all by cases column <;> simp [UniqueColumn.all])
    (show checkUnique environment patch column ≠ .ok () by
      simp [checkUnique, given, taken]) account
  unfold update
  rw [run_bind, ran]
  simp only [checkUnique] at threw
  split at threw
  · exact ⟨thrower.message, by rw [← Except.error.inj threw]⟩
  · cases threw

/-- An update that gives no taken value writes what it has loaded, with its own columns
over it. -/
theorem run_update_untaken
    (untaken : ∀ column, column.given patch = true → environment.taken column = false)
    (id : Nat) (account : Account) :
    ∃ profileData statusData after,
      run (update environment id patch) account =
        (.ok (overlay (merge profileData statusData) patch), after) ∧
      after.row = assign account.row (overlay (merge profileData statusData) patch) ∧
      after.profileCache = none ∧
      (account.profileCache = none →
        profileData = select UserColumn.inProfile account.row) ∧
      (statusData = select UserColumn.inStatus account.row ∨
        ∃ expiresAt, account.statusCache = some ⟨statusData, expiresAt⟩) ∧
      ∃ expiresAt, after.statusCache = some ⟨statusData, expiresAt⟩ := by
  obtain ⟨profileData, statusData, loaded, found, row, profile, status, kept⟩ :=
    run_findById environment id account
  have pass : ∀ column ∈ UniqueColumn.all,
      checkUnique environment patch column = .ok () := by
    intro column _
    cases given : column.given patch with
    | false => simp [checkUnique, given]
    | true => simp [checkUnique, untaken column given]
  refine ⟨profileData, statusData,
    save (overlay (merge profileData statusData) patch) (deleteProfile loaded), ?_, ?_, rfl,
    profile, status, kept⟩
  · unfold update
    rw [run_bind_ok (run_forM_lift pass account), run_bind_ok found]
    rfl
  · rw [← row]
    rfl

/-- A successful update writes the columns it sets. -/
theorem row_of_update
    (ran : run (update environment id patch) account = (.ok user, after))
    {column : UserColumn} {value : column.Value} (sets : patch column = some value) :
    after.row column = value := by
  obtain ⟨profileData, statusData, written, again, row, _⟩ :=
    run_update_untaken (fun _ given => untaken_of_update ran given) id account
  rw [again] at ran
  rw [← (Prod.mk.inj ran).2, row]
  exact assign_of_some (overlay_of_some sets)

/-- An update that returns twice writes the second time what is there. -/
theorem row_of_update_again
    (ran : run (update environment id patch) account = (.ok user, after))
    (ranAgain : run (update later id patch) after = (.ok again, last)) :
    last.row = after.row := by
  obtain ⟨_, statusData, written, first, row, empty, _, _, expiresAt, kept⟩ :=
    run_update_untaken (fun _ given => untaken_of_update ran given) id account
  obtain ⟨profileAgain, statusAgain, writtenAgain, second, rowAgain, _, profile, status, _⟩ :=
    run_update_untaken (fun _ given => untaken_of_update ranAgain given) id after
  rw [first] at ran
  rw [second] at ranAgain
  obtain rfl := (Prod.mk.inj ran).2
  obtain rfl := (Prod.mk.inj ranAgain).2
  rw [rowAgain]
  refine assign_of_agrees fun column value held => ?_
  cases sets : patch column with
  | some given =>
      rw [overlay_of_some sets] at held
      rw [row, assign_of_some (overlay_of_some sets), Option.some.inj held]
  | none =>
      rw [overlay_of_none sets, merge] at held
      split at held
      · -- The status is loaded again, or it is what the first update has written.
        rcases status with rfl | ⟨expiresAgain, cached⟩
        · exact agrees_select UserColumn.inStatus written.row column value held
        · obtain ⟨rfl, _⟩ := CacheEntry.mk.inj (Option.some.inj (cached.symm.trans kept))
          rw [row]
          exact assign_of_some ((overlay_of_none sets).trans ((if_pos ‹_›).trans held))
      · rw [profile empty] at held
        exact agrees_select UserColumn.inProfile written.row column value held

end UsersService

namespace AuthState

variable {state : AuthState} {now : Int} {userId : Nat} {patch : PartialUser}

/-- `usersService.update` on the user table. -/
def updateProfile (state : AuthState) (now : Int) (userId : Nat) (patch : PartialUser) :
    Except AuthException PartialUser × AuthState :=
  run (onAccount userId (UsersService.userNotFound userId)
    (UsersService.update (state.environment now patch) userId patch)) state

def rowOf (state : AuthState) (userId : Nat) : Option User :=
  (state.accounts.find? userId).map fun user => user.account.row

/-- Some other user has a value that the update gives a unique column. -/
def TakenByOther (state : AuthState) (userId : Nat) (patch : PartialUser) : Prop :=
  ∃ other ∈ state.accounts.rows, other.id ≠ userId ∧
    ∃ column : UniqueColumn, column.given patch = true ∧
      column.shared patch other.account.row = true

/-- A profile update conflicts with the other users and not with its own one, and can be
repeated. -/
structure ConflictsOnlyWithOthers (state : AuthState) (now : Int) (userId : Nat)
    (patch : PartialUser) : Prop where
  conflicts : (∃ message, (state.updateProfile now userId patch).1 =
    .error (.http (.conflict message))) ↔ state.TakenByOther userId patch
  succeeds : ¬ state.TakenByOther userId patch →
    ∃ user, (state.updateProfile now userId patch).1 = .ok user
  repeats : ∀ user later, (state.updateProfile now userId patch).1 = .ok user →
    let after := (state.updateProfile now userId patch).2
    (∃ again, (after.updateProfile later userId patch).1 = .ok again) ∧
      (after.updateProfile later userId patch).2.rowOf userId = after.rowOf userId

theorem taken_iff {column : UniqueColumn} :
    (state.environment now patch).taken column = true ↔
      ∃ user ∈ state.accounts.rows, column.shared patch user.account.row = true :=
  List.any_eq_true

/-- A row that holds the values of an update shares those it is given. -/
theorem shared_of_given {column : UniqueColumn} {row : User}
    (given : column.given patch = true)
    (holds : ∀ column value, patch column = some value → row column = value) :
    column.shared patch row = true := by
  cases column with
  | phone =>
      obtain ⟨value, sets, _⟩ := (Option.any_eq_true _ _).mp given
      simp [UniqueColumn.shared, sets, holds _ _ sets]
  | email | telegramId | telegramChatId =>
      obtain ⟨value, sets, _⟩ := (Option.any_eq_true _ _).mp given
      have sets := Option.join_eq_some_iff.mp sets
      simp [UniqueColumn.shared, sets, holds _ _ sets]

variable {found : UserAccount}

theorem updateProfile_ok (present : state.accounts.find? userId = some found)
    {user : PartialUser} {account : Account}
    (ran : run (UsersService.update (state.environment now patch) userId patch)
      found.account = (.ok user, account)) :
    state.updateProfile now userId patch =
      (.ok user, { state with accounts := state.accounts.save ⟨userId, account⟩ }) := by
  rw [updateProfile, run_onAccount_some present, ran]
  rfl

theorem find?_saved (state : AuthState) (userId : Nat) (account : Account) :
    (state.accounts.save ⟨userId, account⟩).find? userId = some ⟨userId, account⟩ := by
  rw [KeyedTable.find?_save, if_pos rfl]

theorem rowOf_saved (state : AuthState) (userId : Nat) (account : Account) :
    rowOf { state with accounts := state.accounts.save ⟨userId, account⟩ } userId =
      some account.row := by
  rw [rowOf, find?_saved]
  rfl

theorem ran_of_updateProfile_ok (present : state.accounts.find? userId = some found)
    {user : PartialUser} (returned : (state.updateProfile now userId patch).1 = .ok user) :
    ∃ account, run (UsersService.update (state.environment now patch) userId patch)
      found.account = (.ok user, account) := by
  rw [updateProfile, run_onAccount_some present] at returned
  exact ⟨_, Prod.ext (mapError_ok_iff.mp returned) rfl⟩

/-- An update that gives a value some row has throws a conflict, whoever's row it is. -/
theorem updateProfile_conflict (present : state.accounts.find? userId = some found)
    {column : UniqueColumn} (given : column.given patch = true) {user : UserAccount}
    (stored : user ∈ state.accounts.rows)
    (shared : column.shared patch user.account.row = true) :
    ∃ message, (state.updateProfile now userId patch).1 =
      .error (.http (.conflict message)) := by
  have taken : (state.environment now patch).taken column = true :=
    taken_iff.mpr ⟨user, stored, shared⟩
  obtain ⟨message, ran⟩ := UsersService.run_update_taken given taken userId found.account
  refine ⟨message, ?_⟩
  rw [updateProfile, run_onAccount_some present, ran]
  rfl

/-- An update that succeeds and gives a unique column is refused the next time. -/
theorem updateProfile_conflict_again (present : state.accounts.find? userId = some found)
    {user : PartialUser} (returned : (state.updateProfile now userId patch).1 = .ok user)
    {column : UniqueColumn} (given : column.given patch = true) (later : Int) :
    ∃ message, ((state.updateProfile now userId patch).2.updateProfile later userId
      patch).1 = .error (.http (.conflict message)) := by
  obtain ⟨account, ran⟩ := ran_of_updateProfile_ok present returned
  rw [updateProfile_ok present ran]
  have saved := state.find?_saved userId account
  exact updateProfile_conflict saved given (KeyedTable.mem_of_find? _ saved)
    (shared_of_given given fun _ _ sets => UsersService.row_of_update ran sets)

/-- An update without unique columns conflicts with nobody and can be repeated. -/
theorem conflictsOnlyWithOthers_without_unique
    (present : state.accounts.find? userId = some found)
    (noUnique : ∀ column : UniqueColumn, column.given patch = false) :
    state.ConflictsOnlyWithOthers now userId patch := by
  have untaken (environment : UserEnvironment) (column : UniqueColumn)
      (given : column.given patch = true) : environment.taken column = false :=
    absurd given (Bool.eq_false_iff.mp (noUnique column))
  obtain ⟨profileData, statusData, account, ran, _⟩ := UsersService.run_update_untaken
    (untaken (state.environment now patch)) userId found.account
  have updated := updateProfile_ok present ran
  have free : ¬ state.TakenByOther userId patch := by
    rintro ⟨_, _, _, column, given, _⟩
    rw [noUnique column] at given
    cases given
  refine ⟨iff_of_false ?_ free, fun _ => ⟨_, by rw [updated]⟩, ?_⟩
  · rintro ⟨message, refused⟩
    rw [updated] at refused
    cases refused
  · intro user later _
    rw [updated]
    let after : AuthState := { state with accounts := state.accounts.save ⟨userId, account⟩ }
    obtain ⟨_, _, last, again, _⟩ := UsersService.run_update_untaken
      (untaken (after.environment later patch)) userId account
    have repeated := @updateProfile_ok after later userId patch _
      (state.find?_saved userId account) _ _ again
    refine ⟨⟨_, congrArg Prod.fst repeated⟩, ?_⟩
    change (after.updateProfile later userId patch).2.rowOf userId = after.rowOf userId
    rw [repeated, rowOf_saved, rowOf_saved, UsersService.row_of_update_again ran again]

/-- An update that gives another user's value is refused, as it should be. -/
theorem conflictsOnlyWithOthers_of_taken
    (present : state.accounts.find? userId = some found)
    (taken : state.TakenByOther userId patch) :
    state.ConflictsOnlyWithOthers now userId patch := by
  obtain ⟨other, stored, different, column, given, shared⟩ := taken
  have refused : ∃ message, (state.updateProfile now userId patch).1 =
      .error (.http (.conflict message)) :=
    updateProfile_conflict present given stored shared
  have taken : state.TakenByOther userId patch :=
    ⟨other, stored, different, column, given, shared⟩
  refine ⟨iff_of_true refused taken, fun free => absurd taken free, ?_⟩
  intro user later returned
  obtain ⟨message, refused⟩ := refused
  rw [returned] at refused
  cases refused

/-- A profile update of a user conflicts exactly with other users, and can be repeated, if
and only if it gives no unique column or another user has one of the given values. -/
theorem conflictsOnlyWithOthers_iff (present : state.accounts.find? userId = some found) :
    state.ConflictsOnlyWithOthers now userId patch ↔
      (∀ column : UniqueColumn, column.given patch = false) ∨
        state.TakenByOther userId patch := by
  constructor
  · intro law
    by_contra neither
    obtain ⟨given, free⟩ := not_or.mp neither
    obtain ⟨column, given⟩ := not_forall.mp given
    obtain ⟨user, returned⟩ := law.succeeds free
    obtain ⟨again, repeated⟩ := (law.repeats user now returned).1
    obtain ⟨message, refused⟩ := updateProfile_conflict_again present returned
      (Bool.eq_true_of_not_eq_false given) now
    rw [repeated] at refused
    cases refused
  · rintro (noUnique | taken)
    · exact conflictsOnlyWithOthers_without_unique present noUnique
    · exact conflictsOnlyWithOthers_of_taken present taken

/-- A table with one user. -/
private def onlyUser : Nat → UserAccount :=
  UsersService.newAccount
    (UsersService.newRow "+79001234567" "password" "Ivan" "Petrov" none 0)

private theorem onlyUser_id (id : Nat) : (onlyUser id).id = id :=
  rfl

private def oneUser : AuthState :=
  { AuthState.empty with accounts := KeyedTable.empty.insert onlyUser onlyUser_id }

private def secondUser : Nat → UserAccount :=
  UsersService.newAccount
    (UsersService.newRow "+79007654321" "password" "Anna" "Petrova" none 0)

private theorem secondUser_id (id : Nat) : (secondUser id).id = id :=
  rfl

private def twoUsers : AuthState :=
  { oneUser with accounts := oneUser.accounts.insert secondUser secondUser_id }

private def renamed : PartialUser
  | .firstName => some "Pyotr"
  | _ => none

private def ownPhone : PartialUser
  | .phone => some "+79001234567"
  | _ => none

private def othersPhone : PartialUser
  | .phone => some "+79007654321"
  | _ => none

/-- A user who changes the first name can repeat the update; the other user's phone is
refused. -/
theorem conflictsOnlyWithOthers_of_renamed :
    twoUsers.ConflictsOnlyWithOthers 0 1 renamed ∧
      twoUsers.ConflictsOnlyWithOthers 0 1 othersPhone := by
  have stored : twoUsers.accounts.find? 1 = some (onlyUser 1) := rfl
  have other : secondUser 2 ∈ twoUsers.accounts.rows :=
    (oneUser.accounts.mem_insert_iff secondUser secondUser_id).mpr (Or.inr rfl)
  have taken : twoUsers.TakenByOther 1 othersPhone :=
    ⟨secondUser 2, other, by decide, .phone, by decide, by decide⟩
  exact ⟨(conflictsOnlyWithOthers_iff stored).mpr
      (Or.inl fun column => by cases column <;> rfl),
    (conflictsOnlyWithOthers_iff stored).mpr (Or.inr taken)⟩

/-- The only user submits the current phone, and it is taken. -/
theorem own_phone_conflicts : ¬ oneUser.ConflictsOnlyWithOthers 0 1 ownPhone := by
  intro law
  have stored : oneUser.accounts.find? 1 = some (onlyUser 1) := rfl
  have refused : ∃ message, (oneUser.updateProfile 0 1 ownPhone).1 =
      .error (.http (.conflict message)) :=
    @updateProfile_conflict _ _ _ _ _ stored .phone (by decide) _
      (KeyedTable.mem_of_find? _ stored) (by decide)
  obtain ⟨other, present, different, _⟩ := law.conflicts.mp refused
  obtain rfl := List.mem_singleton.mp present
  exact different rfl

end AuthState

end SpareSpace
