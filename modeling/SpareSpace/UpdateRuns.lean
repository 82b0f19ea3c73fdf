import SpareSpace.TelegramLinks
import Mathlib.Logic.Relation

/-!
# An update of a user, call by call

The steps of one update of a user without interference.  Any of its calls to the cache
and the repositories may fail instead of taking effect, which ends the update.  It saves
the user, or it throws and leaves the columns of all users.
-/

namespace SpareSpace

open ColumnRecords Relation UsersService

/-- The calls that an update of a user makes. -/
inductive UpdateStep
  | existsBy (column : UniqueColumn)
  | getProfile
  | findProfile
  | setProfile
  | getStatus
  | findStatus
  | setStatus
  | deleteProfile
  | save
  deriving DecidableEq

/-- When each call of an update is made, and which of them fail. -/
structure UpdateRun where
  time : UpdateStep → Int
  fails : UpdateStep → Bool

def callFailed : HttpException :=
  .database "call failed"

def LoadPoint.updateStep : LoadPoint → UpdateStep
  | .getProfile => .getProfile
  | .findProfile => .findProfile
  | .setProfile _ => .setProfile
  | .getStatus _ => .getStatus
  | .findStatus _ => .findStatus
  | .setStatus _ _ => .setStatus

/-- The call that an update makes in its next step.  A column that the update does
not give is not looked for. -/
def UserCall.updateStep : UserCall → Option UpdateStep
  | checking update (column :: _) =>
      if column.given update then some (.existsBy column) else none
  | loading _ point => some point.updateStep
  | deleting _ _ => some .deleteProfile
  | saving _ _ => some .save
  | _ => none

/-- The next step of an update of a user, or the exception of its call. -/
def UpdateRun.next (crypto : Crypto) (run : UpdateRun) (userId : Nat)
    (state : TelegramStore × UserCall) : Option (TelegramStore × UserCall) :=
  if state.2.updateStep.any run.fails then
    some (state.1, .threw callFailed)
  else
    state.1.onUser crypto (state.2.updateStep.elim (run.time .save) run.time) userId
      state.2

/-- No call fails that reads a value through its cache entry: on a hit the value is not
looked for. -/
def UpdateRun.Fetches (run : UpdateRun) (get find set : UpdateStep)
    (cached : Cached PartialUser) : Prop :=
  run.fails get = false ∧ (RedisService.get (run.time get) cached = none →
    run.fails find = false ∧ run.fails set = false)

/-- No call of `findById` fails. -/
structure UpdateRun.Loads (run : UpdateRun) (account : Account) : Prop where
  profile : run.Fetches .getProfile .findProfile .setProfile account.profileCache
  status : run.Fetches .getStatus .findStatus .setStatus account.statusCache

/-- An update saves: its user exists, no call of it fails, and no row has the value
that it gives a unique column. -/
structure UpdateRun.Saves (run : UpdateRun) (rows : List UserAccount)
    (found : Option UserAccount) (update : PartialUser) : Prop where
  unique : ∀ column : UniqueColumn, column.given update = true →
    run.fails (.existsBy column) = false ∧
      ∀ row ∈ rows, column.shared update row.account.row = false
  loads : ∃ user, found = some user ∧ run.Loads user.account
  deletes : run.fails .deleteProfile = false
  saves : run.fails .save = false

namespace UpdateRun

variable {crypto : Crypto} {run : UpdateRun} {store : TelegramStore} {userId : Nat}
  {user : UserAccount} {account : Account} {call : UserCall}

/-- The steps of an update of a user as long as it is in flight. -/
abbrev Steps (crypto : Crypto) (run : UpdateRun) (userId : Nat) :
    TelegramStore × UserCall → TelegramStore × UserCall → Prop :=
  ReflTransGen fun state after =>
    state.2.inFlight = true ∧ run.next crypto userId state = some after

theorem saveAccount_found (found : store.accounts.find? userId = some user) :
    store.saveAccount ⟨userId, user.account⟩ = store := by
  have same : (⟨userId, user.account⟩ : UserAccount) = user := by
    rw [← store.accounts.key_of_find? found]
  rw [same, TelegramStore.saveAccount,
    store.accounts.save_of_mem (store.accounts.mem_of_find? found)]

/-- A call that fails ends the update. -/
theorem next_fails {step : UpdateStep} (making : call.updateStep = some step)
    (fails : run.fails step = true) :
    run.next crypto userId (store, call) = some (store, .threw callFailed) := by
  simp [next, making, fails]

/-- A step on the account of the user, whatever it is by now. -/
theorem next_sound {later : Account} {moved : UserCall}
    (found : store.accounts.find? userId = some user)
    (sound : ∀ step, call.updateStep = some step → run.fails step = false)
    (moves : UserCall.next crypto
      ((store.saveAccount ⟨userId, account⟩).environment
        (call.updateStep.elim (run.time .save) run.time) call) account call =
          some (later, moved)) :
    run.next crypto userId (store.saveAccount ⟨userId, account⟩, call) =
      some (store.saveAccount ⟨userId, later⟩, moved) := by
  have stands : (store.saveAccount ⟨userId, account⟩).accounts.find? userId =
      some ⟨userId, account⟩ := by
    simp [TelegramStore.saveAccount]
  have silent : call.updateStep.any run.fails = false := by
    cases making : call.updateStep with
    | none => rfl
    | some step => exact sound step making
  simp only [next, silent, Bool.false_eq_true, if_false, TelegramStore.onUser, stands,
    moves, Option.map_some]
  refine congrArg (fun accounts => some ((⟨accounts, store.tokens⟩ : TelegramStore),
    moved)) ?_
  exact store.accounts.save_save rfl (by simp [found])

/-- The look for a column that an update gives does not fail and finds no row. -/
def Passes (run : UpdateRun) (rows : List UserAccount) (update : PartialUser)
    (column : UniqueColumn) : Prop :=
  column.given update = true → run.fails (.existsBy column) = false ∧
    ∀ row ∈ rows, column.shared update row.account.row = false

theorem next_check (found : store.accounts.find? userId = some user)
    {update : PartialUser} {column : UniqueColumn} (columns : List UniqueColumn)
    (passes : run.Passes store.accounts.rows update column) :
    run.next crypto userId (store, .checking update (column :: columns)) =
      some (store, .checking update columns) := by
  have stands := saveAccount_found found
  rw [← stands]
  refine next_sound found (fun step making => ?_) ?_
  · simp only [UserCall.updateStep] at making
    split at making
    · next given => exact Option.some.inj making ▸ (passes given).1
    · contradiction
  · have free : checkUnique (store.environment ((UserCall.checking update
        (column :: columns)).updateStep.elim (run.time .save) run.time)
          (.checking update (column :: columns))) update column = .ok () := by
      unfold checkUnique
      cases given : column.given update with
      | false => rfl
      | true =>
          have none := (passes given).2
          simp only [TelegramStore.environment, Bool.true_and, List.any_eq_true]
          rw [if_neg (by simpa using none)]
    rw [stands]
    simp only [UserCall.next, free]

theorem next_check_stops (found : store.accounts.find? userId = some user)
    {update : PartialUser} {column : UniqueColumn} (columns : List UniqueColumn)
    (stops : ¬ run.Passes store.accounts.rows update column) :
    ∃ error, run.next crypto userId (store, .checking update (column :: columns)) =
      some (store, .threw error) := by
  obtain ⟨given, refused⟩ := Classical.not_imp.mp stops
  have making : (UserCall.checking update (column :: columns)).updateStep =
      some (.existsBy column) := if_pos given
  cases fails : run.fails (.existsBy column) with
  | true => exact ⟨callFailed, next_fails making fails⟩
  | false =>
      have stands := saveAccount_found found
      refine ⟨.conflict column.message, ?_⟩
      rw [← stands]
      refine next_sound found (fun step same => ?_) ?_
      · rw [making] at same
        exact Option.some.inj same ▸ fails
      · have taken : ∃ row ∈ store.accounts.rows,
            column.shared update row.account.row = true := by
          by_contra free
          refine refused ⟨fails, fun row present => ?_⟩
          exact Bool.eq_false_iff.mpr fun shared => free ⟨row, present, shared⟩
        rw [stands]
        simp [UserCall.next, checkUnique, TelegramStore.environment, given, taken]

theorem checking_passes (found : store.accounts.find? userId = some user)
    {update : PartialUser} {columns : List UniqueColumn}
    (passes : ∀ column ∈ columns, run.Passes store.accounts.rows update column) :
    run.Steps crypto userId (store, .checking update columns)
      (store, .checking update []) := by
  induction columns with
  | nil => exact .refl
  | cons column rest ih =>
      rw [List.forall_mem_cons] at passes
      exact .head ⟨rfl, next_check found rest passes.1⟩ (ih passes.2)

theorem checking_stops (found : store.accounts.find? userId = some user)
    {update : PartialUser} {columns : List UniqueColumn}
    (stops : ¬ ∀ column ∈ columns, run.Passes store.accounts.rows update column) :
    ∃ error, run.Steps crypto userId (store, .checking update columns)
      (store, .threw error) := by
  induction columns with
  | nil => exact absurd nofun stops
  | cons column rest ih =>
      by_cases first : run.Passes store.accounts.rows update column
      · rw [List.forall_mem_cons, not_and] at stops
        obtain ⟨error, steps⟩ := ih (stops first)
        exact ⟨error, .head ⟨rfl, next_check found rest first⟩ steps⟩
      · obtain ⟨error, moves⟩ := next_check_stops found rest first
        exact ⟨error, .single ⟨rfl, moves⟩⟩

/-- Three points of a load that read a value through its cache entry: a hit goes on with
the value, a miss looks for it and puts it into the cache. -/
structure Fetching (crypto : Crypto) (account : Account) (purpose : LoadPurpose)
    (slot : Slot Account PartialUser) (get find : LoadPoint)
    (set : PartialUser → LoadPoint) (setStep : UpdateStep)
    (moved : PartialUser → UserCall) : Prop where
  setIs : ∀ value, (set value).updateStep = setStep
  same : slot.write (slot.read account) account = account
  gets : ∀ now, UserCall.load crypto now account purpose get =
    (account, (RedisService.get now (slot.read account)).elim (.loading purpose find) moved)
  finds : ∃ computed, ∀ now, UserCall.load crypto now account purpose find =
    (account, .loading purpose (set computed))
  sets : ∀ value now, ∃ entry, UserCall.load crypto now account purpose (set value) =
    (slot.write entry account, moved value)

theorem fetching_profile (purpose : LoadPurpose) (account : Account) :
    Fetching crypto account purpose Account.profileSlot .getProfile .findProfile .setProfile
      .setProfile fun profileData => .loading purpose (.getStatus profileData) where
  setIs _ := rfl
  same := rfl
  gets now := by
    simp only [UserCall.load, Account.profileSlot]
    cases RedisService.get now account.profileCache <;> rfl
  finds := ⟨_, fun _ => rfl⟩
  sets _ _ := ⟨_, rfl⟩

theorem fetching_status (purpose : LoadPurpose) (account : Account) (profileData : PartialUser) :
    Fetching crypto account purpose Account.statusSlot (.getStatus profileData)
      (.findStatus profileData) (.setStatus profileData) .setStatus
      fun statusData => UserCall.loaded crypto purpose (merge profileData statusData) where
  setIs _ := rfl
  same := rfl
  gets now := by
    simp only [UserCall.load, Account.statusSlot]
    cases RedisService.get now account.statusCache <;> rfl
  finds := ⟨_, fun _ => rfl⟩
  sets _ _ := ⟨_, rfl⟩

section Loads

variable (found : store.accounts.find? userId = some user) (purpose : LoadPurpose)
  {slot : Slot Account PartialUser} {get find : LoadPoint} {set : PartialUser → LoadPoint}
  {setStep : UpdateStep} {moved : PartialUser → UserCall}

include found

/-- A step of a load whose call does not fail. -/
theorem next_load {point : LoadPoint} {later : Account} {moved : UserCall}
    (sound : run.fails point.updateStep = false)
    (loads : UserCall.load crypto (run.time point.updateStep) account purpose point =
      (later, moved)) :
    run.next crypto userId
        (store.saveAccount ⟨userId, account⟩, .loading purpose point) =
      some (store.saveAccount ⟨userId, later⟩, moved) := by
  refine next_sound found ?_ (congrArg some loads)
  rintro step ⟨⟩
  exact sound

/-- Three steps that read a value through its cache entry lead on if no call fails. -/
theorem fetch_leads
    (fetching : Fetching crypto account purpose slot get find set setStep moved)
    (fetches : run.Fetches get.updateStep find.updateStep setStep (slot.read account)) :
    ∃ cached value, run.Steps crypto userId
      (store.saveAccount ⟨userId, account⟩, .loading purpose get)
      (store.saveAccount ⟨userId, slot.write cached account⟩, moved value) := by
  obtain ⟨first, missed⟩ := fetches
  have begins := next_load found purpose first (fetching.gets _)
  cases cached : RedisService.get (run.time get.updateStep) (slot.read account) with
  | some value =>
      rw [cached] at begins
      refine ⟨slot.read account, value, ?_⟩
      rw [fetching.same]
      exact .single ⟨rfl, begins⟩
  | none =>
      obtain ⟨second, third⟩ := missed cached
      rw [cached] at begins
      obtain ⟨computed, finds⟩ := fetching.finds
      obtain ⟨entry, sets⟩ := fetching.sets computed (run.time setStep)
      rw [← fetching.setIs computed] at third sets
      exact ⟨_, _, .head ⟨rfl, begins⟩ (.head ⟨rfl, next_load found purpose second (finds _)⟩
        (.single ⟨rfl, next_load found purpose third sets⟩))⟩

/-- The first of the three calls that fails ends them. -/
theorem fetch_throws
    (fetching : Fetching crypto account purpose slot get find set setStep moved)
    (stops : ¬ run.Fetches get.updateStep find.updateStep setStep (slot.read account)) :
    run.Steps crypto userId
      (store.saveAccount ⟨userId, account⟩, .loading purpose get)
      (store.saveAccount ⟨userId, account⟩, .threw callFailed) := by
  cases first : run.fails get.updateStep with
  | true => exact .single ⟨rfl, next_fails rfl first⟩
  | false =>
      simp only [Fetches, first, true_and, Classical.not_imp, not_and,
        Bool.not_eq_false] at stops
      obtain ⟨cached, fails⟩ := stops
      have begins := next_load found purpose first (fetching.gets _)
      rw [cached] at begins
      cases second : run.fails find.updateStep with
      | true => exact .head ⟨rfl, begins⟩ (.single ⟨rfl, next_fails rfl second⟩)
      | false =>
          obtain ⟨computed, finds⟩ := fetching.finds
          have making : (UserCall.loading purpose (set computed)).updateStep =
              some setStep :=
            congrArg some (fetching.setIs computed)
          exact .head ⟨rfl, begins⟩ (.head ⟨rfl, next_load found purpose second (finds _)⟩
            (.single ⟨rfl, next_fails making (fails second)⟩))

/-- A load of which no call fails leads on with the user it has loaded, and otherwise it
throws; the row stays as it is. -/
theorem load_steps :
    ∃ later, later.row = account.row ∧
      ((run.Loads account ∧ ∃ loaded, run.Steps crypto userId
        (store.saveAccount ⟨userId, account⟩, .loading purpose .getProfile)
        (store.saveAccount ⟨userId, later⟩, UserCall.loaded crypto purpose loaded)) ∨
      (¬ run.Loads account ∧ run.Steps crypto userId
        (store.saveAccount ⟨userId, account⟩, .loading purpose .getProfile)
        (store.saveAccount ⟨userId, later⟩, .threw callFailed))) := by
  by_cases profile : run.Fetches .getProfile .findProfile .setProfile
      account.profileCache
  · obtain ⟨cached, profileData, first⟩ :=
      fetch_leads found purpose (fetching_profile purpose account) profile
    have reads := @fetching_status crypto purpose
      (Account.profileSlot.write cached account) profileData
    by_cases status : run.Fetches .getStatus .findStatus .setStatus
        account.statusCache
    · obtain ⟨cachedStatus, statusData, second⟩ := fetch_leads found purpose reads status
      exact ⟨Account.statusSlot.write cachedStatus (Account.profileSlot.write cached account),
        rfl, Or.inl ⟨⟨profile, status⟩, _, first.trans second⟩⟩
    · exact ⟨Account.profileSlot.write cached account, rfl,
        Or.inr ⟨fun loads => status loads.status,
          first.trans (fetch_throws found purpose reads status)⟩⟩
  · exact ⟨account, rfl, Or.inr ⟨fun loads => profile loads.profile,
      fetch_throws found purpose (fetching_profile purpose account) profile⟩⟩

end Loads

/-- An update that has loaded its user saves it, unless the deletion of the cached
profile or the save fails. -/
theorem change_steps (found : store.accounts.find? userId = some user)
    (change : UserChange) (loaded : PartialUser) :
    ∃ later,
      ((run.fails .deleteProfile = false ∧ run.fails .save = false) ∧
        later.row = assign account.row (overlay loaded change.patch) ∧
        run.Steps crypto userId
          (store.saveAccount ⟨userId, account⟩, .deleting change loaded)
          (store.saveAccount ⟨userId, later⟩, .updated change)) ∨
      (¬ (run.fails .deleteProfile = false ∧ run.fails .save = false) ∧
        later.row = account.row ∧
        run.Steps crypto userId
          (store.saveAccount ⟨userId, account⟩, .deleting change loaded)
          (store.saveAccount ⟨userId, later⟩, .threw callFailed)) := by
  cases deletes : run.fails .deleteProfile with
  | true =>
      exact ⟨account, Or.inr ⟨by simp, rfl, .single ⟨rfl, next_fails rfl deletes⟩⟩⟩
  | false =>
      have first : run.next crypto userId
          (store.saveAccount ⟨userId, account⟩, .deleting change loaded) =
            some (store.saveAccount ⟨userId, deleteProfile account⟩,
              .saving change loaded) := by
        refine next_sound found ?_ rfl
        rintro step ⟨⟩
        exact deletes
      cases saves : run.fails .save with
      | true =>
          exact ⟨deleteProfile account, Or.inr ⟨by simp, rfl,
            .head ⟨rfl, first⟩ (.single ⟨rfl, next_fails rfl saves⟩)⟩⟩
      | false =>
          refine ⟨UsersService.save (overlay loaded change.patch) (deleteProfile account),
            Or.inl ⟨⟨rfl, rfl⟩, rfl,
              .head ⟨rfl, first⟩ (.single ⟨rfl, next_sound found ?_ rfl⟩)⟩⟩
          rintro step ⟨⟩
          exact saves

/-- The users of two stores have the same columns. -/
def SameRows (store after : TelegramStore) : Prop :=
  ∀ id, (after.accounts.find? id).map (fun user => user.account.row) =
    (store.accounts.find? id).map fun user => user.account.row

theorem sameRows_saveAccount (found : store.accounts.find? userId = some user)
    (row : account.row = user.account.row) :
    SameRows store (store.saveAccount ⟨userId, account⟩) := by
  intro id
  simp only [TelegramStore.saveAccount, KeyedTable.find?_save]
  split
  · next same => rw [same, found, Option.map_some, Option.map_some, row]
  · rfl

/-- How a whole update of a user ends: it saves the user with the columns put over, or
it throws and leaves the columns of all users. -/
inductive Outcome (run : UpdateRun) (store : TelegramStore) (userId : Nat)
    (update : PartialUser) : TelegramStore × UserCall → Prop
  | saved {user later loaded}
      (saves : run.Saves store.accounts.rows (store.accounts.find? userId) update)
      (found : store.accounts.find? userId = some user)
      (row : later.row = assign user.account.row (overlay loaded update)) :
      Outcome run store userId update
        (store.saveAccount ⟨userId, later⟩, .updated ⟨update, none⟩)
  | threw {after error}
      (stops : ¬ run.Saves store.accounts.rows (store.accounts.find? userId) update)
      (tokens : after.tokens = store.tokens) (rows : SameRows store after) :
      Outcome run store userId update (after, .threw error)

theorem update_steps_of_found (run : UpdateRun) (update : PartialUser)
    (found : store.accounts.find? userId = some user) :
    ∃ last, run.Steps crypto userId (store, UserCall.update update) last ∧
      run.Outcome store userId update last := by
  by_cases passes : ∀ column ∈ UniqueColumn.all,
      run.Passes store.accounts.rows update column
  · have unique (column : UniqueColumn) : run.Passes store.accounts.rows update column :=
      passes column (by cases column <;> decide)
    have stands := saveAccount_found found
    have checked : run.Steps crypto userId (store, UserCall.update update)
        (store.saveAccount ⟨userId, user.account⟩,
          .loading (.update ⟨update, none⟩) .getProfile) := by
      refine (checking_passes found passes).tail ⟨rfl, ?_⟩
      nth_rw 1 [← stands]
      exact next_sound found nofun rfl
    obtain ⟨later, row, ⟨loads, loaded, loading⟩ | ⟨stops, loading⟩⟩ :=
      @load_steps crypto run store userId user user.account found (.update ⟨update, none⟩)
    · obtain ⟨last, ⟨goes, lastRow, changing⟩ | ⟨stops, lastRow, changing⟩⟩ :=
        @change_steps crypto run store userId user later found ⟨update, none⟩ loaded
      · exact ⟨_, (checked.trans loading).trans changing,
          .saved ⟨unique, ⟨user, found, loads⟩, goes.1, goes.2⟩ found
            (by rw [lastRow, row])⟩
      · exact ⟨_, (checked.trans loading).trans changing,
          .threw (fun saves => stops ⟨saves.deletes, saves.saves⟩) rfl
            (sameRows_saveAccount found (lastRow.trans row))⟩
    · refine ⟨_, checked.trans loading, .threw (fun saves => ?_) rfl
        (sameRows_saveAccount found row)⟩
      obtain ⟨other, same, loads⟩ := saves.loads
      rw [found] at same
      obtain rfl := Option.some.inj same
      exact stops loads
  · obtain ⟨error, steps⟩ := @checking_stops crypto run store userId user found update _ passes
    exact ⟨_, steps, .threw (fun saves => passes fun column _ => saves.unique column) rfl
      fun _ => rfl⟩

/-- A whole update of a user, from its arrival to its end. -/
theorem update_steps (crypto : Crypto) (run : UpdateRun) (store : TelegramStore)
    (userId : Nat) (update : PartialUser) :
    ∃ last, run.Steps crypto userId (store, UserCall.update update) last ∧
      run.Outcome store userId update last := by
  cases found : store.accounts.find? userId with
  | some user => exact update_steps_of_found run update found
  | none =>
      have stops : ¬ run.Saves store.accounts.rows (store.accounts.find? userId)
          update := by
        rintro ⟨_, ⟨user, same, _⟩, _⟩
        rw [found] at same
        contradiction
      have throws : ∃ error, run.next crypto userId (store, UserCall.update update) =
          some (store, .threw error) := by
        unfold next
        split
        · exact ⟨callFailed, rfl⟩
        · exact ⟨userNotFound userId, by rw [TelegramStore.onUser, found]⟩
      obtain ⟨error, moves⟩ := throws
      exact ⟨_, .single ⟨rfl, moves⟩, .threw stops rfl fun _ => rfl⟩

end UpdateRun

end SpareSpace
