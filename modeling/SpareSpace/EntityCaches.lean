import SpareSpace.UserCalls
import SpareSpace.AccountOutcomes
import SpareSpace.ListingCalls

/-!
# The caches of one user and of one listing at rest

A reader that has missed reads the row and fills the cache in two steps, and an
update deletes the entry before it saves the row.  When all calls are done an
entry is what the row holds, in every run in which nothing old is left in the
cache by a fill, by a save or by an update that gives up, unless another call
is on its way to deleting the entry.
-/

namespace SpareSpace

open ColumnRecords InterleavedCalls TransitionRuns UsersService ListingsService

namespace UserCall

/-- The call is on its way to deleting the cached profile, unless it is an
update that finds a conflict. -/
def deletesProfile : UserCall → Prop
  | checking _ _ | loading (.update _) _ | deleting _ _ => True
  | validateExistence _ | writing _ | invalidating _ => True
  | _ => False

/-- No old profile is left in the cache without a call that will delete it. -/
def LeavesProfileCurrent (config : Config Account UserCall) :
    Move UserCall UserEnvironment → Prop
  | .spawn _ => True
  | .act index environment =>
      match config.calls[index]? with
      | some (loading purpose (.setProfile profileData)) =>
          profileData = select UserColumn.inProfile config.store.row ∨
            (loading purpose (.setProfile profileData)).deletesProfile ∨
              Another config.calls index deletesProfile
      | some (saving change user) =>
          (save (overlay user change.patch) config.store).Coherent ∨
            Another config.calls index deletesProfile
      | some (checking update (column :: _)) =>
          ∀ error, checkUnique environment update column = .error error →
            config.store.Coherent ∨
              Another config.calls index deletesProfile
      | _ => True

section Step

variable {crypto : Crypto} {environment : UserEnvironment}
  {account after : Account} {call moved : UserCall}

theorem coherent_of_filled {now ttlSec : Int} {profileData : PartialUser}
    (cache : after.profileCache = RedisService.entry now ttlSec profileData)
    (read : profileData = select UserColumn.inProfile after.row) :
    after.Coherent := by
  intro entry kept
  rw [cache] at kept
  obtain rfl := Option.some.inj kept
  exact read

theorem coherent_of_online {isOnline : Bool} {now : Int}
    (coherent : account.Coherent)
    (row : after.row = assign account.row (onlineStatus isOnline now))
    (cache : after.profileCache = account.profileCache) :
    after.Coherent := by
  intro entry kept
  rw [coherent entry (cache ▸ kept), row]
  funext column
  cases column <;> rfl

theorem coherent_or_deleted_step {config : Config Account UserCall}
    {index : Nat}
    (leaves : LeavesProfileCurrent config (.act index environment))
    (found : config.calls[index]? = some call)
    (moves : next crypto environment config.store call = some (after, moved))
    (alone : ¬ Another config.calls index deletesProfile)
    (mended : config.store.Coherent ∨ call.deletesProfile) :
    after.Coherent ∨ moved.deletesProfile := by
  have same (row : after.row = config.store.row)
      (cache : after.profileCache = config.store.profileCache)
      (idle : ¬ call.deletesProfile) :
      after.Coherent ∨ moved.deletesProfile :=
    Or.inl ((Account.Quiet.of_eq row cache).coherent (mended.resolve_right idle))
  simp only [LeavesProfileCurrent, found] at leaves
  cases effect_of_next moves with
  | conflict taken kept =>
      subst kept
      exact Or.inl ((leaves _ taken).resolve_right alone)
  | check kept => exact Or.inr trivial
  | checked kept => exact Or.inr trivial
  | @load purpose point later kept =>
      cases purpose with
      | update change => exact Or.inr trivial
      | findById => exact same (by rw [kept]) (by rw [kept]) id
      | validate recoveryCode => exact same (by rw [kept]) (by rw [kept]) id
  | @fill purpose profileData row cache =>
      rcases leaves with read | own | another
      · exact Or.inl (coherent_of_filled cache (row ▸ read))
      · cases purpose with
        | update change => exact Or.inr trivial
        | findById => exact own.elim
        | validate recoveryCode => exact own.elim
      · exact absurd another alone
  | @loaded purpose point user row cache =>
      cases purpose with
      | update change => exact Or.inr trivial
      | findById => exact same row cache id
      | validate recoveryCode => exact same row cache id
  | delete row cache => exact Or.inl (Account.coherent_of_empty cache)
  | @save change user row cache =>
      have saved : (save (overlay user change.patch) config.store).Quiet after :=
        Account.Quiet.of_eq row cache
      exact Or.inl (saved.coherent (leaves.resolve_right alone))
  | exist kept => exact Or.inr trivial
  | write row cache => exact Or.inr trivial
  | writeOnline row cache =>
      exact Or.inl (coherent_of_online (mended.resolve_right id) row cache)
  | invalidate row cache => exact Or.inl (Account.coherent_of_empty cache)
  | invalidateStatus row cache => exact same row cache id

end Step

theorem profile_current_at_rest {crypto : Crypto}
    {start last : Config Account UserCall} (coherent : start.store.Coherent)
    (run : Run (userSystem crypto arrives).step LeavesProfileCurrent start last)
    (rest : ∀ call ∈ last.calls, call.inFlight = false) :
    last.store.Coherent := by
  have mended := holds_or_mended (userSystem crypto arrives)
    Account.Coherent deletesProfile coherent (fun _ _ _ _ _ _ leaves found moves alone =>
      coherent_or_deleted_step leaves found moves alone) run
  refine mended.resolve_right ?_
  rintro ⟨call, present, deletes⟩
  have idle := rest call present
  cases call <;> contradiction

end UserCall

namespace ListingCall

/-- The cached listing, if there is one, is what the row holds. -/
def ListingCurrent (store : ListingStore) : Prop :=
  ∀ entry, store.cache = some entry →
    entry.value = select (fun _ => true) store.row

/-- The call is on its way to deleting the cached listing, unless it is an
update that gets no address. -/
def deletesListing : ListingCall → Prop
  | loading (.update updateDto) _ | loaded (.update updateDto) _ =>
      ∃ patch, prepareListingData updateDto = .ok patch
  | loading (.updateStatus newStatus) (.set listing)
  | loaded (.updateStatus newStatus) listing =>
      listing .status ≠ some newStatus
  | geocoding _ _ | deleting _ _ | savingStatus _ _ | invalidating _ => True
  | incrementing _ | deletingViewed _ => True
  | _ => False

/-- No old listing is left in the cache without a call that will delete it. -/
def LeavesListingCurrent (config : Config ListingStore ListingCall) :
    Move ListingCall ListingEnvironment → Prop
  | .spawn _ => True
  | .act index environment =>
      match config.calls[index]? with
      | some (loading purpose (.set listing)) =>
          listing = select (fun _ => true) config.store.row ∨
            (loading purpose (.set listing)).deletesListing ∨
              Another config.calls index deletesListing
      | some (saving patch listing) =>
          ListingCurrent (config.store.save (overlay listing patch)) ∨
            Another config.calls index deletesListing
      | some (geocoding _ _) =>
          environment.address.filter (fun address => address != "") = none →
            ListingCurrent config.store ∨
              Another config.calls index deletesListing
      | _ => True

section Step

variable {environment : ListingEnvironment} {after : ListingStore}
  {call moved : ListingCall}

theorem listingCurrent_of_deleted (store : ListingStore) :
    ListingCurrent store.deleteCached := by
  intro entry kept
  contradiction

theorem listingCurrent_of_filled (store : ListingStore) (now : Int) :
    ListingCurrent (store.fill now (select (fun _ => true) store.row)) := by
  intro entry kept
  obtain rfl := Option.some.inj kept
  rfl

theorem listingCurrent_or_deleted_step {config : Config ListingStore ListingCall}
    {index : Nat}
    (leaves : LeavesListingCurrent config (.act index environment))
    (found : config.calls[index]? = some call)
    (moves : next environment config.store call = some (after, moved))
    (alone : ¬ Another config.calls index deletesListing)
    (mended : ListingCurrent config.store ∨ call.deletesListing) :
    ListingCurrent after ∨ moved.deletesListing := by
  simp only [LeavesListingCurrent, found] at leaves
  cases effect_of_next moves with
  | @miss purpose kept =>
      cases purpose <;> exact kept ▸ mended
  | @find purpose kept =>
      subst kept
      cases purpose with
      | read => exact Or.inl (mended.resolve_right id)
      | update updateDto => exact mended
      | updateStatus newStatus => exact Or.inl (mended.resolve_right id)
  | @hit purpose listing kept =>
      subst kept
      cases purpose with
      | read => exact Or.inl (mended.resolve_right id)
      | update updateDto => exact mended
      | updateStatus newStatus => exact Or.inl (mended.resolve_right id)
  | @fill purpose listing filled =>
      rcases leaves with read | own | another
      · rw [filled, read]
        exact Or.inl (listingCurrent_of_filled _ _)
      · cases purpose with
        | read => exact own.elim
        | update updateDto => exact Or.inr own
        | updateStatus newStatus => exact Or.inr own
      · exact absurd another alone
  | read kept => exact Or.inl (kept ▸ mended.resolve_right id)
  | reject refused kept =>
      refine Or.inl (kept ▸ mended.resolve_right ?_)
      rintro ⟨patch, prepared⟩
      rw [refused] at prepared
      contradiction
  | geocode kept => exact Or.inr trivial
  | prepare kept => exact Or.inr trivial
  | lost nowhere kept =>
      subst kept
      exact Or.inl ((leaves nowhere).resolve_right alone)
  | locate kept => exact Or.inr trivial
  | delete deleted => exact Or.inl (deleted ▸ listingCurrent_of_deleted _)
  | save saved => exact Or.inl (saved ▸ leaves.resolve_right alone)
  | same held settled =>
      have current := mended.resolve_right (fun other => other held)
      exact Or.inl (settled ▸ current)
  | differ other kept => exact Or.inr trivial
  | saveStatus saved => exact Or.inr trivial
  | invalidate deleted => exact Or.inl (deleted ▸ listingCurrent_of_deleted _)
  | seen kept => exact Or.inl (kept ▸ mended.resolve_right id)
  | unseen kept => exact Or.inr trivial
  | increment saved => exact Or.inr trivial
  | deleteViewed deleted => exact Or.inl (deleted ▸ listingCurrent_of_deleted _)
  | insert inserted => exact Or.inl (inserted ▸ mended.resolve_right id)

end Step

theorem listing_current_at_rest {start last : Config ListingStore ListingCall}
    (current : ListingCurrent start.store)
    (run : Run listingSystem.step LeavesListingCurrent start last)
    (rest : ∀ call ∈ last.calls, call.inFlight = false) :
    ListingCurrent last.store := by
  have mended := holds_or_mended listingSystem ListingCurrent deletesListing
    current (fun _ _ _ _ _ _ leaves found moves alone =>
      listingCurrent_or_deleted_step leaves found moves alone) run
  refine mended.resolve_right ?_
  rintro ⟨call, present, deletes⟩
  have idle := rest call present
  cases call <;> contradiction

end ListingCall

open UserCall ListingCall

private def tenantStart : Config Account UserCall :=
  ⟨(newAccount (newRow "+79001234567" "password" "Ivan" "Petrov" none 0)
    1).account, []⟩

/-- Moves after which the cached profile is current or deleted later. -/
private def leavesProfile (config : Config Account UserCall) :
    Move UserCall UserEnvironment → Bool
  | .spawn _ => true
  | .act index _ =>
      match config.calls[index]? with
      | some (UserCall.loading _ (.setProfile _)) => false
      | some (UserCall.saving _ _) | some (checking _ (_ :: _)) => false
      | _ => true

private theorem leavesProfileCurrent_of_check (config : Config Account UserCall)
    (label : Move UserCall UserEnvironment)
    (other : leavesProfile config label = true) :
    LeavesProfileCurrent config label := by
  cases label with
  | spawn call => exact trivial
  | act index environment =>
      simp only [leavesProfile] at other
      simp only [LeavesProfileCurrent]
      split at other <;> first | contradiction | trivial

private def parking : ListingRow :=
  createdRow 2 ⟨.parking, "Parking", none, [⟨500, .day⟩], ⟨30, 60⟩, none,
    none, none, []⟩ "Moscow"

private def parkingStart : Config ListingStore ListingCall :=
  ⟨⟨parking, none, [], []⟩, []⟩

private def leavesListing (config : Config ListingStore ListingCall) :
    Move ListingCall ListingEnvironment → Bool
  | .spawn _ => true
  | .act index _ =>
      match config.calls[index]? with
      | some (ListingCall.loading _ (.set _)) => false
      | some (ListingCall.saving _ _) | some (geocoding _ _) => false
      | _ => true

private theorem leavesListingCurrent_of_check
    (config : Config ListingStore ListingCall)
    (label : Move ListingCall ListingEnvironment)
    (other : leavesListing config label = true) :
    LeavesListingCurrent config label := by
  cases label with
  | spawn call => exact trivial
  | act index environment =>
      simp only [leavesListing] at other
      simp only [LeavesListingCurrent]
      split at other <;> first | contradiction | trivial

end SpareSpace
