import SpareSpace.DevicesService
import SpareSpace.NamedRows
import SpareSpace.TransitionRuns

/-!
# The push tokens of a user

What the table says follows from the calls so far: the row of a user's device
has the token that the user has last registered for this device, unless it was
deleted since.  Nothing ties a token to one row, so a token is pushed to once for
each device of each user that has registered it last.
-/

namespace SpareSpace

open Fallible NamedRows TransitionRuns

/-- The user and the device of a row. -/
def UserDevice.place (device : UserDevice) : Option (Nat × String) :=
  some (device.userId, device.deviceId)

/-- The token of a row. -/
def UserDevice.token (device : UserDevice) : Option String :=
  some device.fcmToken

/-- The token that the calls so far, the last one first, have left for a user's
device. -/
def heldToken : List DeviceRequest → Nat → String → Option String
  | [], _, _ => none
  | .upsertDevice owner dto :: earlier, userId, deviceId =>
      if owner = userId ∧ dto.deviceId = deviceId then
        some dto.fcmToken
      else
        heldToken earlier userId deviceId
  | .deleteDevice owner fcmToken :: earlier, userId, deviceId =>
      (heldToken earlier userId deviceId).filter fun token =>
        !(userId == owner && token == fcmToken)
  | .deleteTokens fcmTokens :: earlier, userId, deviceId =>
      (heldToken earlier userId deviceId).filter fun token =>
        !fcmTokens.contains token

/-- The user who has registered a token last. -/
def lastRegistrant : List DeviceRequest → String → Option Nat
  | [], _ => none
  | .upsertDevice owner dto :: earlier, fcmToken =>
      if dto.fcmToken = fcmToken then some owner else lastRegistrant earlier fcmToken
  | _ :: earlier, fcmToken => lastRegistrant earlier fcmToken

/-- The store with the calls so far that have not thrown, the last one first. -/
structure DeviceWatch where
  store : DeviceStore
  history : List DeviceRequest

namespace DeviceWatch

def opening (users : List Nat) : DeviceWatch :=
  ⟨.opening users, []⟩

/-- Serve a request and note it unless it throws. -/
def step (watch : DeviceWatch) (request : DeviceRequest) : Option DeviceWatch :=
  match run request.serve watch.store with
  | (.ok _, after) => some ⟨after, request :: watch.history⟩
  | (.error _, after) => some ⟨after, watch.history⟩

/-- A token is registered only while no other row has it. -/
def Exclusive (watch : DeviceWatch) : DeviceRequest → Prop
  | .upsertDevice userId dto =>
      ∀ device ∈ watch.store.devices.rows, device.fcmToken = dto.fcmToken →
        device.userId = userId ∧ device.deviceId = dto.deviceId
  | _ => True

instance (watch : DeviceWatch) (request : DeviceRequest) :
    Decidable (watch.Exclusive request) :=
  match request with
  | .upsertDevice userId dto =>
      inferInstanceAs (Decidable (∀ device ∈ watch.store.devices.rows,
        device.fcmToken = dto.fcmToken →
          device.userId = userId ∧ device.deviceId = dto.deviceId))
  | .deleteDevice .. | .deleteTokens .. => inferInstanceAs (Decidable True)

/-- One row for each device of a user, with the token that the calls have left for
it. -/
structure Tracks (watch : DeviceWatch) : Prop where
  oneEach : OneEach UserDevice.place watch.store.devices.rows
  held : ∀ userId deviceId token,
    heldToken watch.history userId deviceId = some token ↔
      ∃ device ∈ watch.store.devices.rows, device.userId = userId ∧
        device.deviceId = deviceId ∧ device.fcmToken = token

end DeviceWatch

/-- What a registration that has not thrown leaves: its row beside the rows of
other places. -/
structure Registered (userId : Nat) (dto : UpdateDeviceDto)
    (store after : DeviceStore) (device : UserDevice) : Prop where
  owner : device.userId = userId
  place : device.deviceId = dto.deviceId
  token : device.fcmToken = dto.fcmToken
  members : ∀ other, other ∈ after.devices.rows ↔
    other = device ∨ (other ∈ store.devices.rows ∧
      ¬ (other.userId = userId ∧ other.deviceId = dto.deviceId))

namespace DevicesService

variable {store : DeviceStore} {userId : Nat} {dto : UpdateDeviceDto}

/-- A registration throws and leaves the table alone, or leaves its row in it. -/
theorem upsertDevice_cases
    (oneEach : OneEach UserDevice.place store.devices.rows) :
    (∃ error, run (upsertDevice userId dto) store = (.error error, store)) ∨
      ∃ after device, run (upsertDevice userId dto) store = (.ok (), after) ∧
        Registered userId dto store after device := by
  unfold upsertDevice
  rw [run_bind, run_reads]
  cases found : store.findDevice userId dto.deviceId with
  | none =>
      simp only [run_updates]
      cases known : store.users.contains userId with
      | false => exact Or.inl ⟨_, rfl⟩
      | true =>
          refine Or.inr ⟨_, created userId dto store.devices.nextId, rfl,
            rfl, rfl, rfl, fun other => ?_⟩
          have absent := List.find?_eq_none.mp found
          simp only [Bool.and_eq_true, beq_iff_eq] at absent
          rw [KeyedTable.mem_insert_iff, or_comm]
          exact or_congr_right (iff_self_and.mpr fun present => absent other present)
  | some device =>
      have present := List.mem_of_find?_eq_some found
      have matched := List.find?_some found
      simp only [Bool.and_eq_true, beq_iff_eq] at matched
      refine Or.inr ⟨_, updated device dto, rfl, matched.1, matched.2, rfl,
        fun other => ?_⟩
      rw [KeyedTable.mem_save_iff]
      refine or_congr_right (and_congr_right fun otherPresent => not_congr ?_)
      constructor
      · intro same
        obtain rfl := store.devices.eq_of_key_eq otherPresent present same
        exact matched
      · rintro ⟨owner, place⟩
        have same := oneEach other otherPresent device present _ rfl
          (by rw [UserDevice.place, matched.1, matched.2, owner, place])
        rw [same]
        rfl

end DevicesService

namespace DeviceWatch

variable {watch after : DeviceWatch}

theorem tracks_opening (users : List Nat) : (opening users).Tracks where
  oneEach := OneEach.nil _
  held userId deviceId token := by simp [opening, DeviceStore.opening, heldToken,
    KeyedTable.empty]

/-- A registration puts its token in its place and no other. -/
theorem Tracks.upsert (tracks : watch.Tracks) {userId : Nat} {dto : UpdateDeviceDto}
    {stored : DeviceStore} {device : UserDevice}
    (registered : Registered userId dto watch.store stored device) :
    Tracks ⟨stored, .upsertDevice userId dto :: watch.history⟩ where
  oneEach := by
    refine tracks.oneEach.write (fun row => (registered.members row).mp) ?_
    intro row _ elsewhere shared named same
    obtain ⟨owner, place⟩ := Prod.mk.inj
      (Option.some.inj (same.trans named.symm))
    exact elsewhere ⟨owner.trans registered.owner, place.trans registered.place⟩
  held owner deviceId token := by
    simp only [heldToken, registered.members, or_and_right, exists_or, exists_eq_left,
      registered.owner, registered.place, registered.token]
    split
    · next here =>
        obtain ⟨rfl, rfl⟩ := here
        grind
    · next elsewhere =>
        rw [tracks.held]
        grind

/-- A deletion by user and token takes the tokens it names and no others. -/
theorem Tracks.delete (tracks : watch.Tracks) {gone : Nat → String → Bool}
    {stored : DeviceStore} {history : List DeviceRequest}
    (members : ∀ device, device ∈ stored.devices.rows ↔
      device ∈ watch.store.devices.rows ∧
        gone device.userId device.fcmToken = false)
    (held : ∀ userId deviceId, heldToken history userId deviceId =
      (heldToken watch.history userId deviceId).filter (!gone userId ·)) :
    Tracks ⟨stored, history⟩ where
  oneEach := tracks.oneEach.of_subset fun row present => ((members row).mp present).1
  held userId deviceId token := by
    rw [held, Option.filter_eq_some_iff, tracks.held]
    simp only [members, Bool.not_eq_true']
    grind

/-- What a step is: a call that has thrown and left the watch alone, a registration
or a deletion. -/
inductive Effect (watch after : DeviceWatch) (request : DeviceRequest) : Prop
  | threw (same : after = watch)
  | upsert {userId dto device} (asked : request = .upsertDevice userId dto)
      (noted : after.history = request :: watch.history)
      (registered : Registered userId dto watch.store after.store device)
  | delete {gone : Nat → String → Bool}
      (noted : after.history = request :: watch.history)
      (members : ∀ device, device ∈ after.store.devices.rows ↔
        device ∈ watch.store.devices.rows ∧
          gone device.userId device.fcmToken = false)
      (held : ∀ userId deviceId, heldToken after.history userId deviceId =
        (heldToken watch.history userId deviceId).filter (!gone userId ·))
      (last : ∀ token, lastRegistrant after.history token =
        lastRegistrant watch.history token)

theorem effect_of_step {request : DeviceRequest}
    (oneEach : OneEach UserDevice.place watch.store.devices.rows)
    (taken : watch.step request = some after) : Effect watch after request := by
  cases request with
  | upsertDevice userId dto =>
      rcases @DevicesService.upsertDevice_cases watch.store userId dto oneEach with
        ⟨error, ran⟩ | ⟨stored, device, ran, registered⟩ <;>
        simp only [step, DeviceRequest.serve, ran, Option.some.injEq] at taken <;>
        subst taken
      · exact .threw rfl
      · exact .upsert rfl rfl registered
  | deleteDevice userId fcmToken =>
      obtain rfl := Option.some.inj taken
      exact .delete rfl (fun device => KeyedTable.mem_deleteWhere_iff _)
        (fun userId deviceId => rfl) fun token => rfl
  | deleteTokens fcmTokens =>
      obtain rfl := Option.some.inj taken
      exact .delete rfl (fun device => KeyedTable.mem_deleteWhere_iff _)
        (fun userId deviceId => rfl) fun token => rfl

theorem Tracks.step {request : DeviceRequest} (tracks : watch.Tracks)
    (taken : watch.step request = some after) : after.Tracks := by
  cases effect_of_step tracks.oneEach taken with
  | threw same => rwa [same]
  | upsert asked noted registered =>
      subst asked
      have := tracks.upsert registered
      rwa [← noted] at this
  | delete _ members held => exact tracks.delete members held

theorem tracks_of_reachable {users : List Nat}
    (reached : Reachable step (opening users) watch) : watch.Tracks := by
  refine Run.invariant Tracks (tracks_opening users) ?_ reached
  intro before request after tracks _ taken
  exact tracks.step taken

/-- A token is in one row, of the user who has registered it last. -/
structure Owned (watch : DeviceWatch) : Prop where
  oneEach : OneEach UserDevice.token watch.store.devices.rows
  last : ∀ device ∈ watch.store.devices.rows,
    lastRegistrant watch.history device.fcmToken = some device.userId

theorem owned_opening (users : List Nat) : (opening users).Owned where
  oneEach := OneEach.nil _
  last device present := by
    simp [opening, DeviceStore.opening, KeyedTable.empty] at present

theorem Owned.step {request : DeviceRequest} (owned : watch.Owned)
    (tracks : watch.Tracks) (exclusive : watch.Exclusive request)
    (taken : watch.step request = some after) : after.Owned := by
  cases effect_of_step tracks.oneEach taken with
  | threw same => rwa [same]
  | @upsert userId dto device asked noted registered =>
      subst asked
      have elsewhere : ∀ row ∈ watch.store.devices.rows,
          ¬ (row.userId = userId ∧ row.deviceId = dto.deviceId) →
            dto.fcmToken ≠ row.fcmToken :=
        fun row present stays same => stays (exclusive row present same.symm)
      refine ⟨owned.oneEach.write (fun row => (registered.members row).mp) ?_, ?_⟩
      · intro row present stays shared named same
        refine elsewhere row present stays ?_
        rw [← registered.token]
        exact Option.some.inj (named.trans same.symm)
      · intro row present
        rw [noted, lastRegistrant]
        rcases (registered.members row).mp present with rfl | ⟨old, stays⟩
        · rw [if_pos registered.token.symm, registered.owner]
        · rw [if_neg (elsewhere row old stays), owned.last row old]
  | delete _ members _ last =>
      refine ⟨owned.oneEach.of_subset fun row present =>
        ((members row).mp present).1, fun row present => ?_⟩
      rw [last, owned.last row ((members row).mp present).1]

theorem owned_of_run {users : List Nat}
    (reached : Run step Exclusive (opening users) watch) :
    watch.Tracks ∧ watch.Owned := by
  refine Run.invariant (fun state => state.Tracks ∧ state.Owned)
    ⟨tracks_opening users, owned_opening users⟩ ?_ reached
  rintro before request after ⟨tracks, owned⟩ exclusive taken
  exact ⟨tracks.step taken, owned.step tracks exclusive taken⟩

/-- A column without a repetition among the rows of a user names each once. -/
theorem nodup_map_of_user {Name : Type} (watch : DeviceWatch) (userId : Nat)
    (column : UserDevice → Name)
    (names : ∀ first ∈ watch.store.devices.rows,
      ∀ second ∈ watch.store.devices.rows, first.userId = second.userId →
        column first = column second → first = second) :
    ((watch.store.devices.rows.filter fun device =>
      device.userId == userId).map column).Nodup := by
  refine List.Nodup.map_on ?_ (watch.store.devices.nodup.of_map.filter _)
  intro first firstMem second secondMem same
  simp only [List.mem_filter, beq_iff_eq] at firstMem secondMem
  exact names first firstMem.1 second secondMem.1
    (firstMem.2.trans secondMem.2.symm) same

/-- The tokens of a user are those held by the devices, each once. -/
theorem Tracks.getUserTokens (tracks : watch.Tracks) (userId : Nat) :
    ∃ devices : List String, devices.Nodup ∧
      (∀ deviceId, deviceId ∈ devices ↔
        (heldToken watch.history userId deviceId).isSome) ∧
      watch.store.getUserTokens userId =
        devices.filterMap (heldToken watch.history userId) := by
  refine ⟨(watch.store.devices.rows.filter fun device =>
    device.userId == userId).map UserDevice.deviceId, ?_, fun deviceId => ?_, ?_⟩
  · refine watch.nodup_map_of_user userId _ ?_
    intro first firstMem second secondMem owner device
    refine tracks.oneEach first firstMem second secondMem _ rfl ?_
    rw [UserDevice.place, owner, device]
  · simp only [Option.isSome_iff_exists, tracks.held]
    simp only [List.mem_map, List.mem_filter, beq_iff_eq]
    grind
  · rw [List.filterMap_map, DeviceStore.getUserTokens, ← List.filterMap_eq_map]
    refine List.filterMap_congr fun device present => ?_
    simp only [List.mem_filter, beq_iff_eq] at present
    exact ((tracks.held _ _ _).mpr ⟨device, present.1, present.2, rfl, rfl⟩).symm

end DeviceWatch

open DeviceWatch

/-- Each device of each user has at most one row, and a user is pushed to at the
tokens last registered for the user's devices and not deleted since, once for each
device.  If each token is registered only while no other row has it, a token is
pushed to for the user alone who has registered it last, and once. -/
theorem device_tokens {users : List Nat} {watch : DeviceWatch}
    (reached : Reachable step (opening users) watch) :
    OneEach UserDevice.place watch.store.devices.rows ∧
      (∀ userId, ∃ devices : List String, devices.Nodup ∧
        (∀ deviceId, deviceId ∈ devices ↔
          (heldToken watch.history userId deviceId).isSome) ∧
        watch.store.getUserTokens userId =
          devices.filterMap (heldToken watch.history userId)) ∧
      (Run step Exclusive (opening users) watch → ∀ userId,
        ∀ token ∈ watch.store.getUserTokens userId,
          lastRegistrant watch.history token = some userId ∧
            (watch.store.getUserTokens userId).count token = 1) := by
  have tracks := tracks_of_reachable reached
  refine ⟨tracks.oneEach, tracks.getUserTokens, fun exclusive userId token listed => ?_⟩
  have owned := (owned_of_run exclusive).2
  constructor
  · simp only [DeviceStore.getUserTokens, List.mem_map, List.mem_filter,
      beq_iff_eq] at listed
    obtain ⟨device, ⟨present, rfl⟩, rfl⟩ := listed
    exact owned.last device present
  · refine List.count_eq_one_of_mem (watch.nodup_map_of_user userId _ ?_) listed
    intro first firstMem second secondMem _ same
    exact owned.oneEach first firstMem second secondMem _ rfl (congrArg some same.symm)

/-- One device, with the token that Firebase gives it. -/
private def sharedPhone : UpdateDeviceDto :=
  ⟨"token", "phone", none⟩

/-- The users who register the phone, in order. -/
private def registers (userIds : List Nat) : List DeviceRequest :=
  userIds.map fun userId => .upsertDevice userId sharedPhone

/-- The phone changes hands: its first user, who has a tablet as well, deletes it before the
second user registers it. -/
private def handsOver : List DeviceRequest :=
  [.upsertDevice 1 sharedPhone, .upsertDevice 1 ⟨"other", "tablet", none⟩,
    .deleteDevice 1 "token", .upsertDevice 2 sharedPhone]

theorem device_tokens_sample :
    ∃ watch, execute step (opening [1, 2]) handsOver = some watch ∧
      OneEach UserDevice.place watch.store.devices.rows ∧
      watch.store.getUserTokens 1 = ["other"] ∧
        lastRegistrant watch.history "other" = some 1 ∧
      lastRegistrant watch.history "token" = some 2 ∧
        (watch.store.getUserTokens 2).count "token" = 1 := by
  have reached := reachable_of_execute step (opening [1, 2]) handsOver rfl
  obtain ⟨oneEach, -, pushed⟩ := device_tokens reached
  have exclusive : Run step Exclusive (opening [1, 2]) _ :=
    Run.start.executeChecked (fun watch request => watch.Exclusive request)
      (fun _ _ => of_decide_eq_true) handsOver rfl
  have first := pushed exclusive 1 "other" (by decide)
  have second := pushed exclusive 2 "token" (by decide)
  exact ⟨_, rfl, oneEach, by decide, first.1, second⟩

/-- Another user registers the phone, and the token is pushed to for both. -/
theorem token_of_two_users :
    ¬ ∀ watch, Reachable step (opening [1, 2]) watch → ∀ userId,
        ∀ token ∈ watch.store.getUserTokens userId,
          lastRegistrant watch.history token = some userId := by
  intro registeredLast
  have both : ∃ watch, execute step (opening [1, 2]) (registers [1, 2]) = some watch ∧
      watch.store.getUserTokens 1 = ["token"] ∧
        lastRegistrant watch.history "token" = some 2 := ⟨_, rfl, by decide, by decide⟩
  obtain ⟨watch, executed, tokens, last⟩ := both
  have first := registeredLast watch (reachable_of_execute step _ _ executed) 1
    "token" (tokens ▸ List.mem_cons_self)
  rw [last] at first
  exact absurd (Option.some.inj first) (by decide)

end SpareSpace
