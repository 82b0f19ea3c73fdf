import SpareSpace.InterleavedCalls
import SpareSpace.NamedRows
import SpareSpace.ProcessZone
import SpareSpace.RedisService

/-!
# Interleaved purchases and cancellations of subscriptions

The purchase of a subscription and its cancellation, cut at every repository and
cache call.  A purchase looks for an active subscription of the user to the plan
and inserts one if there is none; no constraint of the table stands behind the
search.  A cancellation loads the subscription twice and writes the second copy
back with another status, so whatever it has read, it never writes the status
that a purchase gives.
-/

namespace SpareSpace

open InterleavedCalls NamedRows TransitionRuns

inductive SubscriptionStatus
  | active
  | expired
  | cancelled
  deriving DecidableEq, Repr

structure UserSubscription where
  id : Nat
  userId : Nat
  planId : Nat
  startDate : Int
  endDate : Option Int
  status : SubscriptionStatus
  deriving DecidableEq, Repr

/-- The subscriptions, the stored users and plans, and the roles with the cache
entries `user:roles:{id}`. -/
structure SubscriptionStore where
  subscriptions : KeyedTable UserSubscription UserSubscription.id
  users : List Nat
  plans : List Nat
  roles : Nat → List UserRoleType
  rolesCache : Nat → Cached (List UserRoleType)

/-- What a purchase is asked for; without a count of months it never ends. -/
structure SubscriptionRequest where
  userId : Nat
  planId : Nat
  startDate : Int
  monthsCount : Option Nat
  deriving DecidableEq, Repr

/-- The end of a subscription: `setMonth(getMonth() + monthsCount)`. -/
def SubscriptionRequest.endDate (zone : Zone) (request : SubscriptionRequest) :
    Option Int :=
  request.monthsCount.map fun count => zone.addMonths request.startDate count

/-- The program points of the calls, each before the step it is named for. -/
inductive SubscriptionCall
  | validateExistence (request : SubscriptionRequest)
  | getRoles (request : SubscriptionRequest)
  | findRoles (request : SubscriptionRequest)
  | setRoles (request : SubscriptionRequest) (roles : List UserRoleType)
  | existsActive (request : SubscriptionRequest)
  | save (request : SubscriptionRequest)
  | findCreated (subscriptionId : Nat)
  | handleFindById (userId subscriptionId : Nat)
  | updateStatus (subscriptionId : Nat)
  | saveStatus (subscription : UserSubscription)
  | findUpdated (subscriptionId : Nat)
  | returned (subscription : UserSubscription)
  | threw (error : HttpException)
  deriving DecidableEq

/-- The user and the plan of an active subscription. -/
def UserSubscription.activePlan (subscription : UserSubscription) :
    Option (Nat × Nat) :=
  if subscription.status = .active then
    some (subscription.userId, subscription.planId)
  else
    none

namespace SubscriptionStore

variable (store : SubscriptionStore)

/-- `userSubscriptionRepository.existsBy` of an active subscription. -/
def existsActive (userId planId : Nat) : Bool :=
  store.subscriptions.rows.any fun subscription =>
    subscription.userId == userId && subscription.planId == planId &&
      subscription.status == .active

/-- `userSubscriptionRepository.save` of a new subscription, which is active by
default. -/
def insert (zone : Zone) (request : SubscriptionRequest) : SubscriptionStore :=
  { store with
    subscriptions := store.subscriptions.insert
      (fun id => ⟨id, request.userId, request.planId, request.startDate,
        request.endDate zone, .active⟩) fun _ => rfl }

/-- `userSubscriptionRepository.save` of a loaded subscription with the status of
a cancellation. -/
def saveCancelled (subscription : UserSubscription) : SubscriptionStore :=
  { store with
    subscriptions :=
      store.subscriptions.save { subscription with status := .cancelled } }

/-- Keep the roles of a user in the cache. -/
def cacheRoles (userId : Nat) (cached : Cached (List UserRoleType)) :
    SubscriptionStore :=
  { store with rolesCache := Function.update store.rolesCache userId cached }

/-- The subscription is stored as cancelled. -/
def Cancelled (subscriptionId : Nat) : Prop :=
  ∃ row, store.subscriptions.find? subscriptionId = some row ∧
    row.status = .cancelled

def subscriptionNotFound (subscriptionId : Nat) : HttpException :=
  .notFound s!"Subscription {subscriptionId} not found"

end SubscriptionStore

namespace SubscriptionCall

open SubscriptionStore

def rolesCacheTtlSec : Int := 3600

/-- What follows the roles of the user. -/
def afterRoles (request : SubscriptionRequest) (roles : List UserRoleType) :
    SubscriptionCall :=
  if roles.contains .landlord then
    existsActive request
  else
    threw (.unauthorized "Only landlords can purchase subscriptions")

/-- Continue with the subscription found, or throw. -/
def afterFind (store : SubscriptionStore) (subscriptionId : Nat)
    (rest : UserSubscription → SubscriptionCall) :
    Option (SubscriptionStore × SubscriptionCall) :=
  match store.subscriptions.find? subscriptionId with
  | some subscription => some (store, rest subscription)
  | none => some (store, threw (subscriptionNotFound subscriptionId))

/-- The checks of a cancellation on the subscription it has found. -/
def afterHandleFind (userId : Nat) (subscription : UserSubscription) :
    SubscriptionCall :=
  if subscription.userId ≠ userId then
    threw (.unauthorized "Not authorized to see this subscription")
  else if subscription.status ≠ .active then
    threw (.badRequest "Can cancel only active subscriptions")
  else
    updateStatus subscription.id

/-- The steps of the calls.  The input is the clock. -/
def next (zone : Zone) (now : Int) (store : SubscriptionStore) :
    SubscriptionCall → Option (SubscriptionStore × SubscriptionCall)
  | validateExistence request =>
      if store.plans.contains request.planId then
        some (store, getRoles request)
      else
        some (store, threw (.notFound
          s!"Subscription plan with id {request.planId} not found"))
  | getRoles request =>
      match RedisService.get now (store.rolesCache request.userId) with
      | some roles => some (store, afterRoles request roles)
      | none => some (store, findRoles request)
  | findRoles request => some (store, setRoles request (store.roles request.userId))
  | setRoles request roles =>
      some (store.cacheRoles request.userId
        (RedisService.entry now rolesCacheTtlSec roles), afterRoles request roles)
  | existsActive request =>
      if store.existsActive request.userId request.planId then
        some (store, threw (.conflict (s!"User {request.userId} already has active "
          ++ s!"subscription for plan {request.planId}")))
      else
        some (store, save request)
  | save request =>
      if store.users.contains request.userId && store.plans.contains request.planId
          then
        some (store.insert zone request, findCreated store.subscriptions.nextId)
      else
        some (store, threw (.database "foreign key violation"))
  | findCreated subscriptionId => afterFind store subscriptionId returned
  | handleFindById userId subscriptionId =>
      afterFind store subscriptionId (afterHandleFind userId)
  | updateStatus subscriptionId => afterFind store subscriptionId saveStatus
  | saveStatus subscription =>
      some (store.saveCancelled subscription, findUpdated subscription.id)
  | findUpdated subscriptionId => afterFind store subscriptionId returned
  | returned _ | threw _ => none

/-- `create` and `handleCancel`. -/
def starts : SubscriptionCall → Bool
  | validateExistence _ | handleFindById _ _ => true
  | _ => false

end SubscriptionCall

/-- Purchases and cancellations by any users. -/
def subscriptionSystem (zone : Zone) :
    System SubscriptionStore SubscriptionCall Int where
  starts := SubscriptionCall.starts
  next := SubscriptionCall.next zone

namespace SubscriptionCall

/-- A subscription is inserted only while the user has no active one to the
plan. -/
def InsertsFirst (config : Config SubscriptionStore SubscriptionCall) :
    Move SubscriptionCall Int → Prop
  | .spawn _ => True
  | .act index _ => ∀ request, config.calls[index]? = some (save request) →
      config.store.existsActive request.userId request.planId = false

/-- What a step does to the subscriptions. -/
inductive Effect (zone : Zone) (store after : SubscriptionStore)
    (call : SubscriptionCall) : Prop
  | keep (kept : after.subscriptions = store.subscriptions)
  | insert {request} (at_save : call = save request)
      (inserted : after = store.insert zone request)
  | cancel {subscription} (saved : after = store.saveCancelled subscription)

variable {zone : Zone} {now : Int} {store after : SubscriptionStore}
  {call moved : SubscriptionCall}

theorem effect_afterFind {subscriptionId : Nat}
    {rest : UserSubscription → SubscriptionCall}
    (moves : afterFind store subscriptionId rest = some (after, moved)) :
    Effect zone store after call := by
  unfold afterFind at moves
  split at moves <;> obtain ⟨rfl, rfl⟩ := Prod.mk.inj (Option.some.inj moves) <;>
    exact .keep rfl

theorem effect_of_next (moves : call.next zone now store = some (after, moved)) :
    Effect zone store after call := by
  cases call with
  | validateExistence request =>
      simp only [next] at moves
      split at moves <;>
        obtain ⟨rfl, rfl⟩ := Prod.mk.inj (Option.some.inj moves) <;> exact .keep rfl
  | getRoles request =>
      simp only [next] at moves
      split at moves <;>
        obtain ⟨rfl, rfl⟩ := Prod.mk.inj (Option.some.inj moves) <;> exact .keep rfl
  | findRoles request | setRoles request roles =>
      obtain ⟨rfl, rfl⟩ := Prod.mk.inj (Option.some.inj moves)
      exact .keep rfl
  | existsActive request =>
      simp only [next] at moves
      split at moves <;>
        obtain ⟨rfl, rfl⟩ := Prod.mk.inj (Option.some.inj moves) <;> exact .keep rfl
  | save request =>
      simp only [next] at moves
      split at moves
      · obtain ⟨rfl, rfl⟩ := Prod.mk.inj (Option.some.inj moves)
        exact .insert rfl rfl
      · obtain ⟨rfl, rfl⟩ := Prod.mk.inj (Option.some.inj moves)
        exact .keep rfl
  | findCreated subscriptionId | updateStatus subscriptionId
  | findUpdated subscriptionId => exact effect_afterFind moves
  | handleFindById userId subscriptionId => exact effect_afterFind moves
  | saveStatus subscription =>
      obtain ⟨rfl, rfl⟩ := Prod.mk.inj (Option.some.inj moves)
      exact .cancel rfl
  | returned | threw => contradiction

/-- The search for an active subscription finds the rows of its name. -/
theorem activePlan_ne_of_absent {userId planId : Nat}
    (absent : store.existsActive userId planId = false) :
    ∀ row ∈ store.subscriptions.rows, row.activePlan ≠ some (userId, planId) := by
  intro row present named
  have unmatched := List.any_eq_false.mp absent row present
  unfold UserSubscription.activePlan at named
  split at named
  · next active =>
      obtain ⟨rfl, rfl⟩ := Prod.mk.inj (Option.some.inj named)
      simp [active] at unmatched
  · contradiction

namespace Effect

/-- An insertion into a table without an active subscription of its name, and
every cancellation, leave one active subscription each. -/
theorem oneEach (effect : Effect zone store after call)
    (first : ∀ request, call = save request →
      store.existsActive request.userId request.planId = false)
    (oneEach : OneEach UserSubscription.activePlan store.subscriptions.rows) :
    OneEach UserSubscription.activePlan after.subscriptions.rows := by
  cases effect with
  | keep kept => rwa [kept]
  | insert at_save inserted =>
      subst inserted
      refine oneEach.add (fun row => (KeyedTable.mem_insert_iff _ _ _).mp) ?_
      rintro row present shared named same
      obtain rfl := Option.some.inj named
      exact activePlan_ne_of_absent (first _ at_save) row present same
  | cancel saved =>
      subst saved
      refine oneEach.write (fun row => (KeyedTable.mem_save_iff _).mp) ?_
      intro row present different shared named
      simp [UserSubscription.activePlan] at named

/-- A cancelled subscription stays cancelled. -/
theorem cancelled (effect : Effect zone store after call) {subscriptionId : Nat}
    (cancelled : store.Cancelled subscriptionId) :
    after.Cancelled subscriptionId := by
  obtain ⟨row, found, status⟩ := cancelled
  cases effect with
  | keep kept => exact ⟨row, by rw [kept, found], status⟩
  | insert _ inserted =>
      subst inserted
      have older := (store.subscriptions.lt_of_find? found).ne
      exact ⟨row, by simp [SubscriptionStore.insert, older, found], status⟩
  | @cancel subscription saved =>
      subst saved
      by_cases same : subscriptionId = subscription.id
      · exact ⟨{ subscription with status := .cancelled },
          by simp [SubscriptionStore.saveCancelled, same], rfl⟩
      · exact ⟨row, by simp [SubscriptionStore.saveCancelled, same, found], status⟩

end Effect

end SubscriptionCall

section Runs

open SubscriptionCall

variable {zone : Zone} {start last : Config SubscriptionStore SubscriptionCall}

/-- Whatever calls interleave, no cancelled subscription becomes active again. -/
theorem cancelled_of_run {allowed} {subscriptionId : Nat}
    (cancelled : start.store.Cancelled subscriptionId)
    (reached : Run (subscriptionSystem zone).step allowed start last) :
    last.store.Cancelled subscriptionId := by
  refine store_invariant (subscriptionSystem zone)
    (fun store => store.Cancelled subscriptionId) cancelled ?_ reached
  intro config index now call store moved _ _ moves cancelled
  exact (effect_of_next moves).cancelled cancelled

/-- A user has at most one active subscription to each plan, if each subscription
is inserted while there is no active one; and what is cancelled in a state of the
run is cancelled in all that follow, under whatever schedule. -/
theorem one_active_subscription_each
    (oneEach : OneEach UserSubscription.activePlan start.store.subscriptions.rows)
    (reached : Run (subscriptionSystem zone).step InsertsFirst start last) :
    OneEach UserSubscription.activePlan last.store.subscriptions.rows ∧
      ∀ later, Reachable (subscriptionSystem zone).step last later →
        ∀ subscriptionId, last.store.Cancelled subscriptionId →
          later.store.Cancelled subscriptionId := by
  refine ⟨?_, fun later goesOn subscriptionId cancelled =>
    cancelled_of_run cancelled goesOn⟩
  refine store_invariant (subscriptionSystem zone)
    (fun store => OneEach UserSubscription.activePlan store.subscriptions.rows)
    oneEach ?_ reached
  intro config index now call store moved first found moves oneEach
  refine (effect_of_next moves).oneEach ?_ oneEach
  rintro request rfl
  exact first request found

end Runs

/-- A landlord, one plan, and no subscriptions. -/
private def noSubscriptions : Config SubscriptionStore SubscriptionCall :=
  ⟨⟨.empty, [1], [1], fun _ => [.landlord], fun _ => none⟩, []⟩

/-- The landlord begins to buy a month of the plan. -/
private def buysMonth : SubscriptionCall :=
  .validateExistence ⟨1, 1, 0, some 1⟩

private def runsCall (index count : Nat) : List (Move SubscriptionCall Int) :=
  List.replicate count (.act index 0)

/-- An insertion is made only into a table without subscriptions that are active
for the user and the plan. -/
private def insertsUnlessActive
    (config : Config SubscriptionStore SubscriptionCall) :
    Move SubscriptionCall Int → Bool
  | .spawn _ => true
  | .act index _ =>
      match config.calls[index]? with
      | some (.save request) =>
          !config.store.existsActive request.userId request.planId
      | _ => true

private theorem insertsFirst_of_insertsUnlessActive
    (config : Config SubscriptionStore SubscriptionCall)
    (label : Move SubscriptionCall Int)
    (checked : insertsUnlessActive config label = true) :
    SubscriptionCall.InsertsFirst config label := by
  cases label with
  | spawn => trivial
  | act index now =>
      intro request found
      simpa [insertsUnlessActive, found] using checked

/-- A subscription is bought, cancelled and bought again. -/
theorem one_active_subscription_each_sample :
    ∃ last, Run (subscriptionSystem .utc).step SubscriptionCall.InsertsFirst
        noSubscriptions last ∧
      OneEach UserSubscription.activePlan last.store.subscriptions.rows ∧
      last.store.subscriptions.rows.map UserSubscription.status =
        [.cancelled, .active] := by
  have reached : Run (subscriptionSystem .utc).step SubscriptionCall.InsertsFirst
      noSubscriptions _ :=
    Run.start.executeChecked insertsUnlessActive
      insertsFirst_of_insertsUnlessActive
      (.spawn buysMonth :: runsCall 0 7 ++ .spawn (.handleFindById 1 1) ::
        runsCall 1 4 ++ .spawn buysMonth :: runsCall 2 5) rfl
  exact ⟨_, reached,
    (one_active_subscription_each (OneEach.nil _) reached).1, by decide⟩

/-- Two purchases both find no active subscription and both insert one. -/
theorem subscribed_twice :
    ∃ last, Reachable (subscriptionSystem .utc).step noSubscriptions last ∧
      ¬ OneEach UserSubscription.activePlan last.store.subscriptions.rows := by
  refine ⟨_, reachable_of_execute _ _ (.spawn buysMonth :: .spawn buysMonth ::
    runsCall 0 5 ++ runsCall 1 3 ++ runsCall 0 1 ++ runsCall 1 1) rfl, ?_⟩
  intro oneEach
  have same := oneEach ⟨1, 1, 1, 0, some 2678400000, .active⟩ (by decide)
    ⟨2, 1, 1, 0, some 2678400000, .active⟩ (by decide) (1, 1) rfl rfl
  contradiction

end SpareSpace
