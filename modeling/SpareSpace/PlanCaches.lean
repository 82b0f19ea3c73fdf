import SpareSpace.ServiceTraces
import SpareSpace.SubscriptionPlans

/-!
# The subscription plans without their cache

The service is compared with one that answers everything off the table.  What is kept of a
plan is the plan of the table, since an update deletes it; what is kept of a page is what the
table says in any order that the database may choose, since all pages are deleted whenever a
plan is added or changed.  So the two services answer every list of requests alike.
-/

namespace SpareSpace

open ColumnRecords Fallible PagedQueries RedisService ServiceTraces SubscriptionPlansService

namespace PlanRequest

/-- The service that keeps nothing: its answers and its table. -/
def servePlain (table : PlanTable) :
    PlanEnvironment × PlanRequest → Except HttpException PlanResponse × PlanTable
  | (_, findById planId) => ((planOf table planId).map PlanResponse.plan, table)
  | (environment, findAll limit offset status) =>
      (.ok (.page (pageOf environment table limit offset (status.getD .active))), table)
  | (_, validateExistence planId) =>
      ((planOf table planId).map fun _ => PlanResponse.exists, table)
  | (environment, create dto) =>
      if table.existsByName dto.name then
        (.error (.conflict s!"Subscription plan with name {dto.name} already exists"), table)
      else
        match table.insert environment.now dto with
        | .ok (plan, after) => (.ok (.plan plan), after)
        | .error error => (.error error, table)
  | (_, update planId data) =>
      match planOf table planId with
      | .error error => (.error error, table)
      | .ok plan =>
          match table.save (plan.assigned data) with
          | .ok after => (.ok (.plan (plan.assigned data)), after)
          | .error error => (.error error, table)

end PlanRequest

section Keys

open GlobPatterns

theorem planKey_injective {first second : Nat} (same : planKey first = planKey second) :
    first = second := by
  have words := @CacheKey.words_of_text_eq (.plan first) (.plan second) same
  exact decimal_injective words.2.2

theorem planListKey_injective {limit offset limit' offset' : Nat}
    (same : planListKey limit offset = planListKey limit' offset') :
    limit = limit' ∧ offset = offset' := by
  have words := @CacheKey.words_of_text_eq (.planList limit offset)
    (.planList limit' offset') same
  obtain ⟨-, middle, last⟩ := words
  simp only [CacheKey.middle, List.cons.injEq] at middle
  constructor
  · apply decimal_injective
    exact middle.2.2.2.1
  · exact decimal_injective last

private theorem pattern_toList :
    planListPattern.toList = plansListPrefix.toList ++ ['*'] := by
  decide

/-- Every page of active plans is deleted by the pattern. -/
theorem planPage_deleted (space : String) (limit offset : Nat)
    (pages : String → Cached PaginatedSubscriptionPlansDto) :
    deleteMatching planListPattern pages (space ++ planListKey limit offset) = none := by
  apply deleteMatching_of_contained pattern_toList (by decide) (plain_of_all (by decide))
  unfold planListKey
  simp only [String.toList_append, toString, List.append_assoc]
  exact ⟨space.toList, _, List.append_assoc _ _ _⟩

end Keys

namespace PlanTable

/-- No two plans carry one time of their last update. -/
def DistinctTimes (table : PlanTable) : Prop :=
  (table.plans.rows.map SubscriptionPlan.updatedAt).Nodup

variable {table after : PlanTable} {plan : SubscriptionPlan}

theorem save_ok (saved : table.save plan = .ok after) :
    after.plans = table.plans.save plan := by
  unfold save at saved
  split at saved
  · rw [← Except.ok.inj saved]
  · contradiction

theorem insert_ok {now : Int} {dto : CreateSubscriptionPlanDto}
    (inserted : table.insert now dto = .ok (plan, after)) :
    plan = createdPlan now dto table.plans.nextId ∧
      after.plans = table.plans.insert (createdPlan now dto) (createdPlan_id now dto) := by
  unfold insert at inserted
  split at inserted
  · obtain ⟨rfl, rfl⟩ := Prod.mk.inj (Except.ok.inj inserted)
    exact ⟨rfl, rfl⟩
  · contradiction

/-- An update that nobody notices in the times leaves them as they are. -/
theorem updatedAt_assigned (plan : SubscriptionPlan) (data : PlanUpdate) :
    (plan.assigned data).updatedAt = plan.updatedAt := by
  cases data <;> rfl

theorem find?_of_planOf {planId : Nat} (loaded : planOf table planId = .ok plan) :
    table.plans.find? planId = some plan := by
  unfold planOf at loaded
  cases found : table.plans.find? planId with
  | none =>
      rw [found] at loaded
      contradiction
  | some other =>
      rw [found] at loaded
      rw [Except.ok.inj loaded]

theorem planOf_of_find? {planId : Nat} (found : table.plans.find? planId = some plan) :
    planOf table planId = .ok plan := by
  unfold planOf
  rw [found]

/-- Times that are different after a request were different before it. -/
theorem DistinctTimes.earlier (request : PlanEnvironment × PlanRequest)
    (distinct : (PlanRequest.servePlain table request).2.DistinctTimes) :
    table.DistinctTimes := by
  obtain ⟨environment, request⟩ := request
  cases request with
  | findById planId => exact distinct
  | findAll limit offset status => exact distinct
  | validateExistence planId => exact distinct
  | create dto =>
      simp only [PlanRequest.servePlain] at distinct
      split at distinct
      · exact distinct
      · split at distinct
        · next plan after inserted =>
            unfold DistinctTimes at distinct
            rw [(insert_ok inserted).2] at distinct
            simp only [KeyedTable.insert, List.map_append] at distinct
            exact distinct.of_append_left
        · exact distinct
  | update planId data =>
      simp only [PlanRequest.servePlain] at distinct
      split at distinct
      · exact distinct
      · next plan loaded =>
          split at distinct
          · next after saved =>
              have found := find?_of_planOf loaded
              have key := table.plans.key_of_find? found
              unfold DistinctTimes at distinct ⊢
              have present : (table.plans.find? (plan.assigned data).id).isSome := by
                change (table.plans.find? plan.id).isSome
                rw [key, found]
                rfl
              rw [save_ok saved, table.plans.rows_save_of_isSome present,
                List.map_map] at distinct
              convert distinct using 1
              apply List.map_congr_left
              intro other otherMem
              simp only [Function.comp_apply]
              split
              · next same =>
                  have eq := table.plans.eq_of_key_eq otherMem
                    (table.plans.mem_of_find? found) same
                  rw [eq, updatedAt_assigned]
              · rfl
          · exact distinct

end PlanTable

theorem pageOf_unique {table : PlanTable} (distinct : table.DistinctTimes)
    (first second : PlanEnvironment) (limit offset : Nat) (status : SubscriptionPlanStatus) :
    pageOf first table limit offset status = pageOf second table limit offset status := by
  unfold pageOf
  rw [pageAndCount_unique first.latestFirst second.latestFirst]
  exact (List.filter_sublist.map _).nodup distinct

/-- A store whose cache shows nothing but its table: a plan that is kept is the plan of the
table, and a page that is kept is what the table says in every order. -/
structure PlanStore.Mirrors (space : String) (store : PlanStore) (table : PlanTable) :
    Prop where
  stored : store.table = table
  details : ∀ planId entry, store.details (space ++ planKey planId) = some entry →
    table.plans.find? planId = some entry.value
  pages : ∀ limit offset entry, store.pages (space ++ planListKey limit offset) = some entry →
    ∀ environment, entry.value = pageOf environment table limit offset .active

section Requests

variable {space : String} {store : PlanStore} {table : PlanTable}

theorem PlanStore.mirrors_of_empty (noDetails : ∀ key, store.details key = none)
    (noPages : ∀ key, store.pages key = none) : store.Mirrors space store.table := by
  constructor
  · rfl
  · intro planId entry kept
    rw [noDetails] at kept
    contradiction
  · intro limit offset entry kept
    rw [noPages] at kept
    contradiction

/-- A plan of the table may be kept. -/
theorem PlanStore.Mirrors.keep {planId : Nat} {plan : SubscriptionPlan} {now ttlSec : Int}
    (mirrors : store.Mirrors space table) (found : table.plans.find? planId = some plan) :
    ((PlanStore.detailSlot (space ++ planKey planId)).write (entry now ttlSec plan)
      store).Mirrors space table := by
  refine ⟨mirrors.stored, ?_, mirrors.pages⟩
  intro other kept shown
  simp only [PlanStore.detailSlot, Function.update_apply] at shown
  split at shown
  · next same =>
      obtain rfl := planKey_injective ((String.append_right_inj space).mp same)
      rw [← Option.some.inj shown]
      exact found
  · exact mirrors.details other kept shown

/-- A page that the table shows may be kept. -/
theorem PlanStore.Mirrors.keepPage {limit offset : Nat} {now ttlSec : Int}
    (mirrors : store.Mirrors space table) (distinct : table.DistinctTimes)
    (environment : PlanEnvironment) :
    ((PlanStore.pageSlot (space ++ planListKey limit offset)).write
      (entry now ttlSec (pageOf environment table limit offset .active))
      store).Mirrors space table := by
  refine ⟨mirrors.stored, mirrors.details, ?_⟩
  intro limit' offset' kept shown other
  simp only [PlanStore.pageSlot, Function.update_apply] at shown
  split at shown
  · next same =>
      obtain ⟨rfl, rfl⟩ := planListKey_injective ((String.append_right_inj space).mp same)
      rw [← Option.some.inj shown]
      exact pageOf_unique distinct environment other limit' offset' .active
  · exact mirrors.pages limit' offset' kept shown other

/-- What is kept of a plan may be deleted. -/
theorem PlanStore.Mirrors.deleteDetail (mirrors : store.Mirrors space table) (key : String) :
    (store.deleteDetail key).Mirrors space table := by
  refine ⟨mirrors.stored, ?_, mirrors.pages⟩
  intro planId entry shown
  simp only [PlanStore.deleteDetail, PlanStore.detailSlot, Function.update_apply] at shown
  split at shown
  · contradiction
  · exact mirrors.details planId entry shown

/-- Another table, once the pages are deleted and with them what is kept of the plans that
have changed. -/
theorem PlanStore.Mirrors.withTable {after : PlanTable} (mirrors : store.Mirrors space table)
    (kept : ∀ planId entry, store.details (space ++ planKey planId) = some entry →
      table.plans.find? planId = some entry.value →
      after.plans.find? planId = some entry.value) :
    (({ store with table := after }).deleteByPattern planListPattern).Mirrors space after := by
  refine ⟨rfl, ?_, ?_⟩
  · intro planId entry shown
    have before := kept_of_deleteMatching shown
    exact kept planId entry before (mirrors.details planId entry before)
  · intro limit offset entry shown
    have gone := planPage_deleted space limit offset store.pages
    exact absurd (gone.symm.trans shown) nofun

namespace SubscriptionPlansService

theorem findByIdWithCache_mirrors (mirrors : store.Mirrors space table)
    (environment : PlanEnvironment) (planId : Nat) :
    ∃ after, run (findByIdWithCache space environment planId) store =
        (planOf table planId, after) ∧ after.Mirrors space table := by
  have right : ∀ plan,
      get environment.now ((PlanStore.detailSlot (space ++ planKey planId)).read store) =
        some plan → planOf store.table planId = .ok plan := by
    intro plan hit
    obtain ⟨expiresAt, kept, -⟩ := eq_of_get hit
    rw [mirrors.stored]
    exact PlanTable.planOf_of_find? (mirrors.details planId _ kept)
  obtain ⟨after, ran, left⟩ := run_getOrSetValue_reads
    (PlanStore.detailSlot (space ++ planKey planId)) environment.now plansCacheTtlSec
    (fun store => planOf store.table planId) right
  rw [mirrors.stored] at ran left
  refine ⟨after, ran, ?_⟩
  rcases left with rfl | ⟨plan, loaded, rfl⟩
  · exact mirrors
  · exact mirrors.keep (PlanTable.find?_of_planOf loaded)

theorem findAllWithCache_mirrors (mirrors : store.Mirrors space table)
    (distinct : table.DistinctTimes) (environment : PlanEnvironment) (limit offset : Nat)
    (status : Option SubscriptionPlanStatus) :
    ∃ after, run (findAllWithCache space environment limit offset status) store =
        (.ok (pageOf environment table limit offset (status.getD .active)), after) ∧
      after.Mirrors space table := by
  unfold findAllWithCache
  split
  · next active =>
      let shown : PlanStore → Except HttpException PaginatedSubscriptionPlansDto :=
        fun store => .ok (pageOf environment store.table limit offset (status.getD .active))
      have right : ∀ page,
          get environment.now
              ((PlanStore.pageSlot (space ++ planListKey limit offset)).read store) =
            some page → shown store = .ok page := by
        intro page hit
        obtain ⟨expiresAt, kept, -⟩ := eq_of_get hit
        simp only [shown, mirrors.stored, active]
        rw [← mirrors.pages limit offset _ kept environment]
      obtain ⟨after, ran, left⟩ := run_getOrSetValue_reads
        (PlanStore.pageSlot (space ++ planListKey limit offset)) environment.now
        plansCacheTtlSec shown right
      simp only [shown, mirrors.stored] at ran left
      refine ⟨after, ran, ?_⟩
      rcases left with rfl | ⟨page, same, rfl⟩
      · exact mirrors
      · rw [← Except.ok.inj same, active]
        exact mirrors.keepPage distinct environment
  · refine ⟨store, ?_, mirrors⟩
    rw [findAll, run_reads, mirrors.stored]

/-- A creation leaves what is kept of the plans, which are those of the table still. -/
theorem create_mirrors (mirrors : store.Mirrors space table) (environment : PlanEnvironment)
    (dto : CreateSubscriptionPlanDto) :
    ∃ after, run (PlanRequest.call space environment (.create dto)) store =
        ((PlanRequest.servePlain table (environment, .create dto)).1, after) ∧
      after.Mirrors space (PlanRequest.servePlain table (environment, .create dto)).2 := by
  simp only [PlanRequest.call, create, existsByName, deletePlansList, PlanRequest.servePlain,
    run_bind, run_reads, mirrors.stored]
  by_cases taken : table.existsByName dto.name
  · simp only [if_pos taken, run_bind, run_throw]
    exact ⟨store, rfl, mirrors⟩
  · simp only [if_neg taken, run_bind, run_pure, run_updates, mirrors.stored]
    cases inserted : table.insert environment.now dto with
    | error error => exact ⟨store, rfl, mirrors⟩
    | ok result =>
        obtain ⟨plan, added⟩ := result
        obtain ⟨rfl, plans⟩ := PlanTable.insert_ok inserted
        refine ⟨_, rfl, mirrors.withTable ?_⟩
        intro planId entry _ found
        rw [plans, KeyedTable.find?_insert, if_neg, found]
        rintro rfl
        rw [table.plans.find?_nextId] at found
        contradiction

/-- An update deletes what is kept of its plan and changes no other plan. -/
theorem update_mirrors (mirrors : store.Mirrors space table) (environment : PlanEnvironment)
    (planId : Nat) (data : PlanUpdate) :
    ∃ after, run (PlanRequest.call space environment (.update planId data)) store =
        ((PlanRequest.servePlain table (environment, .update planId data)).1, after) ∧
      after.Mirrors space (PlanRequest.servePlain table (environment, .update planId data)).2 := by
  obtain ⟨loaded, ran, mirrors⟩ := findByIdWithCache_mirrors mirrors environment planId
  simp only [PlanRequest.call, update, deletePlansList, PlanRequest.servePlain, run_bind, ran]
  cases found : planOf table planId with
  | error error => exact ⟨loaded, rfl, mirrors⟩
  | ok plan =>
      simp only [run_updates, mirrors.stored]
      cases saved : table.save (plan.assigned data) with
      | error error => exact ⟨loaded, rfl, mirrors⟩
      | ok written =>
          have deleted := mirrors.deleteDetail (space ++ planKey planId)
          refine ⟨_, rfl, deleted.withTable ?_⟩
          intro other entry shown current
          have key := table.plans.key_of_find? (PlanTable.find?_of_planOf found)
          rw [PlanTable.save_ok saved, KeyedTable.find?_save, if_neg, current]
          rintro rfl
          simp only [PlanStore.deleteDetail, PlanStore.detailSlot] at shown
          rw [show (plan.assigned data).id = planId from key, Function.update_self] at shown
          contradiction

end SubscriptionPlansService

/-- The service with its cache and the service without answer a request alike. -/
theorem PlanRequest.simulates (space : String) :
    Simulates (PlanRequest.serve space) PlanRequest.servePlain (PlanStore.Mirrors space)
      fun table _ => table.DistinctTimes := by
  intro store table request mirrors distinct
  obtain ⟨environment, request⟩ := request
  cases request with
  | findById planId =>
      obtain ⟨after, ran, kept⟩ := findByIdWithCache_mirrors mirrors environment planId
      simp only [serve, call, servePlain, run_bind, ran]
      cases planOf table planId <;> exact ⟨rfl, kept⟩
  | findAll limit offset status =>
      obtain ⟨after, ran, kept⟩ :=
        findAllWithCache_mirrors mirrors distinct environment limit offset status
      simp only [serve, call, servePlain, run_bind, ran]
      exact ⟨rfl, kept⟩
  | validateExistence planId =>
      simp only [serve, call, servePlain, SubscriptionPlansService.validateExistence, run_bind,
        run_reads, mirrors.stored, planOf]
      cases table.plans.find? planId <;> exact ⟨rfl, mirrors⟩
  | create dto =>
      obtain ⟨after, ran, kept⟩ := create_mirrors mirrors environment dto
      rw [serve, ran]
      exact ⟨rfl, kept⟩
  | update planId data =>
      obtain ⟨after, ran, kept⟩ := update_mirrors mirrors environment planId data
      rw [serve, ran]
      exact ⟨rfl, kept⟩

end Requests

/-- Starting with nothing kept, the service answers every list of requests, made at any
times, as it would without its cache, and leaves the same table, when no two plans carry one
time at its end. -/
theorem plan_cache_invisible (space : String) {store : PlanStore}
    (noDetails : ∀ key, store.details key = none) (noPages : ∀ key, store.pages key = none)
    (requests : List (PlanEnvironment × PlanRequest))
    (distinct : (after PlanRequest.servePlain store.table requests).DistinctTimes) :
    responses (PlanRequest.serve space) store requests =
        responses PlanRequest.servePlain store.table requests ∧
      (after (PlanRequest.serve space) store requests).table =
        after PlanRequest.servePlain store.table requests := by
  obtain ⟨-, throughout⟩ := throughout_of_last
    (fun _ request => PlanTable.DistinctTimes.earlier request) distinct
  obtain ⟨same, mirrors⟩ := (PlanRequest.simulates space).traces
    (PlanStore.mirrors_of_empty noDetails noPages) throughout
  exact ⟨same, mirrors.stored⟩

private def planDto (name : String) (short : name.length ≤ 100) : CreateSubscriptionPlanDto :=
  ⟨name, 99900, 50, true, 10, none, none, short, by decide⟩

private def planEnvironment (now : Int) : PlanEnvironment :=
  ⟨now, Descending.stable SubscriptionPlan.updatedAt⟩

/-- Two plans are created, the first is taken off the list, and the list is asked for after
each change. -/
private def planRequests : List (PlanEnvironment × PlanRequest) :=
  [(planEnvironment 1, .create (planDto "Basic" (by decide))),
    (planEnvironment 2, .findAll 10 0 none),
    (planEnvironment 3, .create (planDto "Pro" (by decide))),
    (planEnvironment 4, .findAll 10 0 none),
    (planEnvironment 5, .update 1 (.status .inactive)),
    (planEnvironment 6, .findAll 10 0 none),
    (planEnvironment 7, .findById 1)]

theorem plan_cache_invisible_sample :
    responses (PlanRequest.serve "keyv:") ⟨.empty, fun _ => none, fun _ => none⟩ planRequests =
      responses PlanRequest.servePlain .empty planRequests := by
  have invisible := @plan_cache_invisible "keyv:" ⟨.empty, fun _ => none, fun _ => none⟩
    (fun _ => rfl) (fun _ => rfl) planRequests (by unfold PlanTable.DistinctTimes; decide)
  exact invisible.1

end SpareSpace
