import SpareSpace.CacheKeyFamilies
import SpareSpace.NamedRows
import SpareSpace.PagedQueries

/-!
# The subscription plans service

Plans in a table whose names are unique, single plans kept under `subscription_plan:{id}`
and pages of active plans under keys of their own.  Creating a plan deletes the pages by a
pattern; an update loads the plan through its cache, saves the whole plan and deletes the
plan's entry and the pages.  Both time stamps of a plan are set when it is inserted, and an
update sets neither.  Prices are counted in hundredths.
-/

namespace SpareSpace

open ColumnRecords Fallible NamedRows PagedQueries

inductive SubscriptionPlanStatus
  | active
  | inactive
  deriving DecidableEq, Repr

inductive PlanColumn
  | name
  | status
  | price
  | maxListings
  | prioritySearch
  | boostsPerMonth
  | description
  | extraFeatures
  | createdAt
  | updatedAt
  deriving DecidableEq, Repr

abbrev PlanColumn.Value : PlanColumn → Type
  | name => String
  | status => SubscriptionPlanStatus
  | price | maxListings | boostsPerMonth => Nat
  | prioritySearch => Bool
  | description => Option String
  | extraFeatures => Option (List (String × String))
  | createdAt | updatedAt => Int

/-- A row of the `subscription_plans` table, without its id. -/
abbrev PlanRow := Record PlanColumn.Value

structure SubscriptionPlan where
  id : Nat
  row : PlanRow

def SubscriptionPlan.name (plan : SubscriptionPlan) : String :=
  plan.row .name

def SubscriptionPlan.updatedAt (plan : SubscriptionPlan) : Int :=
  plan.row .updatedAt

structure PaginatedSubscriptionPlansDto where
  plans : List SubscriptionPlan
  total : Nat
  limit : Nat
  offset : Nat

structure CreateSubscriptionPlanDto where
  name : String
  price : Nat
  maxListings : Nat
  prioritySearch : Bool
  boostsPerMonth : Nat
  description : Option String
  extraFeatures : Option (List (String × String))
  short : name.length ≤ 100
  someListings : 1 ≤ maxListings

/-- An `UpdateSubscriptionPlanInfoDto`; a field that is not given is undefined. -/
structure UpdateSubscriptionPlanInfoDto where
  name : Option String
  price : Option Nat
  maxListings : Option Nat
  prioritySearch : Option Bool
  boostsPerMonth : Option Nat
  description : Option (Option String)
  extraFeatures : Option (Option (List (String × String)))
  short : ∀ given ∈ name, given.length ≤ 100
  someListings : ∀ given ∈ maxListings, 1 ≤ given

/-- What the two endpoints hand to `update`. -/
inductive PlanUpdate
  | info (dto : UpdateSubscriptionPlanInfoDto)
  | status (newStatus : SubscriptionPlanStatus)

/-- The columns of a `Partial<SubscriptionPlan>`. -/
def PlanUpdate.columns : PlanUpdate → Patch PlanColumn.Value
  | info dto => fun column =>
      match column with
      | .name => dto.name
      | .price => dto.price
      | .maxListings => dto.maxListings
      | .prioritySearch => dto.prioritySearch
      | .boostsPerMonth => dto.boostsPerMonth
      | .description => dto.description
      | .extraFeatures => dto.extraFeatures
      | .status | .createdAt | .updatedAt => none
  | status newStatus => fun column =>
      match column with
      | .status => some newStatus
      | _ => none

/-- `Object.assign(plan, data)`. -/
def SubscriptionPlan.assigned (plan : SubscriptionPlan) (data : PlanUpdate) :
    SubscriptionPlan :=
  ⟨plan.id, assign plan.row data.columns⟩

/-- The row of a new plan: the given columns and the defaults. -/
def createdPlan (now : Int) (dto : CreateSubscriptionPlanDto) (id : Nat) :
    SubscriptionPlan where
  id := id
  row
    | .name => dto.name
    | .status => .active
    | .price => dto.price
    | .maxListings => dto.maxListings
    | .prioritySearch => dto.prioritySearch
    | .boostsPerMonth => dto.boostsPerMonth
    | .description => dto.description
    | .extraFeatures => dto.extraFeatures
    | .createdAt | .updatedAt => now

theorem createdPlan_id (now : Int) (dto : CreateSubscriptionPlanDto) (id : Nat) :
    (createdPlan now dto id).id = id :=
  rfl

/-- The name that a plan must not share. -/
def SubscriptionPlan.uniqueName (plan : SubscriptionPlan) : Option String :=
  some plan.name

/-- The table with its unique names. -/
structure PlanTable where
  plans : KeyedTable SubscriptionPlan SubscriptionPlan.id
  named : OneEach SubscriptionPlan.uniqueName plans.rows

namespace PlanTable

def empty : PlanTable :=
  ⟨.empty, OneEach.nil _⟩

variable (table : PlanTable)

def existsByName (planName : String) : Bool :=
  table.plans.rows.any fun plan => plan.name == planName

/-- Whether a plan's name is the name of no other plan. -/
def free (plan : SubscriptionPlan) : Bool :=
  table.plans.rows.all fun other => other.id == plan.id || other.name != plan.name

theorem free_insert {make : Nat → SubscriptionPlan} (keyed : ∀ id, (make id).id = id)
    (absent : table.existsByName (make table.plans.nextId).name = false) :
    OneEach SubscriptionPlan.uniqueName (table.plans.insert make keyed).rows := by
  apply table.named.add fun plan => (table.plans.mem_insert_iff make keyed).mp
  intro plan present shared new old
  have differs := List.any_eq_false.mp absent plan present
  obtain rfl := Option.some.inj new
  exact differs (beq_iff_eq.mpr (Option.some.inj old))

theorem free_save {plan : SubscriptionPlan} (free : table.free plan = true) :
    OneEach SubscriptionPlan.uniqueName (table.plans.save plan).rows := by
  apply table.named.write fun row => table.plans.mem_save_iff.mp
  intro other present different shared new old
  have checked := List.all_eq_true.mp free other present
  rw [Bool.or_eq_true, beq_iff_eq, bne_iff_ne] at checked
  obtain rfl := Option.some.inj new
  rcases checked with same | apart
  · exact different same
  · exact apart (Option.some.inj old)

/-- `subscriptionPlanRepository.save` of a new plan. -/
def insert (now : Int) (dto : CreateSubscriptionPlanDto) :
    Except HttpException (SubscriptionPlan × PlanTable) :=
  if absent : table.existsByName dto.name = false then
    .ok (createdPlan now dto table.plans.nextId,
      ⟨table.plans.insert (createdPlan now dto) (createdPlan_id now dto),
        table.free_insert (createdPlan_id now dto) absent⟩)
  else
    .error (.database "subscription_plans_name_key")

/-- `subscriptionPlanRepository.save` of a loaded plan. -/
def save (plan : SubscriptionPlan) : Except HttpException PlanTable :=
  if free : table.free plan = true then
    .ok ⟨table.plans.save plan, table.free_save free⟩
  else
    .error (.database "subscription_plans_name_key")

end PlanTable

/-- The table, and what is kept in the cache by the text of its key. -/
structure PlanStore where
  table : PlanTable
  details : String → Cached SubscriptionPlan
  pages : String → Cached PaginatedSubscriptionPlansDto

/-- What a call finds outside the store. -/
structure PlanEnvironment where
  now : Int
  latestFirst : Descending SubscriptionPlan.updatedAt

abbrev PlanCall := Fallible HttpException PlanStore

namespace PlanStore

def detailSlot (key : String) : Slot PlanStore SubscriptionPlan where
  read store := store.details key
  write cached store :=
    { store with details := Function.update store.details key cached }

def pageSlot (key : String) : Slot PlanStore PaginatedSubscriptionPlansDto where
  read store := store.pages key
  write cached store :=
    { store with pages := Function.update store.pages key cached }

/-- `redisService.delete`. -/
def deleteDetail (store : PlanStore) (key : String) : PlanStore :=
  (detailSlot key).write none store

/-- `redisService.deleteByPattern`. -/
def deleteByPattern (store : PlanStore) (pattern : String) : PlanStore :=
  { store with
    details := RedisService.deleteMatching pattern store.details
    pages := RedisService.deleteMatching pattern store.pages }

end PlanStore

namespace SubscriptionPlansService

def plansCacheTtlSec : Int := 3600

def planNotFound (planId : Nat) : HttpException :=
  .notFound s!"Subscription plan with id {planId} not found"

/-- The plan of an id in the table. -/
def planOf (table : PlanTable) (planId : Nat) : Except HttpException SubscriptionPlan :=
  match table.plans.find? planId with
  | some plan => .ok plan
  | none => .error (planNotFound planId)

/-- A page of the plans with a status. -/
def pageOf (environment : PlanEnvironment) (table : PlanTable) (limit offset : Nat)
    (status : SubscriptionPlanStatus) : PaginatedSubscriptionPlansDto :=
  let (plans, total) := pageAndCount environment.latestFirst
    (table.plans.rows.filter fun plan => plan.row .status == status) limit offset
  ⟨plans, total, limit, offset⟩

def findById (planId : Nat) : PlanCall SubscriptionPlan :=
  reads fun store => planOf store.table planId

/-- A status that is not given is `ACTIVE`. -/
def findAll (environment : PlanEnvironment) (limit offset : Nat)
    (status : Option SubscriptionPlanStatus) : PlanCall PaginatedSubscriptionPlansDto :=
  reads fun store =>
    .ok (pageOf environment store.table limit offset (status.getD .active))

def existsByName (planName : String) : PlanCall Bool :=
  reads fun store => .ok (store.table.existsByName planName)

def validateExistence (planId : Nat) : PlanCall Unit :=
  reads fun store =>
    if (store.table.plans.find? planId).isSome then
      .ok ()
    else
      .error (planNotFound planId)

variable (space : String) (environment : PlanEnvironment)

def findByIdWithCache (planId : Nat) : PlanCall SubscriptionPlan :=
  RedisService.getOrSetValue (PlanStore.detailSlot (space ++ planKey planId))
    environment.now plansCacheTtlSec (findById planId)

def findAllWithCache (limit offset : Nat) (status : Option SubscriptionPlanStatus) :
    PlanCall PaginatedSubscriptionPlansDto :=
  if status.getD .active = .active then
    RedisService.getOrSetValue
      (PlanStore.pageSlot (space ++ planListKey limit offset))
      environment.now plansCacheTtlSec (findAll environment limit offset status)
  else
    findAll environment limit offset status

/-- Delete the pages of active plans. -/
def deletePlansList : PlanCall Unit :=
  updates fun store => .ok ((), store.deleteByPattern planListPattern)

def create (dto : CreateSubscriptionPlanDto) : PlanCall SubscriptionPlan := do
  let alreadyExists ← existsByName dto.name
  if alreadyExists then
    throw (.conflict s!"Subscription plan with name {dto.name} already exists")
  let savedPlan ← updates fun store =>
    (store.table.insert environment.now dto).map fun (plan, table) =>
      (plan, { store with table := table })
  deletePlansList
  return savedPlan

def update (planId : Nat) (data : PlanUpdate) : PlanCall SubscriptionPlan := do
  let plan ← findByIdWithCache space environment planId
  let updatedPlan := plan.assigned data
  updates fun store =>
    (store.table.save updatedPlan).map fun table => ((), { store with table := table })
  updates fun store => .ok ((), store.deleteDetail (space ++ planKey planId))
  deletePlansList
  return updatedPlan

end SubscriptionPlansService

/-- The requests of the controllers, and the check of a plan before a subscription. -/
inductive PlanRequest
  | findById (planId : Nat)
  | findAll (limit offset : Nat) (status : Option SubscriptionPlanStatus)
  | validateExistence (planId : Nat)
  | create (dto : CreateSubscriptionPlanDto)
  | update (planId : Nat) (data : PlanUpdate)

inductive PlanResponse
  | plan (plan : SubscriptionPlan)
  | page (page : PaginatedSubscriptionPlansDto)
  | exists

namespace PlanRequest

open SubscriptionPlansService

def call (space : String) (environment : PlanEnvironment) :
    PlanRequest → PlanCall PlanResponse
  | findById planId => do
      return .plan (← findByIdWithCache space environment planId)
  | findAll limit offset status => do
      return .page (← findAllWithCache space environment limit offset status)
  | validateExistence planId => do
      SubscriptionPlansService.validateExistence planId
      return .exists
  | create dto => do
      return .plan (← SubscriptionPlansService.create environment dto)
  | update planId data => do
      return .plan (← SubscriptionPlansService.update space environment planId data)

/-- A whole request: what it answers and the store it leaves. -/
def serve (space : String) (store : PlanStore) (request : PlanEnvironment × PlanRequest) :
    Except HttpException PlanResponse × PlanStore :=
  run (request.2.call space request.1) store

end PlanRequest

end SpareSpace
