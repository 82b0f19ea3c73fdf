import SpareSpace.PlainImages
import SpareSpace.RedisService

/-!
# The cached classes

The values that are cached with a class are listings, users, plans, and pages of listings,
reviews and plans.  Their fields hold dates, instances and lists of instances, and what
their annotations name is what they are declared to hold.  So a value that is found in the
cache has the fields of the value that was put there.
-/

namespace SpareSpace

open Fallible PlainImages RedisService

/-- The classes of cached values and of the instances in them. -/
inductive EntityClass
  | listing
  | listingPricing
  | user
  | booking
  | review
  | subscriptionPlan
  | paginatedListings
  | paginatedReviews
  | paginatedSubscriptionPlans
  deriving DecidableEq

namespace EntityClass

def listingFields : List (ClassField EntityClass) :=
  [⟨"id", .plain, none⟩,
    ⟨"user", .entity user, some (.cls user)⟩,
    ⟨"type", .plain, none⟩,
    ⟨"title", .plain, none⟩,
    ⟨"description", .nullable .plain, none⟩,
    ⟨"pricings", .list (.entity listingPricing), some (.cls listingPricing)⟩,
    ⟨"location", .nullable .plain, some .object⟩,
    ⟨"address", .plain, none⟩,
    ⟨"size", .nullable .plain, none⟩,
    ⟨"photoUrls", .nullable (.list .plain), none⟩,
    ⟨"amenities", .nullable (.list .plain), none⟩,
    ⟨"availability", .plain, none⟩,
    ⟨"status", .plain, none⟩,
    ⟨"rating", .nullable .plain, none⟩,
    ⟨"viewsCount", .plain, none⟩,
    ⟨"repostsCount", .plain, none⟩,
    ⟨"favoritesCount", .plain, none⟩,
    ⟨"createdAt", .date, some .date⟩,
    ⟨"updatedAt", .date, some .date⟩]

def listingPricingFields : List (ClassField EntityClass) :=
  [⟨"id", .plain, none⟩,
    ⟨"listing", .entity listing, some (.cls listing)⟩,
    ⟨"price", .plain, none⟩,
    ⟨"pricePeriod", .plain, none⟩,
    ⟨"updatedAt", .date, some .date⟩]

def userFields : List (ClassField EntityClass) :=
  [⟨"id", .plain, none⟩,
    ⟨"phone", .plain, none⟩,
    ⟨"email", .nullable .plain, none⟩,
    ⟨"firstName", .plain, none⟩,
    ⟨"lastName", .plain, none⟩,
    ⟨"patronymic", .nullable .plain, none⟩,
    ⟨"avatarUrl", .nullable .plain, none⟩,
    ⟨"passwordHash", .plain, none⟩,
    ⟨"renterRating", .nullable .plain, none⟩,
    ⟨"landlordRating", .nullable .plain, none⟩,
    ⟨"renterReviewCount", .plain, none⟩,
    ⟨"landlordReviewCount", .plain, none⟩,
    ⟨"isOnline", .plain, none⟩,
    ⟨"lastSeenAt", .date, some .date⟩,
    ⟨"telegramId", .nullable .plain, none⟩,
    ⟨"telegramChatId", .nullable .plain, none⟩,
    ⟨"telegramUsername", .nullable .plain, none⟩,
    ⟨"verified", .plain, none⟩,
    ⟨"isBanned", .plain, none⟩,
    ⟨"twoFaEnabled", .plain, none⟩,
    ⟨"twoFaSecret", .nullable .plain, none⟩,
    ⟨"twoFaRecoveryCodesHashes", .nullable (.list .plain), none⟩,
    ⟨"createdAt", .date, some .date⟩,
    ⟨"updatedAt", .date, some .date⟩]

def bookingFields : List (ClassField EntityClass) :=
  [⟨"id", .plain, none⟩,
    ⟨"listing", .entity listing, some (.cls listing)⟩,
    ⟨"price", .plain, none⟩,
    ⟨"pricePeriod", .plain, none⟩,
    ⟨"renter", .entity user, some (.cls user)⟩,
    ⟨"period", .plain, none⟩,
    ⟨"totalPrice", .plain, none⟩,
    ⟨"status", .plain, none⟩,
    ⟨"createdAt", .date, some .date⟩,
    ⟨"updatedAt", .date, some .date⟩]

def reviewFields : List (ClassField EntityClass) :=
  [⟨"id", .plain, none⟩,
    ⟨"booking", .entity booking, some (.cls booking)⟩,
    ⟨"reviewer", .entity user, some (.cls user)⟩,
    ⟨"rating", .plain, none⟩,
    ⟨"text", .nullable .plain, none⟩,
    ⟨"createdAt", .date, some .date⟩]

def subscriptionPlanFields : List (ClassField EntityClass) :=
  [⟨"id", .plain, none⟩,
    ⟨"name", .plain, none⟩,
    ⟨"status", .plain, none⟩,
    ⟨"price", .plain, none⟩,
    ⟨"maxListings", .plain, none⟩,
    ⟨"prioritySearch", .plain, none⟩,
    ⟨"boostsPerMonth", .plain, none⟩,
    ⟨"description", .nullable .plain, none⟩,
    ⟨"extraFeatures", .nullable .plain, none⟩,
    ⟨"createdAt", .date, some .date⟩,
    ⟨"updatedAt", .date, some .date⟩]

/-- A page with its list of entities under a name. -/
def pageFields (name : String) (entity : EntityClass) : List (ClassField EntityClass) :=
  [⟨name, .list (.entity entity), some (.cls entity)⟩,
    ⟨"total", .plain, none⟩,
    ⟨"limit", .plain, none⟩,
    ⟨"offset", .plain, none⟩]

def fields : EntityClass → List (ClassField EntityClass)
  | listing => listingFields
  | listingPricing => listingPricingFields
  | user => userFields
  | booking => bookingFields
  | review => reviewFields
  | subscriptionPlan => subscriptionPlanFields
  | paginatedListings => pageFields "listings" listing
  | paginatedReviews => pageFields "reviews" review
  | paginatedSubscriptionPlans => pageFields "plans" subscriptionPlan

theorem annotated (cls : EntityClass) : Annotated cls.fields := by
  cases cls <;> decide

end EntityClass

/-- An object whose fields have the types that a class declares. -/
def FieldsOf (cls : EntityClass) (fields : List (String × Value EntityClass)) : Prop :=
  ∀ field ∈ fields, HasType (typeOf EntityClass.fields)
    (typeOf EntityClass.fields cls field.1) field.2

namespace RedisService

variable {ε σ : Type}

/-- `getOrSet` with a class: the image of the value is kept. -/
def getOrSetAs (slot : Slot σ JsonTexts.JsonValue) (now ttlSec : Int) (cls : EntityClass)
    (callback : Fallible ε σ (Option (Value EntityClass))) :
    Fallible ε σ (Option (Value EntityClass)) := do
  match ← reads fun store => .ok (get now (slot.read store)) with
  | some image => return some (plainToInstance (targetOf EntityClass.fields) cls image)
  | none =>
      match ← callback with
      | some value =>
          updates fun store => .ok ((), slot.write (entry now ttlSec (toJson value)) store)
          return some value
      | none => return none

variable {slot : Slot σ JsonTexts.JsonValue} {now ttlSec : Int} {cls : EntityClass}
  {callback : Fallible ε σ (Option (Value EntityClass))} {store : σ}

theorem run_getOrSetAs_hit {image : JsonTexts.JsonValue}
    (hit : get now (slot.read store) = some image) :
    run (getOrSetAs slot now ttlSec cls callback) store =
      (.ok (some (plainToInstance (targetOf EntityClass.fields) cls image)), store) := by
  unfold getOrSetAs
  rw [run_bind, run_reads, hit]
  rfl

theorem run_getOrSetAs_miss {value : Value EntityClass} {computed : σ}
    (missed : get now (slot.read store) = none)
    (returned : run callback store = (.ok (some value), computed)) :
    run (getOrSetAs slot now ttlSec cls callback) store =
      (.ok (some value), slot.write (entry now ttlSec (toJson value)) computed) := by
  unfold getOrSetAs
  rw [run_bind, run_reads, missed]
  simp only
  rw [run_bind_ok returned]
  rfl

end RedisService

/-- **A hit equals the miss that filled the cache.**  A call that finds nothing returns the
value of its callback.  Until the time of the entry is over, a call for the same key
returns an instance of the class with the same fields, and does not call back. -/
theorem cache_hit_equals_miss {ε σ : Type} (slot : Slot σ JsonTexts.JsonValue)
    (keeps : ∀ cached store, slot.read (slot.write cached store) = cached)
    (now ttlSec : Int) (cls : EntityClass) (own : Option EntityClass)
    (fields : List (String × Value EntityClass)) (typed : FieldsOf cls fields)
    (callback : Fallible ε σ (Option (Value EntityClass))) (store computed : σ)
    (missed : get now (slot.read store) = none)
    (returned : run callback store = (.ok (some (.object own fields)), computed)) :
    ∃ filled, run (getOrSetAs slot now ttlSec cls callback) store =
        (.ok (some (.object own fields)), filled) ∧
      ∀ (later : Int) (other : Fallible ε σ (Option (Value EntityClass))) (current : σ),
        later ≤ now + ttlSec * 1000 → slot.read current = slot.read filled →
          run (getOrSetAs slot later ttlSec cls other) current =
            (.ok (some (.object (some cls) fields)), current) := by
  refine ⟨_, run_getOrSetAs_miss missed returned, fun later other current live same => ?_⟩
  have hit : get later (slot.read current) = some (toJson (.object own fields)) := by
    rw [same, keeps]
    exact if_pos live
  have restored := plainToInstance_toJson_iff.mpr
    (fits_of_annotated EntityClass.annotated) cls own fields typed
  rw [run_getOrSetAs_hit hit, restored]

section Sample

/-- A user without an email. -/
def userWithoutEmail : Value EntityClass :=
  .object (some .user)
    [("id", .string "7"), ("email", .null), ("lastSeenAt", .date (some 1767744000000))]

def dayPricing : Value EntityClass :=
  .object (some .listingPricing)
    [("price", .string "12.50"), ("updatedAt", .date (some 1767225600000))]

def moscow : Value EntityClass :=
  .object none
    [("type", .string "Point"), ("coordinates", .array [.number "37.6", .number "55.7"])]

/-- A listing with its owner, a tariff and a place. -/
def rentedListing : Value EntityClass :=
  .object (some .listing)
    [("id", .string "3"), ("user", userWithoutEmail), ("pricings", .array [dayPricing]),
      ("location", moscow), ("updatedAt", .date (some 1767225600000))]

def reviewedBooking : Value EntityClass :=
  .object (some .booking) [("listing", rentedListing), ("renter", userWithoutEmail)]

/-- A review without a text. -/
def bareReview : Value EntityClass :=
  .object (some .review)
    [("booking", reviewedBooking), ("reviewer", userWithoutEmail), ("text", .null),
      ("createdAt", .date (some 1768348800000))]

/-- The fields of a page with one review. -/
def reviewPage : List (String × Value EntityClass) :=
  [("reviews", .array [bareReview]), ("total", .number "1"), ("limit", .number "20"),
    ("offset", .number "0")]

theorem hasType_userWithoutEmail :
    HasType (typeOf EntityClass.fields) (.entity .user) userWithoutEmail := by
  refine .entity ?_
  simp only [List.forall_mem_cons]
  exact ⟨.plain (.string _), .null, .date _, by simp⟩

theorem hasType_dayPricing :
    HasType (typeOf EntityClass.fields) (.entity .listingPricing) dayPricing := by
  refine .entity ?_
  simp only [List.forall_mem_cons]
  exact ⟨.plain (.string _), .date _, by simp⟩

theorem plain_moscow : Plain moscow := by
  refine .object ?_
  simp only [List.forall_mem_cons]
  exact ⟨.string _, .array (by simp [Plain.number]), by simp⟩

theorem hasType_rentedListing :
    HasType (typeOf EntityClass.fields) (.entity .listing) rentedListing := by
  refine .entity ?_
  simp only [List.forall_mem_cons]
  exact ⟨.plain (.string _), hasType_userWithoutEmail,
    .list (by simpa using hasType_dayPricing), .given (.plain plain_moscow), .date _,
    by simp⟩

theorem hasType_bareReview :
    HasType (typeOf EntityClass.fields) (.entity .review) bareReview := by
  have booking : HasType (typeOf EntityClass.fields) (.entity .booking) reviewedBooking := by
    refine .entity ?_
    simp only [List.forall_mem_cons]
    exact ⟨hasType_rentedListing, hasType_userWithoutEmail, by simp⟩
  refine .entity ?_
  simp only [List.forall_mem_cons]
  exact ⟨booking, hasType_userWithoutEmail, .null, .date _, by simp⟩

theorem fieldsOf_reviewPage : FieldsOf .paginatedReviews reviewPage := by
  unfold FieldsOf reviewPage
  simp only [List.forall_mem_cons]
  exact ⟨.list (by simpa using hasType_bareReview), .plain (.number _), .plain (.number _),
    .plain (.number _), by simp⟩

/-- A page with one review, read from the cache half an hour after it was put there. -/
theorem cache_hit_equals_miss_of_reviews :
    run (getOrSetAs ⟨id, fun cached _ => cached⟩ 1800000 3600 .paginatedReviews
        (pure none : Fallible String (Cached JsonTexts.JsonValue) _))
        (entry 0 3600 (toJson (.object none reviewPage))) =
      (.ok (some (.object (some .paginatedReviews) reviewPage)),
        entry 0 3600 (toJson (.object none reviewPage))) := by
  obtain ⟨filled, filling, hits⟩ := cache_hit_equals_miss
    (⟨id, fun cached _ => cached⟩ : Slot (Cached JsonTexts.JsonValue) JsonTexts.JsonValue)
    (fun _ _ => rfl) 0 3600 .paginatedReviews none reviewPage fieldsOf_reviewPage
    (pure (some (.object none reviewPage)) : Fallible String _ _) none none rfl rfl
  rw [run_getOrSetAs_miss rfl (run_pure _ _)] at filling
  obtain rfl := (Prod.mk.inj filling).2
  exact hits 1800000 (pure none) _ (by decide) rfl

end Sample

end SpareSpace
