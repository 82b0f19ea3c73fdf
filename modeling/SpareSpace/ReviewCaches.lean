import SpareSpace.AccountOutcomes
import SpareSpace.ReviewsService
import SpareSpace.TransitionRuns
import Mathlib.Data.List.Nodup
import Mathlib.Data.List.Sort

/-!
# The cached pages of reviews

A new review is on the pages of the user it is about, and of the listing when
its author is the renter; the filters keep it off all other pages.  Exactly
these pages are deleted, by patterns that find every key of a page.  So a page
in the cache is always what the database would answer.
-/

namespace SpareSpace

open Fallible RedisService ReviewsService TransitionRuns

/-- What a page of reviews is asked by. -/
inductive ReviewQuery
  | ofListing (listingId limit offset : Nat)
  | aboutUser (userId limit offset : Nat) (role : Option UserRoleType)

namespace ReviewQuery

def key : ReviewQuery → String
  | ofListing listingId limit offset => getListingCacheKey listingId limit offset
  | aboutUser userId limit offset role => getUserCacheKey userId limit offset role

def uncached (environment : ReviewEnvironment) :
    ReviewQuery → ReviewCall PaginatedReviewsDto
  | ofListing listingId limit offset =>
      findByListing environment listingId limit offset
  | aboutUser userId limit offset role =>
      findByUser environment userId limit offset role

def cached (space : String) (environment : ReviewEnvironment) :
    ReviewQuery → ReviewCall PaginatedReviewsDto
  | ofListing listingId limit offset =>
      findByListingWithCache space environment listingId limit offset
  | aboutUser userId limit offset role =>
      findByUserWithCache space environment userId limit offset role

theorem cached_eq (space : String) (environment : ReviewEnvironment)
    (query : ReviewQuery) :
    query.cached space environment =
      getOrSetValue (ReviewStore.pageSlot (space ++ query.key)) environment.now
        reviewsCacheTtlSec (query.uncached environment) := by
  cases query <;> rfl

/-- The condition on the reviews of a page, if its listing is stored. -/
def condition (backend : Backend) : ReviewQuery → Option ReviewCondition
  | ofListing listingId _ _ =>
      (backend.listings.find? listingId).map fun listing =>
        ReviewsService.ofListing listingId listing.userId
  | aboutUser userId _ _ role => some (ReviewsService.aboutUser userId role)

def limit : ReviewQuery → Nat
  | ofListing _ limit _ | aboutUser _ limit _ _ => limit

def offset : ReviewQuery → Nat
  | ofListing _ _ offset | aboutUser _ _ offset _ => offset

/-- What the tables say about a query. -/
def answer (newestFirst : NewestFirst) (store : ReviewStore)
    (query : ReviewQuery) : Except HttpException PaginatedReviewsDto :=
  match query.condition store.backend with
  | none => .error (.notFound "Listing not found")
  | some condition =>
      .ok (page newestFirst (store.matching condition) query.limit query.offset)

end ReviewQuery

section Keys

private theorem limit_text : ":limit:".toList = ':' :: "limit:".toList := by
  decide

private theorem offset_text : ":offset:".toList = ':' :: "offset:".toList := by
  decide

private theorem role_text : ":role:".toList = ':' :: "role:".toList := by
  decide

theorem listingKey_toList (listingId limit offset : Nat) :
    (getListingCacheKey listingId limit offset).toList =
      "reviews:listing:".toList ++ (Nat.toDigits 10 listingId ++
        ':' :: ("limit:".toList ++ (Nat.toDigits 10 limit ++
          ':' :: ("offset:".toList ++ Nat.toDigits 10 offset)))) := by
  unfold getListingCacheKey
  simp only [String.toList_append, toString, Nat.toList_repr,
    List.append_assoc, limit_text, offset_text, List.cons_append]

theorem userKey_toList (userId limit offset : Nat) (role : Option UserRoleType) :
    (getUserCacheKey userId limit offset role).toList =
      "reviews:user:".toList ++ (Nat.toDigits 10 userId ++
        ':' :: ("limit:".toList ++ (Nat.toDigits 10 limit ++
          ':' :: ("offset:".toList ++ (Nat.toDigits 10 offset ++
            ':' :: ("role:".toList ++ (roleText role).toList)))))) := by
  unfold getUserCacheKey
  simp only [String.toList_append, toString, Nat.toList_repr,
    List.append_assoc, limit_text, offset_text, role_text, List.cons_append]

theorem roleText_injective {first second : Option UserRoleType}
    (same : roleText first = roleText second) : first = second := by
  rcases first with _ | _ | _ | _ <;> rcases second with _ | _ | _ | _ <;>
    first | rfl | exact absurd same (by decide)

private theorem listing_ne_user (first second : List Char) :
    "reviews:listing:".toList ++ first ≠ "reviews:user:".toList ++ second := by
  intro same
  have letters : some 'l' = some 'u' := congrArg (fun text => text[8]?) same
  contradiction

open GlobPatterns in
/-- A key says which page it belongs to. -/
theorem ReviewQuery.key_injective {first second : ReviewQuery}
    (same : first.key = second.key) : first = second := by
  have texts := congrArg String.toList same
  cases first with
  | ofListing listingId limit offset =>
      cases second with
      | ofListing otherId otherLimit otherOffset =>
          simp only [key, listingKey_toList] at texts
          obtain ⟨rfl, limits⟩ :=
            decimal_delimited rfl (List.append_cancel_left texts)
          obtain ⟨rfl, offsets⟩ :=
            decimal_delimited rfl (List.append_cancel_left limits)
          obtain rfl := decimal_injective (List.append_cancel_left offsets)
          rfl
      | aboutUser userId otherLimit otherOffset role =>
          simp only [key, listingKey_toList, userKey_toList] at texts
          exact absurd texts (listing_ne_user _ _)
  | aboutUser userId limit offset role =>
      cases second with
      | ofListing listingId otherLimit otherOffset =>
          simp only [key, listingKey_toList, userKey_toList] at texts
          exact absurd texts.symm (listing_ne_user _ _)
      | aboutUser otherId otherLimit otherOffset otherRole =>
          simp only [key, userKey_toList] at texts
          obtain ⟨rfl, limits⟩ :=
            decimal_delimited rfl (List.append_cancel_left texts)
          obtain ⟨rfl, offsets⟩ :=
            decimal_delimited rfl (List.append_cancel_left limits)
          obtain ⟨rfl, roles⟩ :=
            decimal_delimited rfl (List.append_cancel_left offsets)
          obtain rfl := roleText_injective
            (String.toList_injective (List.append_cancel_left roles))
          rfl

end Keys

section Deletion

/-- The tables stay, and pages are deleted and none is added. -/
structure ReviewStore.Shrinks (store after : ReviewStore) : Prop where
  backend : after.backend = store.backend
  reviews : after.reviews = store.reviews
  listingCache : after.listingCache = store.listingCache
  pages : ∀ key entry, after.pages key = some entry → store.pages key = some entry

theorem ReviewStore.Shrinks.trans {store middle after : ReviewStore}
    (first : store.Shrinks middle) (second : middle.Shrinks after) :
    store.Shrinks after :=
  ⟨second.backend.trans first.backend, second.reviews.trans first.reviews,
    second.listingCache.trans first.listingCache,
    fun key entry kept => first.pages key entry (second.pages key entry kept)⟩

/-- A page that is gone stays away. -/
theorem ReviewStore.Shrinks.absent {store after : ReviewStore} {key : String}
    (shrinks : store.Shrinks after) (absent : store.pages key = none) :
    after.pages key = none := by
  refine Option.eq_none_iff_forall_ne_some.mpr fun entry kept => ?_
  have earlier := shrinks.pages key entry kept
  rw [absent] at earlier
  contradiction

variable {store : ReviewStore} {pattern key : String}

theorem ReviewStore.shrinks_withSignal (store : ReviewStore)
    (signal : ReviewSignal) : store.Shrinks (store.withSignal signal) :=
  ⟨rfl, rfl, rfl, fun _ _ kept => kept⟩

theorem ReviewStore.shrinks_deleteByPattern (store : ReviewStore)
    (pattern : String) : store.Shrinks (store.deleteByPattern pattern) :=
  ⟨rfl, rfl, rfl, fun _ _ kept => kept_of_deleteMatching kept⟩

open GlobPatterns

private theorem colonStar_text : ":*".toList = [':'] ++ ['*'] := by
  decide

private theorem colon_plain :
    [':'].all (fun character => decide (Plain character)) = true := by
  decide

theorem ReviewStore.userPages_deleted (space : String)
    (userId limit offset : Nat) (role : Option UserRoleType) :
    (store.deleteByPattern s!"reviews:user:{userId}:*").pages
      (space ++ getUserCacheKey userId limit offset role) = none := by
  refine deleteMatching_of_number space (by decide) (plain_of_all (by decide))
    (plain_of_all colon_plain) ?_ (userKey_toList userId limit offset role)
  simp only [String.toList_append, toString, Nat.toList_repr,
    List.append_assoc, colonStar_text]

theorem ReviewStore.listingPages_deleted (space : String)
    (listingId limit offset : Nat) :
    (store.deleteByPattern s!"reviews:listing:{listingId}:*").pages
      (space ++ getListingCacheKey listingId limit offset) = none := by
  refine deleteMatching_of_number space (by decide) (plain_of_all (by decide))
    (plain_of_all colon_plain) ?_ (listingKey_toList listingId limit offset)
  simp only [String.toList_append, toString, Nat.toList_repr,
    List.append_assoc, colonStar_text]

end Deletion

section Order

/-- Reviews of pairwise different times have only one order. -/
theorem NewestFirst.order_unique (first second : NewestFirst)
    {reviews : List Review} (distinct : (reviews.map Review.createdAt).Nodup) :
    first.order reviews = second.order reviews := by
  have perm := (first.perm reviews).trans (second.perm reviews).symm
  refine perm.eq_of_pairwise ?_ (first.newest reviews) (second.newest reviews)
  intro one other oneMem otherMem atMost atLeast
  exact List.inj_on_of_nodup_map distinct ((first.perm reviews).mem_iff.mp oneMem)
    ((second.perm reviews).mem_iff.mp otherMem) (le_antisymm atLeast atMost)

/-- No two reviews were created at one time. -/
def ReviewStore.DistinctTimes (store : ReviewStore) : Prop :=
  (store.reviews.rows.map Review.createdAt).Nodup

theorem ReviewQuery.answer_unique {store : ReviewStore}
    (distinct : store.DistinctTimes) (first second : NewestFirst)
    (query : ReviewQuery) : query.answer first store = query.answer second store := by
  have same (condition : ReviewCondition) :
      first.order (store.matching condition) =
        second.order (store.matching condition) :=
    first.order_unique second
      ((List.filter_sublist.map Review.createdAt).nodup distinct)
  unfold answer page
  cases query.condition store.backend with
  | none => rfl
  | some condition => simp only [same condition]

end Order

namespace ReviewStore

/-- A cached listing names the owner of the stored one. -/
def OwnersCurrent (store : ReviewStore) : Prop :=
  ∀ listingId entry, store.listingCache listingId = some entry →
    ∃ listing, store.backend.listings.find? listingId = some listing ∧
      entry.value.userId = listing.userId

/-- Cached listings name their owners, and a cached page is what the tables say
about its query, in whatever order the database answers. -/
structure Coherent (space : String) (store : ReviewStore) : Prop where
  owners : store.OwnersCurrent
  pages : ∀ (query : ReviewQuery) entry,
    store.pages (space ++ query.key) = some entry →
      ∀ newestFirst, query.answer newestFirst store = .ok entry.value

theorem coherent_of_empty {store : ReviewStore}
    (noListings : ∀ listingId, store.listingCache listingId = none)
    (noPages : ∀ key, store.pages key = none) (space : String) :
    store.Coherent space := by
  constructor
  · intro listingId entry cached
    rw [noListings] at cached
    contradiction
  · intro query entry cached
    rw [noPages] at cached
    contradiction

/-- A call that changes no table and no page, and keeps the owners. -/
structure Quiet (store after : ReviewStore) : Prop where
  backend : after.backend = store.backend
  reviews : after.reviews = store.reviews
  pages : after.pages = store.pages
  owners : store.OwnersCurrent → after.OwnersCurrent

theorem Quiet.refl (store : ReviewStore) : store.Quiet store :=
  ⟨rfl, rfl, rfl, id⟩

theorem answer_of_tables {store after : ReviewStore}
    (backend : after.backend = store.backend)
    (reviews : after.reviews = store.reviews) (newestFirst : NewestFirst)
    (query : ReviewQuery) :
    query.answer newestFirst after = query.answer newestFirst store := by
  unfold ReviewQuery.answer matching
  rw [backend, reviews]

theorem Shrinks.owners {store after : ReviewStore} (shrinks : store.Shrinks after)
    (owners : store.OwnersCurrent) : after.OwnersCurrent := by
  unfold OwnersCurrent
  rw [shrinks.listingCache, shrinks.backend]
  exact owners

theorem Quiet.coherent {space : String} {store after : ReviewStore}
    (quiet : store.Quiet after) (coherent : store.Coherent space) :
    after.Coherent space where
  owners := quiet.owners coherent.owners
  pages query entry cached newestFirst := by
    rw [answer_of_tables quiet.backend quiet.reviews]
    exact coherent.pages query entry (quiet.pages ▸ cached) newestFirst

end ReviewStore

section Reading

variable {space : String} {store : ReviewStore}

/-- A listing read through its cache has the stored owner. -/
theorem findByIdWithCache_spec (owners : store.OwnersCurrent)
    (environment : ReviewEnvironment) (listingId : Nat) :
    (store.backend.listings.find? listingId = none ∧
      run (ListingsService.findByIdWithCache environment listingId) store =
        (.error (.notFound "Listing not found"), store)) ∨
      ∃ stored listing after,
        store.backend.listings.find? listingId = some stored ∧
          run (ListingsService.findByIdWithCache environment listingId) store =
            (.ok listing, after) ∧
          listing.userId = stored.userId ∧ store.Quiet after := by
  unfold ListingsService.findByIdWithCache
  cases hit : get environment.now (store.listingCache listingId) with
  | some listing =>
      obtain ⟨expiresAt, cached, _⟩ := eq_of_get hit
      obtain ⟨stored, found, owner⟩ := owners listingId _ cached
      exact Or.inr ⟨stored, listing, store, found, run_getOrSetValue_hit hit,
        owner, ReviewStore.Quiet.refl store⟩
  | none =>
      cases found : store.backend.listings.find? listingId with
      | none =>
          refine Or.inl ⟨rfl, run_getOrSetValue_throw hit ?_⟩
          rw [run_reads, found]
      | some stored =>
          refine Or.inr ⟨stored, stored, _, rfl, run_getOrSetValue_miss hit ?_,
            rfl, rfl, rfl, rfl, ?_⟩
          · rw [run_reads, found]
          · intro owners otherId entry cached
            simp only [ReviewStore.listingSlot, Function.update_apply] at cached
            split at cached
            · next same =>
                obtain rfl := Option.some.inj cached
                exact ⟨stored, same ▸ found, rfl⟩
            · exact owners otherId entry cached

theorem uncached_spec (owners : store.OwnersCurrent)
    (environment : ReviewEnvironment) (query : ReviewQuery) :
    ∃ after, run (query.uncached environment) store =
        (query.answer environment.newestFirst store, after) ∧
      store.Quiet after := by
  cases query with
  | ofListing listingId limit offset =>
      rcases findByIdWithCache_spec owners environment listingId with
        ⟨absent, ran⟩ | ⟨stored, listing, after, found, ran, owner, quiet⟩
      · refine ⟨store, ?_, ReviewStore.Quiet.refl store⟩
        change run (findByListing environment listingId limit offset) store = _
        unfold findByListing
        rw [run_bind, ran]
        simp [ReviewQuery.answer, ReviewQuery.condition, absent]
      · refine ⟨after, ?_, quiet⟩
        change run (findByListing environment listingId limit offset) store = _
        unfold findByListing
        rw [run_bind_ok ran, owner]
        unfold findAll
        rw [run_reads]
        simp only [ReviewQuery.answer, ReviewQuery.condition, found,
          Option.map_some, ReviewStore.matching, quiet.backend, quiet.reviews]
        rfl
  | aboutUser userId limit offset role =>
      exact ⟨store, rfl, ReviewStore.Quiet.refl store⟩

/-- A page is returned from the cache, or computed and kept, unless there is no
answer. -/
theorem cached_cases (owners : store.OwnersCurrent)
    (environment : ReviewEnvironment) (query : ReviewQuery) :
    (∃ value, get environment.now (store.pages (space ++ query.key)) =
          some value ∧
        run (query.cached space environment) store = (.ok value, store)) ∨
      ∃ middle, store.Quiet middle ∧
        ((∃ error, query.answer environment.newestFirst store = .error error ∧
            run (query.cached space environment) store =
              (.error error, middle)) ∨
          ∃ value, query.answer environment.newestFirst store = .ok value ∧
            run (query.cached space environment) store =
              (.ok value, (ReviewStore.pageSlot (space ++ query.key)).write
                (entry environment.now reviewsCacheTtlSec value) middle)) := by
  rw [ReviewQuery.cached_eq]
  cases hit : get environment.now (store.pages (space ++ query.key)) with
  | some value => exact Or.inl ⟨value, rfl, run_getOrSetValue_hit hit⟩
  | none =>
      obtain ⟨middle, ran, quiet⟩ := uncached_spec owners environment query
      refine Or.inr ⟨middle, quiet, ?_⟩
      cases answered : query.answer environment.newestFirst store with
      | error error =>
          rw [answered] at ran
          exact Or.inl ⟨error, rfl, run_getOrSetValue_throw hit ran⟩
      | ok value =>
          rw [answered] at ran
          exact Or.inr ⟨value, rfl, run_getOrSetValue_miss hit ran⟩

/-- A cached call changes no review and keeps the owners. -/
theorem cached_reviews (owners : store.OwnersCurrent)
    (environment : ReviewEnvironment) (query : ReviewQuery) :
    (run (query.cached space environment) store).2.reviews = store.reviews ∧
      (run (query.cached space environment) store).2.OwnersCurrent := by
  rcases @cached_cases space store owners environment query with
    ⟨value, _, ran⟩ | ⟨middle, quiet, ⟨error, _, ran⟩ | ⟨value, _, ran⟩⟩ <;> rw [ran]
  · exact ⟨rfl, owners⟩
  · exact ⟨quiet.reviews, quiet.owners owners⟩
  · exact ⟨quiet.reviews, quiet.owners owners⟩

/-- Keeping what the tables say about a query keeps the cached pages right. -/
theorem coherent_of_kept {newestFirst : NewestFirst} {query : ReviewQuery}
    {value : PaginatedReviewsDto} {now : Int}
    (coherent : store.Coherent space) (distinct : store.DistinctTimes)
    (answered : query.answer newestFirst store = .ok value) :
    ((ReviewStore.pageSlot (space ++ query.key)).write
      (entry now reviewsCacheTtlSec value) store).Coherent space := by
  refine ⟨coherent.owners, fun other entry cached otherOrder => ?_⟩
  refine (@ReviewStore.answer_of_tables store _ rfl rfl otherOrder
    other).trans ?_
  simp only [ReviewStore.pageSlot, Function.update_apply] at cached
  split at cached
  · next same =>
      obtain rfl := ReviewQuery.key_injective
        ((String.append_right_inj space).mp same)
      obtain rfl := Option.some.inj cached
      rw [ReviewQuery.answer_unique distinct otherOrder newestFirst]
      exact answered
  · exact coherent.pages other entry cached otherOrder

/-- A cached call returns what the tables say and keeps the caches right. -/
theorem cached_spec (coherent : store.Coherent space)
    (distinct : store.DistinctTimes) (environment : ReviewEnvironment)
    (query : ReviewQuery) :
    ∃ after, run (query.cached space environment) store =
        (query.answer environment.newestFirst store, after) ∧
      after.Coherent space := by
  rcases @cached_cases space store coherent.owners environment query with
    ⟨value, hit, ran⟩ |
      ⟨middle, quiet, ⟨error, answered, ran⟩ | ⟨value, answered, ran⟩⟩
  · obtain ⟨expiresAt, cached, _⟩ := eq_of_get hit
    rw [coherent.pages query _ cached environment.newestFirst]
    exact ⟨store, ran, coherent⟩
  · rw [answered]
    exact ⟨middle, ran, quiet.coherent coherent⟩
  · rw [answered]
    refine ⟨_, ran, coherent_of_kept (quiet.coherent coherent) ?_
      ((ReviewStore.answer_of_tables quiet.backend quiet.reviews
        environment.newestFirst query).trans answered)⟩
    unfold ReviewStore.DistinctTimes
    rw [quiet.reviews]
    exact distinct

end Reading

section Creating

variable {store after : ReviewStore} {reviewerId userId : Nat}
  {dto : CreateReviewDto} {booking : LoadedBooking} {now : Int}

theorem participates_of_validate {backend : Backend} {bookingId userId : Nat}
    (passed : backend.validateUserParticipation bookingId userId = .ok ()) :
    ∃ booking, backend.findById bookingId = .ok booking ∧
      (booking.booking.renterId = userId ∨ booking.listing.userId = userId) := by
  unfold Backend.validateUserParticipation at passed
  cases found : backend.findById bookingId with
  | error error =>
      rw [found] at passed
      contradiction
  | ok booking =>
      refine ⟨booking, rfl, ?_⟩
      by_contra stranger
      rw [not_or] at stranger
      simp [found, bind, Except.bind, stranger] at passed

theorem checkReviewable_ok
    (checked : checkReviewable store reviewerId dto = .ok booking) :
    store.backend.findById dto.bookingId = .ok booking ∧
      (booking.booking.renterId = reviewerId ∨
        booking.listing.userId = reviewerId) := by
  unfold checkReviewable at checked
  cases passed : store.backend.validateUserParticipation dto.bookingId reviewerId with
  | error error =>
      rw [passed] at checked
      contradiction
  | ok _ =>
      obtain ⟨loaded, found, participant⟩ := participates_of_validate passed
      simp only [passed, found, bind, Except.bind] at checked
      split at checked
      · contradiction
      · split at checked
        · contradiction
        · obtain rfl := Except.ok.inj checked
          exact ⟨found, participant⟩

theorem run_onAccount_ok {α : Type} {call : AccountCall α} {user : UserAccount}
    {value : α} {account : Account}
    (found : store.accounts.find? userId = some user)
    (ran : run call user.account = (.ok value, account)) :
    run (ReviewStore.onAccount userId call) store =
      (.ok value, store.withAccount ⟨userId, account⟩) := by
  change store.ranOnAccount userId call = _
  unfold ReviewStore.ranOnAccount
  rw [found]
  simp only [ran]

theorem noUnique_ratingColumns (isReviewForLandlord : Bool)
    (ratings : List Nat) (column : UniqueColumn) :
    UniqueColumn.given (ratingColumns isReviewForLandlord ratings) column =
      false := by
  cases column <;> rfl

/-- The rating of a stored user is written, unless there is nothing to
average. -/
theorem updateRatingForUser_cases (environment : ReviewEnvironment)
    {user : UserAccount} (found : store.accounts.find? userId = some user)
    (isReviewForLandlord : Bool) {ratings : List Nat}
    (rated : (store.matching (if isReviewForLandlord then asLandlord userId
      else asRenter userId)).map Review.rating = ratings) :
    (ratings = [] ∧ run (updateRatingForUser environment userId
        isReviewForLandlord) store = (.ok (), store)) ∨
      ∃ account, ratings ≠ [] ∧
        run (updateRatingForUser environment userId isReviewForLandlord) store =
          (.ok (), store.withAccount ⟨userId, account⟩) ∧
        UsersService.Wrote user.account
          (ratingColumns isReviewForLandlord ratings) account := by
  unfold updateRatingForUser
  rw [run_bind, run_reads]
  simp only [rated]
  by_cases unrated : ratings = []
  · rw [if_pos unrated]
    exact Or.inl ⟨unrated, rfl⟩
  · rw [if_neg unrated]
    obtain ⟨_, account, ran, wrote⟩ := UsersService.update_spec
      (noUnique_ratingColumns isReviewForLandlord ratings)
      environment.toUserEnvironment userId user.account
    refine Or.inr ⟨account, unrated, ?_, wrote⟩
    rw [run_bind_ok (run_onAccount_ok found ran)]
    rfl

/-- A rating is always written: the user is stored, and no unique column is
set. -/
theorem updateRatingForUser_spec (environment : ReviewEnvironment)
    (known : (store.accounts.find? userId).isSome) (isReviewForLandlord : Bool) :
    ∃ after, run (updateRatingForUser environment userId isReviewForLandlord)
        store = (.ok (), after) ∧
      store.Quiet after := by
  obtain ⟨user, found⟩ := Option.isSome_iff_exists.mp known
  rcases updateRatingForUser_cases environment found isReviewForLandlord rfl with
    ⟨_, ran⟩ | ⟨account, _, ran, _⟩
  · exact ⟨store, ran, ReviewStore.Quiet.refl store⟩
  · exact ⟨_, ran, rfl, rfl, rfl, id⟩

/-- The pages of the user a review is about are gone, and those of its listing
when it is about the landlord. -/
structure Published (targetUserId : Nat) (isReviewForLandlord : Bool)
    (listingId : Nat) (store after : ReviewStore) : Prop where
  shrinks : store.Shrinks after
  userPages : ∀ space limit offset role,
    after.pages (space ++ getUserCacheKey targetUserId limit offset role) = none
  listingPages : isReviewForLandlord = true → ∀ space limit offset,
    after.pages (space ++ getListingCacheKey listingId limit offset) = none

/-- What is left once a review has been published. -/
def published (store : ReviewStore) (targetUserId : Nat)
    (isReviewForLandlord : Bool) (review : LoadedReview) : ReviewStore :=
  let withoutUser := (store.withSignal
    (newReviewSignal targetUserId review)).deleteByPattern
      s!"reviews:user:{targetUserId}:*"
  if isReviewForLandlord then
    withoutUser.deleteByPattern s!"reviews:listing:{review.booking.listing.id}:*"
  else
    withoutUser

theorem run_publish (targetUserId : Nat) (isReviewForLandlord : Bool)
    (review : LoadedReview) (store : ReviewStore) :
    run (publish targetUserId isReviewForLandlord review) store =
      (.ok review, published store targetUserId isReviewForLandlord review) := by
  let signalled := store.withSignal (newReviewSignal targetUserId review)
  let withoutUser :=
    signalled.deleteByPattern s!"reviews:user:{targetUserId}:*"
  have emits : run (emitNewReview targetUserId review) store =
      (.ok (), signalled) := rfl
  have deletesUser : run (invalidateUserCache targetUserId) signalled =
      (.ok (), withoutUser) := rfl
  unfold publish
  rw [run_bind_ok emits, run_bind_ok deletesUser]
  cases isReviewForLandlord with
  | false => rfl
  | true =>
      have deletesListing :
          run (invalidateListingCache review.booking.listing.id) withoutUser =
            (.ok (), withoutUser.deleteByPattern
              s!"reviews:listing:{review.booking.listing.id}:*") := rfl
      rw [if_pos rfl, run_bind_ok deletesListing]
      rfl

@[simp]
theorem accounts_published (targetUserId : Nat) (isReviewForLandlord : Bool)
    (review : LoadedReview) (store : ReviewStore) :
    (published store targetUserId isReviewForLandlord review).accounts =
      store.accounts := by
  unfold published
  split <;> rw [ReviewStore.accounts_deleteByPattern]
  · rfl
  · rfl

@[simp]
theorem signals_published (targetUserId : Nat) (isReviewForLandlord : Bool)
    (review : LoadedReview) (store : ReviewStore) :
    (published store targetUserId isReviewForLandlord review).signals =
      store.signals ++ [newReviewSignal targetUserId review] := by
  unfold published
  split <;> rw [ReviewStore.signals_deleteByPattern]
  · rfl
  · rfl

theorem published_spec (targetUserId : Nat) (isReviewForLandlord : Bool)
    (review : LoadedReview) (store : ReviewStore) :
    Published targetUserId isReviewForLandlord review.booking.listing.id store
      (published store targetUserId isReviewForLandlord review) := by
  let signalled := store.withSignal (newReviewSignal targetUserId review)
  let withoutUser :=
    signalled.deleteByPattern s!"reviews:user:{targetUserId}:*"
  have shrinks : store.Shrinks withoutUser :=
    (store.shrinks_withSignal _).trans (signalled.shrinks_deleteByPattern _)
  have userGone (space : String) (limit offset : Nat)
      (role : Option UserRoleType) :
      withoutUser.pages (space ++
        getUserCacheKey targetUserId limit offset role) = none :=
    ReviewStore.userPages_deleted space targetUserId limit offset role
  cases isReviewForLandlord with
  | false =>
      exact ⟨shrinks, userGone,
        fun forLandlord => absurd forLandlord Bool.false_ne_true⟩
  | true =>
      have last := withoutUser.shrinks_deleteByPattern
        s!"reviews:listing:{review.booking.listing.id}:*"
      exact ⟨shrinks.trans last,
        fun space limit offset role =>
          last.absent (userGone space limit offset role),
        fun _ space => ReviewStore.listingPages_deleted space _⟩

/-- The user a review of a stored booking is about is stored. -/
theorem targetUser_stored (found : store.backend.findById dto.bookingId = .ok booking)
    (isReviewForLandlord : Bool) :
    (store.accounts.find? (targetUser isReviewForLandlord booking)).isSome := by
  obtain ⟨stored, joined⟩ := Backend.findById_ok_iff.mp found
  cases isReviewForLandlord with
  | true => exact store.owner_stored _ (KeyedTable.mem_of_find? _ joined)
  | false => exact store.renter_stored _ (KeyedTable.mem_of_find? _ stored)

/-- The review of a stored booking is inserted and read back. -/
theorem insertReview_spec
    (found : store.backend.findById dto.bookingId = .ok booking) :
    ∃ known, run (insertReview now reviewerId dto) store =
        (.ok store.reviews.nextId,
          store.withReview (reviewRow now reviewerId dto)
            (reviewRow_id now reviewerId dto) known) ∧
      run (findById store.reviews.nextId)
          (store.withReview (reviewRow now reviewerId dto)
            (reviewRow_id now reviewerId dto) known) =
        (.ok ⟨reviewRow now reviewerId dto store.reviews.nextId, booking⟩,
          store.withReview (reviewRow now reviewerId dto)
            (reviewRow_id now reviewerId dto) known) := by
  have known : (store.backend.bookings.find? dto.bookingId).isSome := by
    rw [(Backend.findById_ok_iff.mp found).1]
    rfl
  refine ⟨fun _ => known, ?_, ?_⟩
  · unfold insertReview
    rw [run_updates, dif_pos known]
  · have present := store.reviews.find?_insert (reviewRow now reviewerId dto)
      (reviewRow_id now reviewerId dto) store.reviews.nextId
    rw [if_pos rfl] at present
    unfold findById
    rw [run_reads]
    simp only [ReviewStore.withReview, present, reviewRow, found]
    rfl

/-- What a review that has been created leaves. -/
structure Created (reviewerId : Nat) (dto : CreateReviewDto) (now : Int)
    (booking : LoadedBooking) (store after : ReviewStore) : Prop where
  found : store.backend.findById dto.bookingId = .ok booking
  participant : booking.booking.renterId = reviewerId ∨
    booking.listing.userId = reviewerId
  backend : after.backend = store.backend
  reviews : after.reviews =
    store.reviews.insert (reviewRow now reviewerId dto)
      (reviewRow_id now reviewerId dto)
  owners : store.OwnersCurrent → after.OwnersCurrent
  pages : ∀ key entry, after.pages key = some entry → store.pages key = some entry
  userPages : ∀ space limit offset role,
    after.pages (space ++ getUserCacheKey
      (targetUser (reviewerId == booking.booking.renterId) booking)
      limit offset role) = none
  listingPages : (reviewerId == booking.booking.renterId) = true →
    ∀ space limit offset, after.pages (space ++
      getListingCacheKey booking.listing.id limit offset) = none

/-- A call to create a review throws at its checks, or inserts the review, rates
the user it is about and publishes it. -/
theorem create_steps (environment : ReviewEnvironment) (store : ReviewStore)
    (reviewerId : Nat) (dto : CreateReviewDto) :
    (∃ error, run (create environment reviewerId dto) store =
        (.error error, store)) ∨
      ∃ booking known rated,
        checkReviewable store reviewerId dto = .ok booking ∧
        run (updateRatingForUser environment
            (targetUser (reviewerId == booking.booking.renterId) booking)
            (reviewerId == booking.booking.renterId))
          (store.withReview (reviewRow environment.now reviewerId dto)
            (reviewRow_id environment.now reviewerId dto) known) =
          (.ok (), rated) ∧
        (store.withReview (reviewRow environment.now reviewerId dto)
          (reviewRow_id environment.now reviewerId dto) known).Quiet rated ∧
        run (create environment reviewerId dto) store =
          run (publish (targetUser (reviewerId == booking.booking.renterId)
              booking) (reviewerId == booking.booking.renterId)
            ⟨reviewRow environment.now reviewerId dto store.reviews.nextId,
              booking⟩) rated := by
  unfold create
  rw [run_bind, run_reads]
  cases checked : checkReviewable store reviewerId dto with
  | error error => exact Or.inl ⟨error, rfl⟩
  | ok booking =>
      right
      obtain ⟨found, _⟩ := checkReviewable_ok checked
      obtain ⟨known, inserted, reloaded⟩ :=
        @insertReview_spec store reviewerId dto booking environment.now found
      have stored := targetUser_stored found (reviewerId == booking.booking.renterId)
      obtain ⟨rated, rates, quiet⟩ := @updateRatingForUser_spec
        (store.withReview (reviewRow environment.now reviewerId dto)
          (reviewRow_id environment.now reviewerId dto) known) _ environment
        stored (reviewerId == booking.booking.renterId)
      refine ⟨booking, known, rated, rfl, rates, quiet, ?_⟩
      simp only
      rw [run_bind_ok inserted, run_bind_ok reloaded, run_bind_ok rates]

/-- A call to create a review fails without a trace or creates the review. -/
theorem create_spec (environment : ReviewEnvironment) (store : ReviewStore)
    (reviewerId : Nat) (dto : CreateReviewDto) :
    (∃ error, run (create environment reviewerId dto) store =
        (.error error, store)) ∨
      ∃ review booking after,
        run (create environment reviewerId dto) store = (.ok review, after) ∧
          Created reviewerId dto environment.now booking store after := by
  rcases create_steps environment store reviewerId dto with
    failed | ⟨booking, known, rated, checked, _, quiet, ran⟩
  · exact Or.inl failed
  · right
    obtain ⟨found, participant⟩ := checkReviewable_ok checked
    have published := published_spec
      (targetUser (reviewerId == booking.booking.renterId) booking)
      (reviewerId == booking.booking.renterId)
      ⟨reviewRow environment.now reviewerId dto store.reviews.nextId, booking⟩
      rated
    exact ⟨_, booking, _, ran.trans (run_publish _ _ _ _), found, participant,
      published.shrinks.backend.trans quiet.backend,
      published.shrinks.reviews.trans quiet.reviews,
      fun owners => published.shrinks.owners (quiet.owners owners),
      fun key entry kept =>
        quiet.pages ▸ published.shrinks.pages key entry kept,
      published.userPages, published.listingPages⟩

/-- A new review that does not meet a condition leaves the reviews that do. -/
theorem matching_of_insert (backend : after.backend = store.backend)
    (reviews : after.reviews =
      store.reviews.insert (reviewRow now reviewerId dto)
        (reviewRow_id now reviewerId dto))
    (found : store.backend.findById dto.bookingId = .ok booking)
    {condition : ReviewCondition}
    (unmet : condition (reviewRow now reviewerId dto store.reviews.nextId)
      booking = false) :
    after.matching condition = store.matching condition := by
  unfold ReviewStore.matching
  rw [backend, reviews]
  change List.filter _ (store.reviews.rows ++ [_]) = _
  rw [List.filter_append, List.filter_singleton]
  simp only [reviewRow, found] at unmet ⊢
  rw [unmet]
  exact List.append_nil _

/-- A review that counts for a user on one side is about this user, on this
side. -/
theorem target_of_side {review : Review} (isReviewForLandlord : Bool)
    (participant : booking.booking.renterId = review.reviewerId ∨
      booking.listing.userId = review.reviewerId)
    (meets : (if isReviewForLandlord then asLandlord userId
      else asRenter userId) review booking = true) :
    (review.reviewerId == booking.booking.renterId) = isReviewForLandlord ∧
      targetUser isReviewForLandlord booking = userId := by
  cases isReviewForLandlord with
  | true =>
      simp only [if_true, asLandlord, Bool.and_eq_true, beq_iff_eq,
        bne_iff_ne] at meets
      obtain ⟨rfl, notOwner⟩ := meets
      exact ⟨beq_iff_eq.mpr (participant.resolve_right (Ne.symm notOwner)).symm,
        rfl⟩
  | false =>
      simp only [Bool.false_eq_true, if_false, asRenter, Bool.and_eq_true,
        beq_iff_eq, bne_iff_ne] at meets
      obtain ⟨rfl, notRenter⟩ := meets
      exact ⟨beq_eq_false_iff_ne.mpr notRenter, rfl⟩

theorem aboutUser_cases {role : Option UserRoleType} {review : Review}
    (meets : aboutUser userId role review booking = true) :
    asLandlord userId review booking = true ∨
      asRenter userId review booking = true := by
  unfold aboutUser at meets
  split at meets
  · exact Or.inl meets
  · exact Or.inr meets
  · exact (Bool.or_eq_true _ _).mp meets

/-- A page that is still there after a review has been created does not show
it. -/
theorem Created.unmet (created : Created reviewerId dto now booking store after)
    {space : String} {query : ReviewQuery}
    {entry : CacheEntry PaginatedReviewsDto}
    (kept : after.pages (space ++ query.key) = some entry)
    {condition : ReviewCondition}
    (asked : query.condition store.backend = some condition) (id : Nat) :
    condition (reviewRow now reviewerId dto id) booking = false := by
  refine Bool.eq_false_iff.mpr fun meets => ?_
  cases query with
  | ofListing listingId limit offset =>
      obtain ⟨listing, stored, rfl⟩ := Option.map_eq_some_iff.mp asked
      simp only [ofListing, reviewRow, Bool.and_eq_true, beq_iff_eq,
        bne_iff_ne] at meets
      obtain ⟨same, notOwner⟩ := meets
      obtain ⟨_, joined⟩ := Backend.findById_ok_iff.mp created.found
      have placed := KeyedTable.key_of_find? _ joined
      rw [← same, placed, joined] at stored
      obtain rfl := Option.some.inj stored
      -- only the renter is a participant who is not the owner
      have renter := created.participant.resolve_right (Ne.symm notOwner)
      have gone := created.listingPages (beq_iff_eq.mpr renter.symm) space limit
        offset
      rw [same] at gone
      change after.pages (space ++ getListingCacheKey listingId limit offset) =
        some entry at kept
      rw [gone] at kept
      contradiction
  | aboutUser userId limit offset role =>
      obtain rfl := Option.some.inj asked
      have gone := created.userPages space limit offset role
      have target : targetUser (reviewerId == booking.booking.renterId) booking =
          userId := by
        rcases aboutUser_cases meets with landlord | renter
        · obtain ⟨side, target⟩ := target_of_side true created.participant landlord
          exact side ▸ target
        · obtain ⟨side, target⟩ := target_of_side false created.participant renter
          exact side ▸ target
      rw [target] at gone
      change after.pages (space ++ getUserCacheKey userId limit offset role) =
        some entry at kept
      rw [gone] at kept
      contradiction

theorem Created.coherent
    (created : Created reviewerId dto now booking store after) {space : String}
    (coherent : store.Coherent space) : after.Coherent space := by
  refine ⟨created.owners coherent.owners, ?_⟩
  intro query entry kept newestFirst
  have before := coherent.pages query entry (created.pages _ _ kept) newestFirst
  unfold ReviewQuery.answer at before ⊢
  rw [created.backend]
  cases asked : query.condition store.backend with
  | none => simp [asked] at before
  | some condition =>
      simp only [asked] at before ⊢
      rw [matching_of_insert created.backend created.reviews created.found
        (created.unmet kept asked _)]
      exact before

end Creating

/-- A whole call on the reviews. -/
inductive ReviewRequest
  | create (reviewerId : Nat) (dto : CreateReviewDto)
  | read (query : ReviewQuery)

/-- The store after a whole call, whatever the call returned. -/
def reviewStep (space : String) (store : ReviewStore) :
    ReviewEnvironment × ReviewRequest → Option ReviewStore
  | (environment, .create reviewerId dto) =>
      some (run (create environment reviewerId dto) store).2
  | (environment, .read query) =>
      some (run (query.cached space environment) store).2

/-- What holds between whole calls. -/
def CachesRight (space : String) (store : ReviewStore) : Prop :=
  store.OwnersCurrent ∧ (store.DistinctTimes → store.Coherent space)

theorem cachesRight_step {space : String} {store after : ReviewStore}
    {label : ReviewEnvironment × ReviewRequest}
    (right : CachesRight space store)
    (taken : reviewStep space store label = some after) :
    CachesRight space after := by
  obtain ⟨owners, coherent⟩ := right
  obtain ⟨environment, request⟩ := label
  cases request with
  | create reviewerId dto =>
      obtain rfl := Option.some.inj taken
      rcases create_spec environment store reviewerId dto with
        ⟨error, ran⟩ | ⟨review, booking, last, ran, created⟩
      · rw [ran]
        exact ⟨owners, coherent⟩
      · rw [ran]
        refine ⟨created.owners owners, fun distinct => ?_⟩
        refine created.coherent (coherent ?_)
        have grown : last.reviews.rows = store.reviews.rows ++ [_] :=
          congrArg KeyedTable.rows created.reviews
        unfold ReviewStore.DistinctTimes at distinct ⊢
        rw [grown, List.map_append] at distinct
        exact distinct.of_append_left
  | read query =>
      obtain rfl := Option.some.inj taken
      obtain ⟨reviews, kept⟩ := @cached_reviews space store owners environment query
      refine ⟨kept, fun distinct => ?_⟩
      have before : store.DistinctTimes := by
        unfold ReviewStore.DistinctTimes at distinct ⊢
        rw [reviews] at distinct
        exact distinct
      obtain ⟨after, ran, right⟩ :=
        cached_spec (coherent before) before environment query
      rw [ran]
      exact right

/-- After any sequence of whole calls, with reviews of different times, a cached
page is what the call without the cache returns. -/
theorem review_caches_transparent {space : String} {start last : ReviewStore}
    (coherent : start.Coherent space)
    (reached : Reachable (reviewStep space) start last)
    (distinct : last.DistinctTimes) (cached uncached : ReviewEnvironment) :
    (∀ listingId limit offset,
      (run (findByListingWithCache space cached listingId limit offset)
          last).1 =
        (run (findByListing uncached listingId limit offset) last).1) ∧
      ∀ userId limit offset role,
        (run (findByUserWithCache space cached userId limit offset role)
            last).1 =
          (run (findByUser uncached userId limit offset role) last).1 := by
  have right : CachesRight space last :=
    Run.invariant (CachesRight space) ⟨coherent.owners, fun _ => coherent⟩
      (fun _ _ _ right _ taken => cachesRight_step right taken) reached
  have same (query : ReviewQuery) :
      (run (query.cached space cached) last).1 =
        (run (query.uncached uncached) last).1 := by
    obtain ⟨_, withCache, _⟩ :=
      cached_spec (right.2 distinct) distinct cached query
    obtain ⟨_, without, _⟩ := uncached_spec right.1 uncached query
    rw [withCache, without]
    exact ReviewQuery.answer_unique distinct _ _ query
  exact ⟨fun listingId limit offset => same (.ofListing listingId limit offset),
    fun userId limit offset role => same (.aboutUser userId limit offset role)⟩

/-- Newest first, and reviews of one time in the order of the table. -/
def NewestFirst.stable : NewestFirst where
  order := List.insertionSort fun first second =>
    second.createdAt ≤ first.createdAt
  perm := List.perm_insertionSort _
  newest reviews := by
    have total : Std.Total fun first second : Review =>
        second.createdAt ≤ first.createdAt :=
      ⟨fun first second => le_total second.createdAt first.createdAt⟩
    have transitive : IsTrans Review fun first second =>
        second.createdAt ≤ first.createdAt :=
      ⟨fun _ _ _ newer older => le_trans older newer⟩
    exact List.pairwise_insertionSort _ reviews

def reviewsEnvironment (now : Int) : ReviewEnvironment :=
  ⟨⟨now, fun _ => false⟩, .stable⟩

/-- A garage of user 1 that user 2 has rented. -/
def rentedBackend : Backend where
  __ := Backend.opening
    (KeyedTable.empty.insert (fun id => ⟨id, 1, [], [], .active⟩) fun _ => rfl) []
  bookings := KeyedTable.empty.insert
    (fun id => ⟨id, 1, 2, 500, .day, ⟨0, 1⟩, 500, .completed⟩) fun _ => rfl
  listing_stored := by decide
  booking_stored := by
    intro transaction transactionMem
    contradiction

def tenant (id : Nat) : UserAccount :=
  UsersService.newAccount
    (UsersService.newRow "+79001234567" "password" "Ivan" "Petrov" none 0) id

def reviewsStart : ReviewStore where
  backend := rentedBackend
  accounts := (KeyedTable.empty.insert tenant fun _ => rfl).insert tenant
    fun _ => rfl
  reviews := .empty
  listingCache := fun _ => none
  pages := fun _ => none
  signals := []
  owner_stored := by decide
  renter_stored := by decide
  booking_stored := by
    intro review reviewMem
    contradiction

def fiveStars : CreateReviewDto :=
  ⟨1, 5, none, by decide, by decide⟩

/-- A page is read while there is no review, and again after the renter has
written one. -/
theorem review_caches_transparent_sample :
    ∃ last, Reachable (reviewStep "keyv:") reviewsStart last ∧
      (run (findByListingWithCache "keyv:" (reviewsEnvironment 2) 1 10 0)
          last).1 =
        (run (findByListing (reviewsEnvironment 2) 1 10 0) last).1 ∧
      (run (findByListing (reviewsEnvironment 2) 1 10 0)
          last).1.toOption.map PaginatedReviewsDto.total = some 1 := by
  have reached := reachable_of_execute (reviewStep "keyv:") reviewsStart
    [(reviewsEnvironment 0, .read (.ofListing 1 10 0)),
      (reviewsEnvironment 1, .create 2 fiveStars)] rfl
  refine ⟨_, reached, ?_, by decide⟩
  exact (review_caches_transparent
    (ReviewStore.coherent_of_empty (fun _ => rfl) (fun _ => rfl) "keyv:") reached
    (by unfold ReviewStore.DistinctTimes; decide) (reviewsEnvironment 2)
    (reviewsEnvironment 2)).1 1 10 0

end SpareSpace
