import SpareSpace.BookingsService
import SpareSpace.UsersService
import SpareSpace.ListingCalls
import SpareSpace.CachePatterns

/-!
# The reviews service

Reviews of finished bookings, and the pages of reviews about a listing or a user
that are kept in the cache.  A new review deletes the cached pages of the user
it is about by a pattern, and those of the listing when it is about the
landlord.  Pages are kept under the key text of the service, which the key store
puts behind a text of its own.
-/

namespace SpareSpace

open ColumnRecords Fallible

structure Review where
  id : Nat
  bookingId : Nat
  reviewerId : Nat
  rating : Nat
  text : Option String
  createdAt : Int
  deriving DecidableEq, Repr

/-- A review with the relations joined in. -/
structure LoadedReview where
  review : Review
  booking : LoadedBooking
  deriving DecidableEq, Repr

structure CreateReviewDto where
  bookingId : Nat
  rating : Nat
  text : Option String
  lower : 1 ≤ rating
  upper : rating ≤ 5

structure PaginatedReviewsDto where
  reviews : List Review
  total : Nat
  limit : Nat
  offset : Nat
  deriving DecidableEq, Repr

/-- The notification signal of a new review, without the texts of its payload. -/
structure ReviewSignal where
  targetUserId : Nat
  reviewId : Nat
  bookingId : Nat
  listingId : Nat
  rating : Nat
  deriving DecidableEq, Repr

/-- The tables a review touches with the foreign keys of the schema, the values
kept under `listing:{id}`, and the cached pages by the text of their key. -/
structure ReviewStore where
  backend : Backend
  accounts : KeyedTable UserAccount UserAccount.id
  reviews : KeyedTable Review Review.id
  listingCache : Nat → Cached Listing
  pages : String → Cached PaginatedReviewsDto
  signals : List ReviewSignal
  owner_stored : ∀ listing ∈ backend.listings.rows,
    (accounts.find? listing.userId).isSome
  renter_stored : ∀ booking ∈ backend.bookings.rows,
    (accounts.find? booking.renterId).isSome
  booking_stored : ∀ review ∈ reviews.rows,
    (backend.bookings.find? review.bookingId).isSome

/-- How the database answers `ORDER BY created_at DESC`: reviews of one time may
come in any order. -/
structure NewestFirst where
  order : List Review → List Review
  perm : ∀ reviews, (order reviews).Perm reviews
  newest : ∀ reviews, (order reviews).Pairwise fun first second =>
    second.createdAt ≤ first.createdAt

/-- What a call on the reviews finds outside the store. -/
structure ReviewEnvironment extends UserEnvironment where
  newestFirst : NewestFirst

abbrev ReviewCall := Fallible HttpException ReviewStore

/-- A condition on a review and the booking joined to it. -/
abbrev ReviewCondition := Review → LoadedBooking → Bool

namespace ReviewStore

variable (store : ReviewStore)

/-- The reviews that meet a condition, in the order of the table. -/
def matching (condition : ReviewCondition) : List Review :=
  store.reviews.rows.filter fun review =>
    match store.backend.findById review.bookingId with
    | .ok booking => condition review booking
    | .error _ => false

/-- The tables with a review row added. -/
def withReview (make : Nat → Review) (keyed : ∀ id, (make id).id = id)
    (known : ∀ id,
      (store.backend.bookings.find? (make id).bookingId).isSome) :
    ReviewStore where
  __ := store
  reviews := store.reviews.insert make keyed
  booking_stored := by
    intro review reviewMem
    rcases (store.reviews.mem_insert_iff make keyed).mp reviewMem with old | rfl
    · exact store.booking_stored review old
    · exact known _

/-- The tables with an account written over the one of its id. -/
def withAccount (user : UserAccount) : ReviewStore where
  __ := store
  accounts := store.accounts.save user
  owner_stored := by
    intro listing listingMem
    rw [KeyedTable.find?_save]
    split
    · rfl
    · exact store.owner_stored listing listingMem
  renter_stored := by
    intro booking bookingMem
    rw [KeyedTable.find?_save]
    split
    · rfl
    · exact store.renter_stored booking bookingMem

/-- The store with one more signal for the notification service. -/
def withSignal (signal : ReviewSignal) : ReviewStore :=
  { store with signals := store.signals ++ [signal] }

/-- What a call on a user's account returns and leaves. -/
def ranOnAccount {α : Type} (userId : Nat) (call : AccountCall α) :
    Except HttpException α × ReviewStore :=
  match store.accounts.find? userId with
  | none => (.error (UsersService.userNotFound userId), store)
  | some found =>
      ((run call found.account).1,
        store.withAccount ⟨userId, (run call found.account).2⟩)

/-- Run a call on a user's account. -/
def onAccount {α : Type} (userId : Nat) (call : AccountCall α) : ReviewCall α :=
  ExceptT.mk fun store => store.ranOnAccount userId call

def listingSlot (listingId : Nat) : Slot ReviewStore Listing where
  read store := store.listingCache listingId
  write cached store :=
    { store with
      listingCache := Function.update store.listingCache listingId cached }

def pageSlot (key : String) : Slot ReviewStore PaginatedReviewsDto where
  read store := store.pages key
  write cached store :=
    { store with pages := Function.update store.pages key cached }

/-- `redisService.deleteByPattern`. -/
def deleteByPattern (pattern : String) : ReviewStore :=
  { store with
    pages := fun key =>
      if GlobPatterns.covers
          (GlobPatterns.parse none (RedisService.normalizedPattern pattern))
          key.toList then
        none
      else
        store.pages key }

@[simp]
theorem backend_deleteByPattern (pattern : String) :
    (store.deleteByPattern pattern).backend = store.backend :=
  rfl

@[simp]
theorem reviews_deleteByPattern (pattern : String) :
    (store.deleteByPattern pattern).reviews = store.reviews :=
  rfl

@[simp]
theorem accounts_deleteByPattern (pattern : String) :
    (store.deleteByPattern pattern).accounts = store.accounts :=
  rfl

@[simp]
theorem signals_deleteByPattern (pattern : String) :
    (store.deleteByPattern pattern).signals = store.signals :=
  rfl

end ReviewStore

/-- `bookingsService.validateUserParticipation`. -/
def Backend.validateUserParticipation (backend : Backend)
    (bookingId userId : Nat) : Except HttpException Unit := do
  let booking ← backend.findById bookingId
  if booking.booking.renterId ≠ userId ∧ booking.listing.userId ≠ userId then
    .error (.unauthorized "User is not a participant of this booking")

/-- `listingsService.findByIdWithCache`. -/
def ListingsService.findByIdWithCache (environment : ReviewEnvironment)
    (listingId : Nat) : ReviewCall Listing :=
  RedisService.getOrSetValue (ReviewStore.listingSlot listingId)
    environment.now listingCacheTtlSec
    (reads fun store =>
      match store.backend.listings.find? listingId with
      | some listing => .ok listing
      | none => .error (.notFound "Listing not found"))

namespace ReviewsService

def reviewsCacheTtlSec : Int := 3600

def getListingCacheKey (listingId limit offset : Nat) : String :=
  s!"reviews:listing:{listingId}:limit:{limit}:offset:{offset}"

def roleText (role : Option UserRoleType) : String :=
  (role.map UserRoleType.text).getD "all"

def getUserCacheKey (userId limit offset : Nat) (role : Option UserRoleType) :
    String :=
  s!"reviews:user:{userId}:limit:{limit}:offset:{offset}:role:{roleText role}"

def invalidateListingCache (listingId : Nat) : ReviewCall Unit :=
  updates fun store =>
    .ok ((), store.deleteByPattern s!"reviews:listing:{listingId}:*")

def invalidateUserCache (userId : Nat) : ReviewCall Unit :=
  updates fun store =>
    .ok ((), store.deleteByPattern s!"reviews:user:{userId}:*")

/-- `skip` and `take`; a `take` of zero is no limit. -/
def paginate (limit offset : Nat) (reviews : List Review) : List Review :=
  if limit = 0 then
    reviews.drop offset
  else
    (reviews.drop offset).take limit

/-- What `findAll` answers on the reviews that meet its condition. -/
def page (newestFirst : NewestFirst) (matching : List Review)
    (limit offset : Nat) : PaginatedReviewsDto :=
  ⟨paginate limit offset (newestFirst.order matching), matching.length,
    limit, offset⟩

def findAll (environment : ReviewEnvironment) (condition : ReviewCondition)
    (limit offset : Nat) : ReviewCall PaginatedReviewsDto :=
  reads fun store =>
    .ok (page environment.newestFirst (store.matching condition) limit offset)

/-- The reviews on a listing that its owner has not written. -/
def ofListing (listingId ownerId : Nat) : ReviewCondition :=
  fun review booking =>
    booking.listing.id == listingId && review.reviewerId != ownerId

def asLandlord (userId : Nat) : ReviewCondition :=
  fun review booking =>
    booking.listing.userId == userId && review.reviewerId != userId

def asRenter (userId : Nat) : ReviewCondition :=
  fun review booking =>
    booking.booking.renterId == userId && review.reviewerId != userId

/-- The condition of `findByUser`. -/
def aboutUser (userId : Nat) (role : Option UserRoleType) : ReviewCondition :=
  match role with
  | some .landlord => asLandlord userId
  | some .renter => asRenter userId
  | _ => fun review booking =>
      asLandlord userId review booking || asRenter userId review booking

def findByListing (environment : ReviewEnvironment)
    (listingId limit offset : Nat) : ReviewCall PaginatedReviewsDto := do
  let listing ← ListingsService.findByIdWithCache environment listingId
  findAll environment (ofListing listingId listing.userId) limit offset

def findByUser (environment : ReviewEnvironment) (userId limit offset : Nat)
    (role : Option UserRoleType) : ReviewCall PaginatedReviewsDto :=
  findAll environment (aboutUser userId role) limit offset

def findByListingWithCache (space : String)
    (environment : ReviewEnvironment) (listingId limit offset : Nat) :
    ReviewCall PaginatedReviewsDto :=
  RedisService.getOrSetValue
    (ReviewStore.pageSlot (space ++ getListingCacheKey listingId limit offset))
    environment.now reviewsCacheTtlSec
    (findByListing environment listingId limit offset)

def findByUserWithCache (space : String)
    (environment : ReviewEnvironment) (userId limit offset : Nat)
    (role : Option UserRoleType) : ReviewCall PaginatedReviewsDto :=
  RedisService.getOrSetValue
    (ReviewStore.pageSlot (space ++ getUserCacheKey userId limit offset role))
    environment.now reviewsCacheTtlSec
    (findByUser environment userId limit offset role)

/-- The joined booking is stored, so the inner error does not occur. -/
def findById (reviewId : Nat) : ReviewCall LoadedReview :=
  reads fun store =>
    match store.reviews.find? reviewId with
    | none => .error (.notFound "Review not found")
    | some review => do
        let booking ← store.backend.findById review.bookingId
        .ok ⟨review, booking⟩

def findByBooking (store : ReviewStore) (bookingId reviewerId : Nat) :
    Option Review :=
  store.reviews.rows.find? fun review =>
    review.bookingId == bookingId && review.reviewerId == reviewerId

/-- The average in hundredths; the column rounds halves up. -/
def newRating (ratings : List Nat) : Nat :=
  (200 * ratings.sum + ratings.length) / (2 * ratings.length)

/-- What `updateRatingForUser` sets. -/
def ratingColumns (isReviewForLandlord : Bool) (ratings : List Nat) :
    PartialUser
  | .landlordRating =>
      if isReviewForLandlord then some (some (newRating ratings)) else none
  | .landlordReviewCount =>
      if isReviewForLandlord then some ratings.length else none
  | .renterRating =>
      if isReviewForLandlord then none else some (some (newRating ratings))
  | .renterReviewCount =>
      if isReviewForLandlord then none else some ratings.length
  | _ => none

def updateRatingForUser (environment : ReviewEnvironment) (userId : Nat)
    (isReviewForLandlord : Bool) : ReviewCall Unit := do
  let ratings ← reads fun store =>
    .ok ((store.matching
      (if isReviewForLandlord then asLandlord userId else asRenter userId)).map
        Review.rating)
  if ratings = [] then
    return
  else
    let _ ← ReviewStore.onAccount userId
      (UsersService.update environment.toUserEnvironment userId
        (ratingColumns isReviewForLandlord ratings))
    return

/-- The checks of `create`, and the booking they load. -/
def checkReviewable (store : ReviewStore) (reviewerId : Nat)
    (dto : CreateReviewDto) : Except HttpException LoadedBooking := do
  store.backend.validateUserParticipation dto.bookingId reviewerId
  let booking ← store.backend.findById dto.bookingId
  if booking.booking.status ≠ .completed then
    .error (.badRequest "Only completed bookings can be reviewed")
  else if (findByBooking store dto.bookingId reviewerId).isSome then
    .error (.conflict "Review already exists for this booking")
  else
    .ok booking

def reviewRow (now : Int) (reviewerId : Nat) (dto : CreateReviewDto) (id : Nat) :
    Review :=
  ⟨id, dto.bookingId, reviewerId, dto.rating, dto.text, now⟩

theorem reviewRow_id (now : Int) (reviewerId : Nat) (dto : CreateReviewDto)
    (id : Nat) : (reviewRow now reviewerId dto id).id = id :=
  rfl

/-- `reviewRepository.save` of a new review. -/
def insertReview (now : Int) (reviewerId : Nat) (dto : CreateReviewDto) :
    ReviewCall Nat :=
  updates fun store =>
    if known : (store.backend.bookings.find? dto.bookingId).isSome then
      .ok (store.reviews.nextId,
        store.withReview (reviewRow now reviewerId dto)
          (reviewRow_id now reviewerId dto) fun _ => known)
    else
      .error (.database "reviews_booking_id_fkey")

def newReviewSignal (targetUserId : Nat) (review : LoadedReview) :
    ReviewSignal :=
  ⟨targetUserId, review.review.id, review.booking.booking.id,
    review.booking.listing.id, review.review.rating⟩

def emitNewReview (targetUserId : Nat) (review : LoadedReview) :
    ReviewCall Unit :=
  updates fun store =>
    .ok ((), store.withSignal (newReviewSignal targetUserId review))

/-- The user a review of a booking is about. -/
def targetUser (isReviewForLandlord : Bool) (booking : LoadedBooking) : Nat :=
  if isReviewForLandlord then
    booking.listing.userId
  else
    booking.booking.renterId

/-- The end of `create`: the signal, and the pages that are deleted. -/
def publish (targetUserId : Nat) (isReviewForLandlord : Bool)
    (review : LoadedReview) : ReviewCall LoadedReview := do
  emitNewReview targetUserId review
  invalidateUserCache targetUserId
  if isReviewForLandlord then
    invalidateListingCache review.booking.listing.id
  return review

def create (environment : ReviewEnvironment) (reviewerId : Nat)
    (dto : CreateReviewDto) : ReviewCall LoadedReview := do
  let booking ← reads fun store => checkReviewable store reviewerId dto
  let reviewId ← insertReview environment.now reviewerId dto
  let review ← findById reviewId
  let isReviewForLandlord := reviewerId == booking.booking.renterId
  let targetUserId := targetUser isReviewForLandlord booking
  updateRatingForUser environment targetUserId isReviewForLandlord
  publish targetUserId isReviewForLandlord review

end ReviewsService

end SpareSpace
