import SpareSpace.UsersService
import SpareSpace.ListingCalls
import SpareSpace.CachePatterns
import Mathlib.Data.List.Sort
import Mathlib.Data.Rat.Defs

/-!
# The listings service and its search

Listings in a table, the values kept under `listing:{id}`, and two families of
cached search pages: the active listings of one user, and the active listings of
some types.  Which searches are cached is decided from the whole request.  Every
call is run to its end.  The time of the last update, by which results without a
title are ordered, is not a column of the model; the order is a parameter.
-/

namespace SpareSpace

open ColumnRecords Fallible

/-- The enumeration's text, as keys show it. -/
def ListingType.text : ListingType → String
  | garage => "GARAGE"
  | storage => "STORAGE"
  | parking => "PARKING"
  | motoSlot => "MOTO_SLOT"
  | workshop => "WORKSHOP"
  | miniFactory => "MINI_FACTORY"
  | boatSlot => "BOAT_SLOT"
  | other => "OTHER"

/-- A row of the `listings` table with its id, and the entity loaded from it. -/
structure StoredListing where
  id : Nat
  row : ListingRow

/-- Whether tariffs of a listing are stored. -/
def StoredListing.hasPricings (listings : KeyedTable StoredListing StoredListing.id)
    (listingId : Nat) : Bool :=
  (listings.find? listingId).any fun stored => !List.isEmpty (stored.row .pricings)

/-- A search request; a field that is not given is undefined. -/
structure SearchListingsDto where
  status : Option ListingStatus
  title : Option String
  types : Option (List ListingType)
  minPrice : Option Rat
  maxPrice : Option Rat
  pricePeriod : Option ListingPeriodType
  longitude : Option Rat
  latitude : Option Rat
  radius : Option Rat
  amenities : Option (List SpaceAmenity)
  limit : Nat
  offset : Nat
  positive : 1 ≤ limit

structure PaginatedListingsDto where
  listings : List StoredListing
  total : Nat
  limit : Nat
  offset : Nat

/-- The stored users, the table of listings, the values kept under
`listing:{id}`, the cached pages by the text of their key, and the time of the
last call. -/
structure SearchStore where
  users : List Nat
  listings : KeyedTable StoredListing StoredListing.id
  listingCache : Nat → Cached StoredListing
  pages : String → Cached PaginatedListingsDto
  clock : Int

/-- What a call finds outside the store: the clock, the geocoder's answer, and
how the database answers the operators `<%` and `ST_DWithin` and orders what a
search has found. -/
structure SearchEnvironment extends ListingEnvironment where
  similar : String → String → Bool
  within : Rat → Rat → Rat → LocationDto → Bool
  order : SearchListingsDto → List StoredListing → List StoredListing
  perm : ∀ searchDto listings, (order searchDto listings).Perm listings

abbrev SearchCall := Fallible HttpException SearchStore

namespace SearchStore

def listingSlot (listingId : Nat) : Slot SearchStore StoredListing where
  read store := store.listingCache listingId
  write cached store :=
    { store with
      listingCache := Function.update store.listingCache listingId cached }

def pageSlot (key : String) : Slot SearchStore PaginatedListingsDto where
  read store := store.pages key
  write cached store :=
    { store with pages := Function.update store.pages key cached }

/-- `redisService.delete` of a cached listing. -/
def deleteListing (store : SearchStore) (listingId : Nat) : SearchStore :=
  (listingSlot listingId).write none store

/-- `redisService.deleteByPattern`. -/
def deleteByPattern (store : SearchStore) (pattern : String) : SearchStore :=
  { store with pages := RedisService.deleteMatching pattern store.pages }

def save (store : SearchStore) (listing : StoredListing) : SearchStore :=
  { store with listings := store.listings.save listing }

/-- `listingRepository.save` of a new listing. -/
def insert (store : SearchStore) (row : ListingRow) : SearchStore :=
  { store with
    listings := store.listings.insert (fun id => ⟨id, row⟩) fun _ => rfl }

section Fields

variable (store : SearchStore) (pattern : String) (listing : StoredListing) (row : ListingRow)

@[simp]
theorem clock_deleteByPattern :
    (store.deleteByPattern pattern).clock = store.clock :=
  rfl

@[simp]
theorem listings_deleteByPattern :
    (store.deleteByPattern pattern).listings = store.listings :=
  rfl

@[simp]
theorem listingCache_deleteByPattern :
    (store.deleteByPattern pattern).listingCache = store.listingCache :=
  rfl

@[simp]
theorem listings_save :
    (store.save listing).listings = store.listings.save listing :=
  rfl

@[simp]
theorem clock_insert : (store.insert row).clock = store.clock :=
  rfl

@[simp]
theorem listingCache_insert :
    (store.insert row).listingCache = store.listingCache :=
  rfl

@[simp]
theorem find?_insert (id : Nat) :
    (store.insert row).listings.find? id =
      if id = store.listings.nextId then some ⟨store.listings.nextId, row⟩
      else store.listings.find? id :=
  store.listings.find?_insert _ _ id

end Fields

end SearchStore

namespace SearchListingsDto

/-- `hasNoFilters`. -/
def hasNoFilters (dto : SearchListingsDto) : Bool :=
  dto.title.isNone && dto.types.isNone && dto.minPrice.isNone &&
    dto.maxPrice.isNone && dto.pricePeriod.isNone && dto.longitude.isNone &&
    dto.latitude.isNone && dto.radius.isNone && dto.amenities.isNone

/-- `hasOnlyTypeFilter`. -/
def hasOnlyTypeFilter (dto : SearchListingsDto) : Bool :=
  dto.types.any (fun types => !types.isEmpty) && dto.title.isNone &&
    dto.minPrice.isNone && dto.maxPrice.isNone && dto.pricePeriod.isNone &&
    dto.longitude.isNone && dto.latitude.isNone && dto.radius.isNone &&
    dto.amenities.isNone

/-- The conditions on a joined tariff; prices are stored in hundredths. -/
def admitsPricing (dto : SearchListingsDto) (pricing : ListingPricing) : Bool :=
  dto.pricePeriod.all (fun period => pricing.pricePeriod == period) &&
    dto.minPrice.all (fun minPrice : Rat =>
      decide (minPrice * 100 ≤ (pricing.price : Rat))) &&
    dto.maxPrice.all fun maxPrice : Rat =>
      decide ((pricing.price : Rat) ≤ maxPrice * 100)

end SearchListingsDto

namespace ListingsService

def userListingsCacheTtlSec : Int := 3600

def listingsListCacheTtlSec : Int := 900

def getTypeListingsCacheKey (types : List ListingType) (limit offset : Nat) :
    String :=
  let sortedTypes := "-".intercalate
    ((types.map ListingType.text).insertionSort fun first second => first ≤ second)
  s!"listings:{sortedTypes}:limit:{limit}:offset:{offset}"

def getUserActiveListingsCacheKey (userId limit offset : Nat) : String :=
  s!"user:{userId}:listings:active:limit:{limit}:offset:{offset}"

def getUserActiveListingsPattern (userId : Nat) : String :=
  s!"user:{userId}:listings:active:*"

def canCacheUserActiveListings (userId : Option Nat)
    (searchDto : SearchListingsDto) : Bool :=
  userId.isSome && searchDto.status == some .active && searchDto.hasNoFilters

def canCacheTypeListings (userId : Option Nat) (searchDto : SearchListingsDto) :
    Bool :=
  userId.isNone && searchDto.status == some .active && searchDto.hasOnlyTypeFilter

/-- The conditions on a listing itself; a missing location or a missing list of
amenities meets no condition on it. -/
def applySearchFilters (environment : SearchEnvironment)
    (searchDto : SearchListingsDto) (row : ListingRow) : Bool :=
  searchDto.types.all (fun types => types.isEmpty || types.contains (row .type)) &&
    (match searchDto.longitude, searchDto.latitude, searchDto.radius with
      | some longitude, some latitude, some radius =>
          (row .location).any (environment.within longitude latitude radius)
      | _, _, _ => true) &&
    searchDto.amenities.all (fun wanted => wanted.isEmpty ||
      (row .amenities).any fun present => wanted.all present.contains) &&
    searchDto.title.all fun title =>
      title == "" || environment.similar title (row .title)

/-- Whether a search finds a listing; the inner join wants an admitted tariff. -/
def buildSearchQuery (environment : SearchEnvironment)
    (searchDto : SearchListingsDto) (userId : Option Nat) (row : ListingRow) :
    Bool :=
  userId.all (fun userId => row .user == userId) &&
    searchDto.status.all (fun status => row .status == status) &&
    applySearchFilters environment searchDto row &&
    (row .pricings).any searchDto.admitsPricing

/-- The columns that a search replaces: only admitted tariffs are joined. -/
def joinedColumns (searchDto : SearchListingsDto) (row : ListingRow) :
    PartialListing
  | .pricings => some ((row .pricings).filter searchDto.admitsPricing)
  | _ => none

def joined (searchDto : SearchListingsDto) (listing : StoredListing) :
    StoredListing :=
  ⟨listing.id, assign listing.row (joinedColumns searchDto listing.row)⟩

def findAll (environment : SearchEnvironment) (searchDto : SearchListingsDto)
    (userId : Option Nat) : SearchCall PaginatedListingsDto :=
  reads fun store =>
    let found := store.listings.rows.filter fun listing =>
      buildSearchQuery environment searchDto userId listing.row
    .ok ⟨(((environment.order searchDto found).drop searchDto.offset).take
        searchDto.limit).map (joined searchDto),
      found.length, searchDto.limit, searchDto.offset⟩

/-- `usersService.validateExistence`, and `usersService.findById` where its
result is only stored. -/
def validateUser (userId : Nat) : SearchCall Unit :=
  reads fun store =>
    if userId ∈ store.users then
      .ok ()
    else
      .error (UsersService.userNotFound userId)

/-- Where the page of a search is kept and for how long, if it is. -/
def cachePlace (searchDto : SearchListingsDto) (userId : Option Nat) :
    Option (String × Int) :=
  if canCacheUserActiveListings userId searchDto then
    userId.map fun userId =>
      (getUserActiveListingsCacheKey userId searchDto.limit searchDto.offset,
        userListingsCacheTtlSec)
  else if canCacheTypeListings userId searchDto then
    searchDto.types.map fun types =>
      (getTypeListingsCacheKey types searchDto.limit searchDto.offset,
        listingsListCacheTtlSec)
  else
    none

def findAllWithCache (space : String) (environment : SearchEnvironment)
    (searchDto : SearchListingsDto) (userId : Option Nat) :
    SearchCall PaginatedListingsDto := do
  userId.forM validateUser
  match cachePlace searchDto userId with
  | some (key, ttlSec) =>
      RedisService.getOrSetValue (SearchStore.pageSlot (space ++ key))
        environment.now ttlSec (findAll environment searchDto userId)
  | none => findAll environment searchDto userId

/-- `findByIdWithCache` on the whole table. -/
def loadWithCache (environment : SearchEnvironment) (listingId : Nat) :
    SearchCall StoredListing :=
  RedisService.getOrSetValue (SearchStore.listingSlot listingId) environment.now
    listingCacheTtlSec
    (reads fun store =>
      match store.listings.find? listingId with
      | some listing => .ok listing
      | none => .error (.notFound "Listing not found"))

/-- A request to create a listing as the request to update that gives the same
columns; `prepareListingData` takes either. -/
def given (createDto : CreateListingDto) : UpdateListingDto :=
  ⟨some createDto.type, some createDto.title, createDto.description,
    some createDto.pricings, some createDto.location, createDto.size,
    createDto.photoUrls, createDto.amenities, some createDto.availability⟩

/-- The geocoder's address, if it has one that is not empty. -/
def addressFound (environment : SearchEnvironment) (error : HttpException) :
    SearchCall String :=
  lift (match environment.address.filter fun address => address != "" with
    | some address => .ok address
    | none => .error error)

def newAddressNotFound : HttpException :=
  .badRequest ("Не удалось определить корректный адрес по указанным " ++
    "координатам. Выберите другую точку.")

def deletePages (userId : Nat) : SearchCall Unit :=
  updates fun store =>
    .ok ((), store.deleteByPattern (getUserActiveListingsPattern userId))

def create (environment : SearchEnvironment) (userId : Nat)
    (createDto : CreateListingDto) : SearchCall StoredListing := do
  validateUser userId
  let _ ← lift (prepareListingData (given createDto))
  let address ← addressFound environment newAddressNotFound
  deletePages userId
  updates fun store =>
    .ok (⟨store.listings.nextId, createdRow userId createDto address⟩,
      store.insert (createdRow userId createDto address))

/-- The columns an update sets, the address of a new location among them. -/
def updatedColumns (environment : SearchEnvironment)
    (updateDto : UpdateListingDto) : SearchCall PartialListing := do
  let patch ← lift (prepareListingData updateDto)
  if updateDto.location.isSome then
    let address ← addressFound environment ListingCall.addressNotFound
    return overlay patch (addressColumn address)
  else
    return patch

/-- The refusal of a tariff without a listing. -/
def pricingWithoutListing : HttpException :=
  .database "listing_pricings.listing_id"

/-- `listingRepository.save` of a loaded listing.  The ids of its tariffs are numbers and
TypeORM compares them with texts, so it takes each stored tariff from the listing; the
database does not let it. -/
def saveLoaded (listing : StoredListing) : SearchCall StoredListing :=
  updates fun store =>
    if StoredListing.hasPricings store.listings listing.id then
      .error pricingWithoutListing
    else
      .ok (listing, store.save listing)

def update (environment : SearchEnvironment) (listingId : Nat)
    (updateDto : UpdateListingDto) : SearchCall StoredListing := do
  let listing ← loadWithCache environment listingId
  let updatedData ← updatedColumns environment updateDto
  let updatedListing : StoredListing := ⟨listingId, assign listing.row updatedData⟩
  updates fun store => .ok ((), store.deleteListing listingId)
  deletePages (listing.row .user)
  saveLoaded updatedListing

def updateStatus (environment : SearchEnvironment) (listingId : Nat)
    (newStatus : ListingStatus) : SearchCall Unit := do
  let listing ← loadWithCache environment listingId
  let prevStatus : ListingStatus := listing.row .status
  if prevStatus = newStatus then
    return
  else
    let _ ← saveLoaded ⟨listingId, assign listing.row (statusColumn newStatus)⟩
    updates fun store => .ok ((), store.deleteListing listingId)
    if prevStatus = .active ∨ newStatus = .active then
      deletePages (listing.row .user)

end ListingsService

namespace ListingsControllerHandler

/-- A request to search among the active listings. -/
def amongActive (searchDto : SearchListingsDto) : SearchListingsDto :=
  { searchDto with status := some .active }

def findAllActive (space : String) (environment : SearchEnvironment)
    (searchDto : SearchListingsDto) : SearchCall PaginatedListingsDto :=
  ListingsService.findAllWithCache space environment (amongActive searchDto) none

def findByUser (space : String) (environment : SearchEnvironment)
    (searchDto : SearchListingsDto) (targetUserId : Nat) :
    SearchCall PaginatedListingsDto :=
  ListingsService.findAllWithCache space environment (amongActive searchDto)
    (some targetUserId)

end ListingsControllerHandler

end SpareSpace
