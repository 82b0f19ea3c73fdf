import SpareSpace.ListingSearch
import SpareSpace.NamedRows
import SpareSpace.RelatedCalls

/-!
# Listings as visitors see them

The requests of the listings and the favorites controllers, over the store of the listings
service with the favorites and the view history beside it.  A visitor who is not logged in
sees active listings; an inactive one is shown to its owner and to the users who keep it as
a favorite.  Every view by a new user is counted.  The guards have loaded the user of a
request; the roles they check are left out.
-/

namespace SpareSpace

open ColumnRecords Fallible NamedRows

/-- A row of the `favorites` table. -/
structure Favorite where
  id : Nat
  userId : Nat
  listingId : Nat
  createdAt : Int
  deriving DecidableEq, Repr

/-- The pair of columns that is unique. -/
def Favorite.pair (favorite : Favorite) : Option (Nat × Nat) :=
  some (favorite.userId, favorite.listingId)

def createdFavorite (now : Int) (listingId userId id : Nat) : Favorite :=
  ⟨id, userId, listingId, now⟩

/-- The table with its unique pairs. -/
structure FavoriteTable where
  favorites : KeyedTable Favorite Favorite.id
  paired : OneEach Favorite.pair favorites.rows

namespace FavoriteTable

def empty : FavoriteTable :=
  ⟨.empty, OneEach.nil _⟩

variable (table : FavoriteTable)

/-- The favorite of a user for a listing. -/
def ofUser (listingId userId : Nat) : Option Favorite :=
  table.favorites.rows.find? fun favorite =>
    favorite.listingId == listingId && favorite.userId == userId

def existsByUser (listingId userId : Nat) : Bool :=
  (table.ofUser listingId userId).isSome

theorem ofUser_eq_none_iff {listingId userId : Nat} :
    table.ofUser listingId userId = none ↔
      ∀ favorite ∈ table.favorites.rows,
        ¬ (favorite.listingId = listingId ∧ favorite.userId = userId) := by
  simp [ofUser, List.find?_eq_none]

theorem paired_insert {now : Int} {listingId userId : Nat}
    (absent : table.ofUser listingId userId = none) :
    OneEach Favorite.pair (table.favorites.insert (createdFavorite now listingId userId)
      fun _ => rfl).rows := by
  apply table.paired.add fun favorite => (table.favorites.mem_insert_iff _ _).mp
  intro favorite present shared new old
  have other := table.ofUser_eq_none_iff.mp absent favorite present
  obtain rfl := Option.some.inj new
  have same := Prod.mk.inj (Option.some.inj old)
  exact other ⟨same.2, same.1⟩

/-- `favoriteRepository.save` of a new favorite. -/
def insert (now : Int) (listingId userId : Nat) :
    Except HttpException (Favorite × FavoriteTable) :=
  if absent : table.ofUser listingId userId = none then
    .ok (createdFavorite now listingId userId table.favorites.nextId,
      ⟨table.favorites.insert (createdFavorite now listingId userId) fun _ => rfl,
        table.paired_insert absent⟩)
  else
    .error (.database "favorites_user_id_listing_id_key")

/-- `favoriteRepository.remove`. -/
def remove (favorite : Favorite) : FavoriteTable where
  favorites := table.favorites.remove favorite.id
  paired := table.paired.of_subset fun _ => List.mem_of_mem_filter

end FavoriteTable

/-- The users and the listings of the database. -/
structure ListingTables where
  users : List Nat
  listings : KeyedTable StoredListing StoredListing.id

def SearchStore.tables (store : SearchStore) : ListingTables :=
  ⟨store.users, store.listings⟩

/-- What the database keeps: the users, the listings, the favorites and, for every view
that was counted, the user and the listing. -/
structure ShowcaseTables where
  published : ListingTables
  favorites : FavoriteTable
  viewHistory : List (Nat × Nat)

/-- The store of the listings service, and the tables beside it. -/
structure ShowcaseStore where
  search : SearchStore
  favorites : FavoriteTable
  viewHistory : List (Nat × Nat)

def ShowcaseStore.tables (store : ShowcaseStore) : ShowcaseTables :=
  ⟨store.search.tables, store.favorites, store.viewHistory⟩

/-- What a call finds outside the store; the order is the order in which the database gives
a user's favorites with their listings. -/
structure ShowcaseEnvironment extends SearchEnvironment where
  favoriteOrder : SearchListingsDto → List (Favorite × StoredListing) →
    List (Favorite × StoredListing)
  favoritePerm : ∀ searchDto favorites,
    (favoriteOrder searchDto favorites).Perm favorites

abbrev ShowcaseCall := Fallible HttpException ShowcaseStore

/-- A call of the listings service that needs its own store only. -/
def ShowcaseCall.onListings {α : Type} (call : SearchCall α) : ShowcaseCall α :=
  within ShowcaseStore.search (fun search store => { store with search := search }) call

namespace ListingTables

variable (tables : ListingTables)

/-- The listing of an id, as `ListingsService.findById` gives it. -/
def listingOf (listingId : Nat) : Except HttpException StoredListing :=
  match tables.listings.find? listingId with
  | some listing => .ok listing
  | none => .error (.notFound "Listing not found")

/-- Whether a listing has this owner. -/
def isListingOwner (listingId userId : Nat) : Bool :=
  tables.listings.rows.any fun listing =>
    listing.id == listingId && listing.row .user == userId

end ListingTables

/-- A listing of this id, once its view is counted. -/
def StoredListing.viewed (listingId : Nat) (listing : StoredListing) : StoredListing :=
  if listing.id = listingId then
    ⟨listing.id, assign listing.row (ListingsService.incremented listing.row)⟩
  else
    listing

theorem StoredListing.id_viewed (listingId : Nat) (listing : StoredListing) :
    (listing.viewed listingId).id = listing.id := by
  unfold viewed
  split <;> rfl

/-- The columns of a listing that was loaded without its tariffs. -/
def FavoritesService.noPricings : PartialListing
  | .pricings => some []
  | _ => none

def StoredListing.withoutPricings (listing : StoredListing) : StoredListing :=
  ⟨listing.id, assign listing.row FavoritesService.noPricings⟩

/-- `listingRepository.increment` of `viewsCount`, which does nothing without a listing. -/
def SearchStore.increment (store : SearchStore) (listingId : Nat) : SearchStore :=
  { store with
    listings := store.listings.mapRows (StoredListing.viewed listingId)
      (StoredListing.id_viewed listingId) }

namespace ShowcaseTables

variable (tables : ShowcaseTables)

/-- `OptionalJwtGuard`: a user that is not found is no user. -/
def visitor (userId : Option Nat) : Option Nat :=
  userId.filter fun userId => decide (userId ∈ tables.published.users)

/-- `isFavorite` is undefined without a user. -/
def isFavorite (listingId : Nat) : Option Nat → Option Bool
  | some userId =>
      if userId = 0 then
        none
      else
        some (tables.favorites.existsByUser listingId userId)
  | none => none

/-- The favorites of a user that a search among them finds, each with its listing and the
tariffs that the search admits. -/
def foundFavorites (environment : ShowcaseEnvironment) (searchDto : SearchListingsDto)
    (userId : Nat) : List (Favorite × StoredListing) :=
  tables.favorites.favorites.rows.filterMap fun favorite =>
    if favorite.userId = userId then
      ((tables.published.listings.find? favorite.listingId).filter fun listing =>
        ListingsService.applySearchFilters environment.toSearchEnvironment searchDto
          listing.row && (listing.row .pricings).any searchDto.admitsPricing).map
        fun listing => (favorite, ListingsService.joined searchDto listing)
    else
      none

end ShowcaseTables

namespace ListingsService

/-- `findById`, without the cache. -/
def findStored (listingId : Nat) : ShowcaseCall StoredListing :=
  reads fun store => store.search.tables.listingOf listingId

def validateListingOwnership (listingId userId : Nat) : ShowcaseCall Unit :=
  reads fun store =>
    if store.search.tables.isListingOwner listingId userId then
      .ok ()
    else
      .error (.unauthorized "Not authorized to modify this listing")

/-- `viewHistoryRepository.existsBy` of the user and the listing. -/
def viewedBefore (viewHistory : List (Nat × Nat)) (listingId userId : Nat) : Bool :=
  decide ((userId, listingId) ∈ viewHistory)

def updateViewHistory (listingId userId : Nat) : ShowcaseCall Unit := do
  let alreadyViewed ← reads fun store =>
    .ok (viewedBefore store.viewHistory listingId userId)
  if alreadyViewed then
    return
  updates fun store =>
    .ok ((), { store with search := store.search.increment listingId })
  updates fun store =>
    .ok ((), { store with search := store.search.deleteListing listingId })
  updates fun store =>
    .ok ((), { store with viewHistory := (userId, listingId) :: store.viewHistory })

end ListingsService

namespace FavoritesService

def favoriteNotFound : HttpException :=
  .notFound "Запись избранного не найдена"

def existsByUser (listingId userId : Nat) : ShowcaseCall Bool :=
  reads fun store => .ok (store.favorites.existsByUser listingId userId)

/-- A favorite with its listing, whose tariffs are not joined. -/
def findById (favoriteId : Nat) : ShowcaseCall (Favorite × StoredListing) :=
  reads fun store =>
    match store.favorites.favorites.find? favoriteId with
    | some favorite =>
        match store.search.listings.find? favorite.listingId with
        | some listing => .ok (favorite, listing.withoutPricings)
        | none => .error favoriteNotFound
    | none => .error favoriteNotFound

def create (now : Int) (listingId userId : Nat) : ShowcaseCall (Favorite × StoredListing) := do
  let listing ← ListingsService.findStored listingId
  if listing.row .user = userId then
    throw (.conflict "Нельзя добавлять свои объявления в избранное")
  if listing.row .status ≠ ListingStatus.active then
    throw (.conflict "Нельзя добавлять неактивные объявления в избранное")
  let existingFavorite ← reads fun store => .ok (store.favorites.ofUser listingId userId)
  if existingFavorite.isSome then
    throw (.conflict "Объявление уже в избранном")
  let favorite ← updates fun store =>
    (store.favorites.insert now listingId userId).map fun (favorite, favorites) =>
      (favorite, { store with favorites := favorites })
  findById favorite.id

def remove (listingId userId : Nat) : ShowcaseCall Unit := do
  match ← reads fun store => .ok (store.favorites.ofUser listingId userId) with
  | none => throw favoriteNotFound
  | some favorite =>
      updates fun store => .ok ((), { store with favorites := store.favorites.remove favorite })

/-- The page of a user's favorites and their number. -/
def findAll (environment : ShowcaseEnvironment) (userId : Nat) (searchDto : SearchListingsDto) :
    ShowcaseCall (List (Favorite × StoredListing) × Nat) :=
  reads fun store =>
    let found := store.tables.foundFavorites environment searchDto userId
    .ok (((environment.favoriteOrder searchDto found).drop searchDto.offset).take
      searchDto.limit, found.length)

end FavoritesService

namespace ListingsControllerHandler

open ShowcaseCall (onListings)

def findById (environment : ShowcaseEnvironment) (listingId : Nat)
    (currentUserId : Option Nat) : ShowcaseCall (StoredListing × Option Bool) := do
  let isFavorite ← reads fun store => .ok (store.tables.isFavorite listingId currentUserId)
  let listing ← onListings
    (ListingsService.loadWithCache environment.toSearchEnvironment listingId)
  if listing.row .status ≠ ListingStatus.active ∧ currentUserId ≠ some (listing.row .user) ∧
      isFavorite ≠ some true then
    throw (.unauthorized "Not authorized to see this listing")
  currentUserId.forM fun userId => ListingsService.updateViewHistory listingId userId
  return (listing, isFavorite)

def update (environment : ShowcaseEnvironment) (listingId : Nat) (updateDto : UpdateListingDto)
    (currentUserId : Nat) : ShowcaseCall StoredListing := do
  ListingsService.validateListingOwnership listingId currentUserId
  onListings (ListingsService.update environment.toSearchEnvironment listingId updateDto)

def delete (environment : ShowcaseEnvironment) (listingId userId : Nat) :
    ShowcaseCall Unit := do
  ListingsService.validateListingOwnership listingId userId
  onListings
    (ListingsService.updateStatus environment.toSearchEnvironment listingId .inactive)

end ListingsControllerHandler

/-- What a request asks for. -/
inductive ShowcaseRequest
  | create (userId : Nat) (createDto : CreateListingDto)
  | update (userId listingId : Nat) (updateDto : UpdateListingDto)
  | delete (userId listingId : Nat)
  | updateStatus (listingId : Nat) (newStatus : ListingStatus)
  | findOne (userId : Option Nat) (listingId : Nat)
  | addFavorite (userId listingId : Nat)
  | removeFavorite (userId listingId : Nat)
  | findFavorites (userId : Nat) (searchDto : SearchListingsDto)

inductive ShowcaseResponse
  | listing (listing : StoredListing)
  | detail (listing : StoredListing) (isFavorite : Option Bool)
  | favorite (favorite : Favorite) (listing : StoredListing)
  | favorites (favorites : List (Favorite × StoredListing)) (total : Nat)
  | noContent

namespace ShowcaseRequest

open ShowcaseCall (onListings)

/-- `JwtAuthGuard`: the user of the request is loaded. -/
def authenticated (userId : Nat) : ShowcaseCall Unit :=
  onListings (ListingsService.validateUser userId)

def call (environment : ShowcaseEnvironment) : ShowcaseRequest → ShowcaseCall ShowcaseResponse
  | create userId createDto => do
      authenticated userId
      return .listing (← onListings
        (ListingsService.create environment.toSearchEnvironment userId createDto))
  | update userId listingId updateDto => do
      authenticated userId
      return .listing (← ListingsControllerHandler.update environment listingId updateDto userId)
  | delete userId listingId => do
      authenticated userId
      ListingsControllerHandler.delete environment listingId userId
      return .noContent
  | updateStatus listingId newStatus => do
      onListings
        (ListingsService.updateStatus environment.toSearchEnvironment listingId newStatus)
      return .noContent
  | findOne userId listingId => do
      let currentUserId ← reads fun store => .ok (store.tables.visitor userId)
      let (listing, isFavorite) ←
        ListingsControllerHandler.findById environment listingId currentUserId
      return .detail listing isFavorite
  | addFavorite userId listingId => do
      authenticated userId
      let (favorite, listing) ← FavoritesService.create environment.now listingId userId
      return .favorite favorite listing
  | removeFavorite userId listingId => do
      authenticated userId
      FavoritesService.remove listingId userId
      return .noContent
  | findFavorites userId searchDto => do
      authenticated userId
      let (favorites, total) ← FavoritesService.findAll environment userId searchDto
      return .favorites favorites total

/-- A whole request: what it answers and the store it leaves. -/
def serve (store : ShowcaseStore) (request : ShowcaseEnvironment × ShowcaseRequest) :
    Except HttpException ShowcaseResponse × ShowcaseStore :=
  run (request.2.call request.1) store

end ShowcaseRequest

end SpareSpace
