import SpareSpace.ActiveSearch
import SpareSpace.ListingShowcase

/-!
# The listings and favorites requests without their cache

The requests of the listings and the favorites controllers are compared with requests that
read and write the tables only.  Every change of a listing, a counted view among them,
deletes what is kept of it; so the two answer every list of requests alike.
-/

namespace SpareSpace

open ColumnRecords Fallible RedisService ServiceTraces

/-- The listings service without its cache. -/
abbrev PlainListingCall := Fallible HttpException ListingTables

/-- The requests without a cache. -/
abbrev PlainShowcaseCall := Fallible HttpException ShowcaseTables

namespace PlainListings

def findById (listingId : Nat) : PlainListingCall StoredListing :=
  reads fun tables => tables.listingOf listingId

def validateUser (userId : Nat) : PlainListingCall Unit :=
  reads fun tables =>
    if userId ∈ tables.users then
      .ok ()
    else
      .error (UsersService.userNotFound userId)

def addressFound (environment : SearchEnvironment) (error : HttpException) :
    PlainListingCall String :=
  lift (match environment.address.filter fun address => address != "" with
    | some address => .ok address
    | none => .error error)

theorem id_inserted (row : ListingRow) (id : Nat) : (⟨id, row⟩ : StoredListing).id = id :=
  rfl

def insert (row : ListingRow) : PlainListingCall StoredListing :=
  updates fun tables =>
    .ok (⟨tables.listings.nextId, row⟩,
      { tables with listings := tables.listings.insert (fun id => ⟨id, row⟩) (id_inserted row) })

def saveLoaded (listing : StoredListing) : PlainListingCall StoredListing :=
  updates fun tables =>
    if StoredListing.hasPricings tables.listings listing.id then
      .error ListingsService.pricingWithoutListing
    else
      .ok (listing, { tables with listings := tables.listings.save listing })

def create (environment : SearchEnvironment) (userId : Nat) (createDto : CreateListingDto) :
    PlainListingCall StoredListing := do
  validateUser userId
  let _ ← lift (ListingsService.prepareListingData (ListingsService.given createDto))
  let address ← addressFound environment ListingsService.newAddressNotFound
  insert (ListingsService.createdRow userId createDto address)

def updatedColumns (environment : SearchEnvironment) (updateDto : UpdateListingDto) :
    PlainListingCall PartialListing := do
  let patch ← lift (ListingsService.prepareListingData updateDto)
  if updateDto.location.isSome then
    let address ← addressFound environment ListingCall.addressNotFound
    return overlay patch (ListingsService.addressColumn address)
  else
    return patch

def update (environment : SearchEnvironment) (listingId : Nat) (updateDto : UpdateListingDto) :
    PlainListingCall StoredListing := do
  let listing ← findById listingId
  let updatedData ← updatedColumns environment updateDto
  saveLoaded ⟨listingId, assign listing.row updatedData⟩

def updateStatus (listingId : Nat) (newStatus : ListingStatus) : PlainListingCall Unit := do
  let listing ← findById listingId
  let prevStatus : ListingStatus := listing.row .status
  if prevStatus = newStatus then
    return
  else
    let _ ← saveLoaded ⟨listingId, assign listing.row (ListingsService.statusColumn newStatus)⟩

end PlainListings

/-- The tables are those of the store, and what is kept of a listing is the stored one. -/
structure SearchStore.Mirrors (store : SearchStore) (tables : ListingTables) : Prop where
  stored : store.tables = tables
  current : store.Current

section Listings

variable {store : SearchStore} {tables : ListingTables}

theorem SearchStore.Mirrors.users (mirrors : store.Mirrors tables) :
    store.users = tables.users :=
  congrArg ListingTables.users mirrors.stored

theorem SearchStore.Mirrors.listings (mirrors : store.Mirrors tables) :
    store.listings = tables.listings :=
  congrArg ListingTables.listings mirrors.stored

theorem ListingTables.listingOf_ok_iff {listingId : Nat} {listing : StoredListing} :
    tables.listingOf listingId = .ok listing ↔
      tables.listings.find? listingId = some listing := by
  unfold listingOf
  cases tables.listings.find? listingId with
  | none => exact iff_of_false nofun nofun
  | some stored => simp

/-- A listing that the table holds may be kept. -/
theorem SearchStore.Mirrors.keep {listing : StoredListing} {listingId : Nat} {now : Int}
    (mirrors : store.Mirrors tables) (found : tables.listings.find? listingId = some listing) :
    ((SearchStore.listingSlot listingId).write
      (entry now ListingsService.listingCacheTtlSec listing) store).Mirrors tables := by
  constructor
  · exact mirrors.stored
  · intro other kept shown
    simp only [SearchStore.listingSlot, Function.update_apply] at shown
    split at shown
    · next same =>
        rw [← Option.some.inj shown, same]
        exact mirrors.listings ▸ found
    · exact mirrors.current other kept shown

/-- Another table of listings, where nothing is kept of those that changed. -/
theorem SearchStore.Mirrors.changed {after : SearchStore} {listingId : Nat}
    (mirrors : store.Mirrors tables)
    (cache : after.listingCache = Function.update store.listingCache listingId none)
    (others : ∀ other, other ≠ listingId →
      after.listings.find? other = store.listings.find? other) :
    after.Mirrors after.tables :=
  ⟨rfl, mirrors.current.deleted cache others⟩

theorem PlainListings.run_saveLoaded_priced {listing : StoredListing}
    (priced : StoredListing.hasPricings tables.listings listing.id = true) :
    run (saveLoaded listing) tables =
      (.error ListingsService.pricingWithoutListing, tables) := by
  unfold saveLoaded
  rw [run_updates, if_pos priced]

theorem PlainListings.run_saveLoaded_bare {listing : StoredListing}
    (bare : ¬ StoredListing.hasPricings tables.listings listing.id = true) :
    run (saveLoaded listing) tables =
      (.ok listing, { tables with listings := tables.listings.save listing }) := by
  unfold saveLoaded
  rw [run_updates, if_neg bare]

namespace ListingsService

theorem loadWithCache_agrees (environment : SearchEnvironment) (listingId : Nat) :
    Agree SearchStore.Mirrors (loadWithCache environment listingId)
      (PlainListings.findById listingId) := by
  intro store tables mirrors
  obtain rfl := mirrors.stored
  have right : ∀ listing,
      get environment.now ((SearchStore.listingSlot listingId).read store) = some listing →
        store.tables.listingOf listingId = .ok listing := by
    intro listing hit
    obtain ⟨expiresAt, kept, -⟩ := eq_of_get hit
    exact ListingTables.listingOf_ok_iff.mpr (mirrors.current listingId _ kept)
  obtain ⟨after, ran, left⟩ := run_getOrSetValue_reads (SearchStore.listingSlot listingId)
    environment.now listingCacheTtlSec
    (fun store : SearchStore => store.tables.listingOf listingId) right
  have loaded : run (loadWithCache environment listingId) store =
      (store.tables.listingOf listingId, after) := ran
  rw [loaded, PlainListings.findById, run_reads]
  refine ⟨rfl, ?_⟩
  rcases left with rfl | ⟨listing, found, rfl⟩
  · exact mirrors
  · exact mirrors.keep (ListingTables.listingOf_ok_iff.mp found)

theorem validateUser_agrees (userId : Nat) :
    Agree SearchStore.Mirrors (validateUser userId) (PlainListings.validateUser userId) := by
  apply Agree.reads
  intro store tables mirrors
  rw [mirrors.users]

theorem addressFound_agrees (environment : SearchEnvironment) (error : HttpException) :
    Agree SearchStore.Mirrors (addressFound environment error)
      (PlainListings.addressFound environment error) :=
  Agree.lift _

theorem updatedColumns_agrees (environment : SearchEnvironment) (updateDto : UpdateListingDto) :
    Agree SearchStore.Mirrors (updatedColumns environment updateDto)
      (PlainListings.updatedColumns environment updateDto) := by
  apply Agree.bind (Agree.lift _)
  intro patch
  apply Agree.ite
  · intro located
    apply Agree.bind (addressFound_agrees environment _)
    intro address
    apply Agree.pure
  · intro
    apply Agree.pure

theorem create_agrees (environment : SearchEnvironment) (userId : Nat)
    (createDto : CreateListingDto) :
    Agree SearchStore.Mirrors (create environment userId createDto)
      (PlainListings.create environment userId createDto) := by
  apply Agree.bind (validateUser_agrees userId)
  intro known
  apply Agree.bind (Agree.lift _)
  intro patch
  apply Agree.bind (addressFound_agrees environment _)
  intro address store tables mirrors
  simp only [deletePages, PlainListings.insert, run_bind, run_updates]
  constructor
  · rw [← mirrors.listings, SearchStore.listings_deleteByPattern]
  · constructor
    · simp only [SearchStore.tables, ← mirrors.stored]
      rfl
    · exact mirrors.current.inserted _ _

theorem update_agrees (environment : SearchEnvironment) (listingId : Nat)
    (updateDto : UpdateListingDto) :
    Agree SearchStore.Mirrors (update environment listingId updateDto)
      (PlainListings.update environment listingId updateDto) := by
  apply Agree.bind (loadWithCache_agrees environment listingId)
  intro listing
  apply Agree.bind (updatedColumns_agrees environment updateDto)
  intro updatedData store tables mirrors
  obtain rfl := mirrors.stored
  simp only [deletePages, run_bind, run_updates]
  by_cases priced : StoredListing.hasPricings store.listings listingId = true
  · rw [run_saveLoaded_priced priced, PlainListings.run_saveLoaded_priced priced]
    exact ⟨rfl, mirrors.changed rfl fun _ _ => rfl⟩
  · rw [run_saveLoaded_bare priced, PlainListings.run_saveLoaded_bare priced]
    refine ⟨rfl, mirrors.changed rfl fun other different => ?_⟩
    rw [SearchStore.listings_save, KeyedTable.find?_save, if_neg different]
    rfl

theorem updateStatus_agrees (environment : SearchEnvironment) (listingId : Nat)
    (newStatus : ListingStatus) :
    Agree SearchStore.Mirrors (updateStatus environment listingId newStatus)
      (PlainListings.updateStatus listingId newStatus) := by
  apply Agree.bind (loadWithCache_agrees environment listingId)
  intro listing
  apply Agree.ite
  · intro same
    apply Agree.pure
  · intro different store tables mirrors
    obtain rfl := mirrors.stored
    have others : ∀ other, other ≠ listingId →
        (store.listings.save ⟨listingId, assign listing.row (statusColumn newStatus)⟩).find?
          other = store.listings.find? other := by
      intro other apart
      rw [KeyedTable.find?_save, if_neg apart]
    rw [run_bind, run_bind]
    by_cases priced : StoredListing.hasPricings store.listings listingId = true
    · rw [run_saveLoaded_priced priced, PlainListings.run_saveLoaded_priced priced]
      exact ⟨rfl, mirrors⟩
    · rw [run_saveLoaded_bare priced, PlainListings.run_saveLoaded_bare priced]
      simp only [deletePages, run_bind, run_updates]
      split
      · exact ⟨rfl, mirrors.changed rfl others⟩
      · exact ⟨rfl, mirrors.changed rfl others⟩

end ListingsService

end Listings

namespace PlainShowcase

/-- A call of the listings service without a cache. -/
def onListings {α : Type} (call : PlainListingCall α) : PlainShowcaseCall α :=
  within ShowcaseTables.published (fun published tables => { tables with published := published })
    call

def validateListingOwnership (listingId userId : Nat) : PlainShowcaseCall Unit :=
  reads fun tables =>
    if tables.published.isListingOwner listingId userId then
      .ok ()
    else
      .error (.unauthorized "Not authorized to modify this listing")

/-- The tables after a view that was counted. -/
def counted (listingId userId : Nat) (tables : ShowcaseTables) : ShowcaseTables :=
  { tables with
    published := { tables.published with
      listings := tables.published.listings.mapRows (StoredListing.viewed listingId)
        (StoredListing.id_viewed listingId) }
    viewHistory := (userId, listingId) :: tables.viewHistory }

def updateViewHistory (listingId userId : Nat) : PlainShowcaseCall Unit := do
  let alreadyViewed ← reads fun tables =>
    .ok (ListingsService.viewedBefore tables.viewHistory listingId userId)
  if alreadyViewed then
    return
  updates fun tables => .ok ((), counted listingId userId tables)

def findFavorite (favoriteId : Nat) : PlainShowcaseCall (Favorite × StoredListing) :=
  reads fun tables =>
    match tables.favorites.favorites.find? favoriteId with
    | some favorite =>
        match tables.published.listings.find? favorite.listingId with
        | some listing => .ok (favorite, listing.withoutPricings)
        | none => .error FavoritesService.favoriteNotFound
    | none => .error FavoritesService.favoriteNotFound

def createFavorite (now : Int) (listingId userId : Nat) :
    PlainShowcaseCall (Favorite × StoredListing) := do
  let listing ← reads fun tables => tables.published.listingOf listingId
  if listing.row .user = userId then
    throw (.conflict "Нельзя добавлять свои объявления в избранное")
  if listing.row .status ≠ ListingStatus.active then
    throw (.conflict "Нельзя добавлять неактивные объявления в избранное")
  let existingFavorite ← reads fun tables => .ok (tables.favorites.ofUser listingId userId)
  if existingFavorite.isSome then
    throw (.conflict "Объявление уже в избранном")
  let favorite ← updates fun tables =>
    (tables.favorites.insert now listingId userId).map fun (favorite, favorites) =>
      (favorite, { tables with favorites := favorites })
  findFavorite favorite.id

def removeFavorite (listingId userId : Nat) : PlainShowcaseCall Unit := do
  match ← reads fun tables => .ok (tables.favorites.ofUser listingId userId) with
  | none => throw FavoritesService.favoriteNotFound
  | some favorite =>
      updates fun tables =>
        .ok ((), { tables with favorites := tables.favorites.remove favorite })

def findFavorites (environment : ShowcaseEnvironment) (userId : Nat)
    (searchDto : SearchListingsDto) : PlainShowcaseCall (List (Favorite × StoredListing) × Nat) :=
  reads fun tables =>
    let found := tables.foundFavorites environment searchDto userId
    .ok (((environment.favoriteOrder searchDto found).drop searchDto.offset).take
      searchDto.limit, found.length)

def findListing (listingId : Nat) (currentUserId : Option Nat) :
    PlainShowcaseCall (StoredListing × Option Bool) := do
  let isFavorite ← reads fun tables => .ok (tables.isFavorite listingId currentUserId)
  let listing ← onListings (PlainListings.findById listingId)
  if listing.row .status ≠ ListingStatus.active ∧ currentUserId ≠ some (listing.row .user) ∧
      isFavorite ≠ some true then
    throw (.unauthorized "Not authorized to see this listing")
  currentUserId.forM fun userId => updateViewHistory listingId userId
  return (listing, isFavorite)

def updateListing (environment : ShowcaseEnvironment) (listingId : Nat)
    (updateDto : UpdateListingDto) (currentUserId : Nat) : PlainShowcaseCall StoredListing := do
  validateListingOwnership listingId currentUserId
  onListings (PlainListings.update environment.toSearchEnvironment listingId updateDto)

def deleteListing (listingId userId : Nat) : PlainShowcaseCall Unit := do
  validateListingOwnership listingId userId
  onListings (PlainListings.updateStatus listingId .inactive)

def authenticated (userId : Nat) : PlainShowcaseCall Unit :=
  onListings (PlainListings.validateUser userId)

def call (environment : ShowcaseEnvironment) :
    ShowcaseRequest → PlainShowcaseCall ShowcaseResponse
  | .create userId createDto => do
      authenticated userId
      return .listing (← onListings
        (PlainListings.create environment.toSearchEnvironment userId createDto))
  | .update userId listingId updateDto => do
      authenticated userId
      return .listing (← updateListing environment listingId updateDto userId)
  | .delete userId listingId => do
      authenticated userId
      deleteListing listingId userId
      return .noContent
  | .updateStatus listingId newStatus => do
      onListings (PlainListings.updateStatus listingId newStatus)
      return .noContent
  | .findOne userId listingId => do
      let currentUserId ← reads fun tables => .ok (tables.visitor userId)
      let (listing, isFavorite) ← findListing listingId currentUserId
      return .detail listing isFavorite
  | .addFavorite userId listingId => do
      authenticated userId
      let (favorite, listing) ← createFavorite environment.now listingId userId
      return .favorite favorite listing
  | .removeFavorite userId listingId => do
      authenticated userId
      removeFavorite listingId userId
      return .noContent
  | .findFavorites userId searchDto => do
      authenticated userId
      let (favorites, total) ← findFavorites environment userId searchDto
      return .favorites favorites total

def serve (tables : ShowcaseTables) (request : ShowcaseEnvironment × ShowcaseRequest) :
    Except HttpException ShowcaseResponse × ShowcaseTables :=
  run (call request.1 request.2) tables

end PlainShowcase

/-- The tables are those of the store, and what is kept of a listing is the stored one. -/
structure ShowcaseStore.Mirrors (store : ShowcaseStore) (tables : ShowcaseTables) : Prop where
  stored : store.tables = tables
  current : store.search.Current

section Requests

open ListingsService

theorem onListings_agrees {α : Type} {call : SearchCall α} {plain : PlainListingCall α}
    (agree : Agree SearchStore.Mirrors call plain) :
    Agree ShowcaseStore.Mirrors (ShowcaseCall.onListings call)
      (PlainShowcase.onListings plain) := by
  apply Agree.within agree
  · intro store tables mirrors
    exact ⟨congrArg ShowcaseTables.published mirrors.stored, mirrors.current⟩
  · intro store tables mirrors next plainNext after
    obtain rfl := mirrors.stored
    obtain rfl := after.stored
    exact ⟨rfl, after.current⟩

/-- A read of the tables agrees with the same read of the store's tables. -/
theorem reads_agree {α : Type} (read : ShowcaseTables → Except HttpException α) :
    Agree ShowcaseStore.Mirrors (reads fun store => read store.tables) (reads read) := by
  apply Agree.reads
  intro store tables mirrors
  rw [mirrors.stored]

theorem authenticated_agrees (userId : Nat) :
    Agree ShowcaseStore.Mirrors (ShowcaseRequest.authenticated userId)
      (PlainShowcase.authenticated userId) :=
  onListings_agrees (validateUser_agrees userId)

theorem ownership_agrees (listingId userId : Nat) :
    Agree ShowcaseStore.Mirrors (validateListingOwnership listingId userId)
      (PlainShowcase.validateListingOwnership listingId userId) :=
  reads_agree fun tables =>
    if tables.published.isListingOwner listingId userId then
      .ok ()
    else
      .error (.unauthorized "Not authorized to modify this listing")

theorem updateListing_agrees (environment : ShowcaseEnvironment) (listingId : Nat)
    (updateDto : UpdateListingDto) (userId : Nat) :
    Agree ShowcaseStore.Mirrors
      (ListingsControllerHandler.update environment listingId updateDto userId)
      (PlainShowcase.updateListing environment listingId updateDto userId) := by
  apply Agree.bind (ownership_agrees listingId userId)
  intro
  exact onListings_agrees (update_agrees _ listingId updateDto)

theorem deleteListing_agrees (environment : ShowcaseEnvironment) (listingId userId : Nat) :
    Agree ShowcaseStore.Mirrors
      (ListingsControllerHandler.delete environment listingId userId)
      (PlainShowcase.deleteListing listingId userId) := by
  apply Agree.bind (ownership_agrees listingId userId)
  intro
  exact onListings_agrees (updateStatus_agrees _ listingId .inactive)

/-- A view changes no other listing. -/
theorem find?_viewed_of_ne (table : KeyedTable StoredListing StoredListing.id)
    {listingId other : Nat} (different : other ≠ listingId) :
    (table.mapRows (StoredListing.viewed listingId)
      (StoredListing.id_viewed listingId)).find? other = table.find? other := by
  rw [KeyedTable.find?_mapRows]
  cases found : table.find? other with
  | none => rfl
  | some listing =>
      obtain rfl := table.key_of_find? found
      rw [Option.map_some, StoredListing.viewed, if_neg different]

theorem updateViewHistory_agrees (listingId userId : Nat) :
    Agree ShowcaseStore.Mirrors (updateViewHistory listingId userId)
      (PlainShowcase.updateViewHistory listingId userId) := by
  apply Agree.bind
    (reads_agree fun tables => .ok (decide ((userId, listingId) ∈ tables.viewHistory)))
  intro alreadyViewed
  apply Agree.ite
  · intro seen
    apply Agree.pure
  · intro unseen store tables mirrors
    obtain rfl := mirrors.stored
    simp only [run_bind, run_updates]
    apply And.intro trivial
    constructor
    · rfl
    · apply mirrors.current.deleted rfl
      intro other different
      exact find?_viewed_of_ne store.search.listings different

theorem findFavorite_agrees (favoriteId : Nat) :
    Agree ShowcaseStore.Mirrors (FavoritesService.findById favoriteId)
      (PlainShowcase.findFavorite favoriteId) :=
  reads_agree fun tables =>
    match tables.favorites.favorites.find? favoriteId with
    | some favorite =>
        match tables.published.listings.find? favorite.listingId with
        | some listing => .ok (favorite, listing.withoutPricings)
        | none => .error FavoritesService.favoriteNotFound
    | none => .error FavoritesService.favoriteNotFound

theorem insertFavorite_agrees (now : Int) (listingId userId : Nat) :
    Agree ShowcaseStore.Mirrors
      (updates fun store =>
        (store.favorites.insert now listingId userId).map fun (favorite, favorites) =>
          (favorite, { store with favorites := favorites }))
      (updates fun tables =>
        (tables.favorites.insert now listingId userId).map fun (favorite, favorites) =>
          (favorite, { tables with favorites := favorites })) := by
  apply Agree.updates
  intro store tables mirrors
  obtain rfl := mirrors.stored
  have same : store.tables.favorites.insert now listingId userId =
      store.favorites.insert now listingId userId := rfl
  simp only [same]
  cases store.favorites.insert now listingId userId with
  | error error => exact Or.inl ⟨error, rfl, rfl⟩
  | ok inserted => exact Or.inr ⟨_, _, _, rfl, rfl, rfl, mirrors.current⟩

theorem createFavorite_agrees (now : Int) (listingId userId : Nat) :
    Agree ShowcaseStore.Mirrors (FavoritesService.create now listingId userId)
      (PlainShowcase.createFavorite now listingId userId) := by
  apply Agree.bind (reads_agree fun tables => tables.published.listingOf listingId)
  intro listing
  apply Agree.guarded
  intro notOwn
  apply Agree.guarded
  intro active
  apply Agree.bind (reads_agree fun tables => .ok (tables.favorites.ofUser listingId userId))
  intro existingFavorite
  apply Agree.guarded
  intro absent
  apply Agree.bind (insertFavorite_agrees now listingId userId)
  intro favorite
  apply findFavorite_agrees

theorem removeFavorite_agrees (listingId userId : Nat) :
    Agree ShowcaseStore.Mirrors (FavoritesService.remove listingId userId)
      (PlainShowcase.removeFavorite listingId userId) := by
  apply Agree.bind (reads_agree fun tables => .ok (tables.favorites.ofUser listingId userId))
  intro found
  cases found with
  | none => exact Agree.throw _
  | some favorite =>
      apply Agree.updates
      intro store tables mirrors
      obtain rfl := mirrors.stored
      exact Or.inr ⟨_, _, _, rfl, rfl, rfl, mirrors.current⟩

theorem findListing_agrees (environment : ShowcaseEnvironment) (listingId : Nat)
    (currentUserId : Option Nat) :
    Agree ShowcaseStore.Mirrors
      (ListingsControllerHandler.findById environment listingId currentUserId)
      (PlainShowcase.findListing listingId currentUserId) := by
  apply Agree.bind (reads_agree fun tables => .ok (tables.isFavorite listingId currentUserId))
  intro isFavorite
  apply Agree.bind (onListings_agrees (loadWithCache_agrees _ listingId))
  intro listing
  apply Agree.guarded
  intro shown
  apply Agree.bind
  · apply Agree.forM
    intro userId
    apply updateViewHistory_agrees
  · intro
    apply Agree.pure

/-- Every request agrees with the same request without a cache. -/
theorem ShowcaseRequest.call_agrees (environment : ShowcaseEnvironment)
    (request : ShowcaseRequest) :
    Agree ShowcaseStore.Mirrors (request.call environment)
      (PlainShowcase.call environment request) := by
  cases request with
  | create userId createDto =>
      apply Agree.bind (authenticated_agrees userId)
      intro
      apply Agree.bind (onListings_agrees (create_agrees _ userId createDto))
      intro
      apply Agree.pure
  | update userId listingId updateDto =>
      apply Agree.bind (authenticated_agrees userId)
      intro
      apply Agree.bind (updateListing_agrees environment listingId updateDto userId)
      intro
      apply Agree.pure
  | delete userId listingId =>
      apply Agree.bind (authenticated_agrees userId)
      intro
      apply Agree.bind (deleteListing_agrees environment listingId userId)
      intro
      apply Agree.pure
  | updateStatus listingId newStatus =>
      apply Agree.bind (onListings_agrees (updateStatus_agrees _ listingId newStatus))
      intro
      apply Agree.pure
  | findOne userId listingId =>
      apply Agree.bind (reads_agree fun tables => .ok (tables.visitor userId))
      intro currentUserId
      apply Agree.bind (findListing_agrees environment listingId currentUserId)
      intro
      apply Agree.pure
  | addFavorite userId listingId =>
      apply Agree.bind (authenticated_agrees userId)
      intro
      apply Agree.bind (createFavorite_agrees environment.now listingId userId)
      intro
      apply Agree.pure
  | removeFavorite userId listingId =>
      apply Agree.bind (authenticated_agrees userId)
      intro
      apply Agree.bind (removeFavorite_agrees listingId userId)
      intro
      apply Agree.pure
  | findFavorites userId searchDto =>
      apply Agree.bind (authenticated_agrees userId)
      intro
      apply Agree.bind
      · exact reads_agree fun tables =>
          let found := tables.foundFavorites environment searchDto userId
          .ok (((environment.favoriteOrder searchDto found).drop searchDto.offset).take
            searchDto.limit, found.length)
      · intro
        apply Agree.pure

end Requests

/-- Starting with no listing kept, every list of requests is answered as without the cache,
and what is kept afterwards is what the tables hold. -/
theorem ShowcaseRequest.traces {store : ShowcaseStore}
    (noListings : ∀ listingId, store.search.listingCache listingId = none)
    (requests : List (ShowcaseEnvironment × ShowcaseRequest)) :
    responses ShowcaseRequest.serve store requests =
        responses PlainShowcase.serve store.tables requests ∧
      (after ShowcaseRequest.serve store requests).Mirrors
        (after PlainShowcase.serve store.tables requests) := by
  have current : store.search.Current := by
    intro listingId entry kept
    rw [noListings] at kept
    contradiction
  have simulates : Simulates ShowcaseRequest.serve PlainShowcase.serve ShowcaseStore.Mirrors
      fun _ _ => True :=
    Agree.simulates fun request => request.2.call_agrees request.1
  apply simulates.traces ⟨rfl, current⟩
  apply throughout_of_forall
  exact fun _ _ => trivial

/-- Starting with no listing kept, the requests are answered, in every order and at any
times, as they would be without the cache, and leave the same tables. -/
theorem showcase_cache_invisible {store : ShowcaseStore}
    (noListings : ∀ listingId, store.search.listingCache listingId = none)
    (requests : List (ShowcaseEnvironment × ShowcaseRequest)) :
    responses ShowcaseRequest.serve store requests =
        responses PlainShowcase.serve store.tables requests ∧
      (after ShowcaseRequest.serve store requests).tables =
        after PlainShowcase.serve store.tables requests := by
  obtain ⟨same, mirrors⟩ := ShowcaseRequest.traces noListings requests
  exact ⟨same, mirrors.stored⟩

def showcaseEnvironment (now : Int) : ShowcaseEnvironment where
  now := now
  address := some "Moscow"
  similar := fun _ _ => false
  within := fun _ _ _ _ => false
  order := fun _ listings => listings
  perm := fun _ _ => List.Perm.refl _
  favoriteOrder := fun _ favorites => favorites
  favoritePerm := fun _ _ => List.Perm.refl _

def showcaseGarage : CreateListingDto :=
  ⟨.garage, "Garage", none, [⟨500, .day⟩], ⟨37, 55⟩, none, none, none, []⟩

/-- User 1 has an active garage without tariffs. -/
def showcaseStart : ShowcaseStore where
  search := ⟨[1, 2, 3], KeyedTable.empty.insert (fun id =>
      ⟨id, ListingsService.createdRow 1 { showcaseGarage with pricings := [] } "Moscow"⟩)
    fun _ => rfl, fun _ => none, fun _ => none, 0⟩
  favorites := .empty
  viewHistory := []

/-- User 2 keeps the garage of user 1 as a favorite and looks again when it is taken off;
user 3 looks too.  User 1 offers another with a tariff, which cannot be taken off. -/
def showcaseRequests : List (ShowcaseEnvironment × ShowcaseRequest) :=
  [(showcaseEnvironment 1, .create 1 showcaseGarage),
    (showcaseEnvironment 2, .findOne (some 2) 1),
    (showcaseEnvironment 3, .addFavorite 2 1),
    (showcaseEnvironment 4, .delete 1 1),
    (showcaseEnvironment 5, .findOne (some 2) 1),
    (showcaseEnvironment 6, .findOne (some 3) 1),
    (showcaseEnvironment 7, .delete 1 2),
    (showcaseEnvironment 8, .findOne (some 3) 2)]

theorem showcase_cache_invisible_sample :
    responses ShowcaseRequest.serve showcaseStart showcaseRequests =
      responses PlainShowcase.serve showcaseStart.tables showcaseRequests :=
  (@showcase_cache_invisible showcaseStart (fun _ => rfl) showcaseRequests).1

end SpareSpace
