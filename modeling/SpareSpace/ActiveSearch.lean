import SpareSpace.ListingSearch
import SpareSpace.TransitionRuns

/-!
# What a search among the active listings shows

A search joins tariffs, and the row of a listing with tariffs cannot be saved again:
neither an update nor a status change reaches it.  So whatever a page has shown as
active, kept by type, by user or not at all, stays active.
-/

namespace SpareSpace

open ColumnRecords Fallible RedisService ListingsService TransitionRuns

/-- A whole call on the listings. -/
inductive ListingsRequest
  | create (userId : Nat) (createDto : CreateListingDto)
  | update (listingId : Nat) (updateDto : UpdateListingDto)
  | updateStatus (listingId : Nat) (newStatus : ListingStatus)
  | findAllActive (searchDto : SearchListingsDto)
  | findByUser (searchDto : SearchListingsDto) (targetUserId : Nat)

/-- The store that a whole call leaves, whatever it returned. -/
def ListingsRequest.after (space : String) (environment : SearchEnvironment)
    (store : SearchStore) : ListingsRequest → SearchStore
  | create userId createDto =>
      (run (ListingsService.create environment userId createDto) store).2
  | update listingId updateDto =>
      (run (ListingsService.update environment listingId updateDto) store).2
  | updateStatus listingId newStatus =>
      (run (ListingsService.updateStatus environment listingId newStatus) store).2
  | findAllActive searchDto =>
      (run (ListingsControllerHandler.findAllActive space environment searchDto)
        store).2
  | findByUser searchDto targetUserId =>
      (run (ListingsControllerHandler.findByUser space environment searchDto
        targetUserId) store).2

namespace SearchStore

/-- The store at a later time. -/
def withClock (store : SearchStore) (now : Int) : SearchStore :=
  { store with clock := now }

/-- Whatever is kept under `listing:{id}` is the stored listing. -/
def Current (store : SearchStore) : Prop :=
  ∀ listingId entry, store.listingCache listingId = some entry →
    store.listings.find? listingId = some entry.value

/-- A call that only keeps a listing under its key. -/
structure Loaded (store after : SearchStore) : Prop where
  listings : after.listings = store.listings
  pages : after.pages = store.pages
  clock : after.clock = store.clock
  current : store.Current → after.Current

theorem Loaded.refl (store : SearchStore) : store.Loaded store :=
  ⟨rfl, rfl, rfl, id⟩

end SearchStore

/-- A call made when the clock shows its time, which does not go back. -/
def requestStep (space : String) (store : SearchStore) :
    SearchEnvironment × ListingsRequest → Option SearchStore
  | (environment, request) =>
      if store.clock ≤ environment.now then
        some (request.after space environment (store.withClock environment.now))
      else
        none

/-- Every listing that a search returns in this state is active in the table. -/
def SearchesActive (space : String) (store : SearchStore) : Prop :=
  ∀ environment searchDto page, store.clock ≤ environment.now →
    ((run (ListingsControllerHandler.findAllActive space environment searchDto)
          store).1 = .ok page ∨
      ∃ targetUserId, (run (ListingsControllerHandler.findByUser space environment
        searchDto targetUserId) store).1 = .ok page) →
    ∀ listing ∈ page.listings, ∃ stored,
      store.listings.find? listing.id = some stored ∧
        stored.row .status = ListingStatus.active

/-- The listing is stored, active, and has tariffs. -/
def SearchStore.ShowsListing (store : SearchStore) (listingId : Nat) : Prop :=
  ∃ stored, store.listings.find? listingId = some stored ∧
    stored.row .status = ListingStatus.active ∧
      StoredListing.hasPricings store.listings listingId = true

/-- Cached listings are current, and a page whose time is not over shows active
listings with tariffs. -/
structure ShowsActive (store : SearchStore) : Prop where
  current : store.Current
  shown : ∀ key page, get store.clock (store.pages key) = some page →
    ∀ listing ∈ page.listings, store.ShowsListing listing.id

section Changes

variable {store after : SearchStore}

/-- A change that adds no page and leaves the listings that have tariffs. -/
theorem ShowsActive.change (shows : ShowsActive store)
    (clock : store.clock ≤ after.clock) (current : after.Current)
    (pages : ∀ key entry, after.pages key = some entry →
      store.pages key = some entry)
    (rows : ∀ listingId, StoredListing.hasPricings store.listings listingId = true →
      after.listings.find? listingId = store.listings.find? listingId) :
    ShowsActive after := by
  refine ⟨current, fun key page hit listing onPage => ?_⟩
  obtain ⟨expiresAt, cached, live⟩ := eq_of_get hit
  have before : get store.clock (store.pages key) = some page := by
    rw [pages key _ cached]
    exact get_of_get clock (cached ▸ hit)
  obtain ⟨stored, found, active, priced⟩ := shows.shown key page before listing onPage
  have same := rows listing.id priced
  unfold SearchStore.ShowsListing StoredListing.hasPricings at *
  rw [same]
  exact ⟨stored, found, active, priced⟩

theorem ShowsActive.withClock (shows : ShowsActive store) {now : Int}
    (passed : store.clock ≤ now) : ShowsActive (store.withClock now) :=
  shows.change passed shows.current (fun _ _ kept => kept) fun _ _ => rfl

theorem ShowsActive.loaded (shows : ShowsActive store)
    (loaded : store.Loaded after) : ShowsActive after :=
  shows.change (le_of_eq loaded.clock.symm) (loaded.current shows.current)
    (fun key entry kept => loaded.pages ▸ kept) fun listingId _ => by rw [loaded.listings]

end Changes

section Calls

variable {store after : SearchStore}

theorem loadWithCache_spec (current : store.Current)
    (environment : SearchEnvironment) (listingId : Nat) :
    (∃ error, run (loadWithCache environment listingId) store =
        (.error error, store)) ∨
      ∃ stored after, store.listings.find? listingId = some stored ∧
        run (loadWithCache environment listingId) store = (.ok stored, after) ∧
          store.Loaded after := by
  unfold loadWithCache
  cases hit : RedisService.get environment.now (store.listingCache listingId) with
  | some listing =>
      obtain ⟨expiresAt, cached, _⟩ := eq_of_get hit
      exact Or.inr ⟨listing, store, current listingId _ cached,
        run_getOrSetValue_hit hit, SearchStore.Loaded.refl store⟩
  | none =>
      cases found : store.listings.find? listingId with
      | none =>
          refine Or.inl ⟨.notFound "Listing not found",
            run_getOrSetValue_throw hit ?_⟩
          rw [run_reads, found]
      | some stored =>
          refine Or.inr ⟨stored, _, rfl, run_getOrSetValue_miss hit ?_,
            rfl, rfl, rfl, ?_⟩
          · rw [run_reads, found]
          · intro current otherId entry cached
            simp only [SearchStore.listingSlot, Function.update_apply] at cached
            split at cached
            · next same =>
                obtain rfl := Option.some.inj cached
                exact same ▸ found
            · exact current otherId entry cached

theorem validateUser_leaves (userId : Nat) (store : SearchStore) :
    run (validateUser userId) store = (.ok (), store) ∨
      run (validateUser userId) store =
        (.error (UsersService.userNotFound userId), store) := by
  unfold validateUser
  rw [run_reads]
  split
  · exact Or.inl rfl
  · exact Or.inr rfl

theorem addressFound_leaves (environment : SearchEnvironment)
    (error : HttpException) (store : SearchStore) :
    run (addressFound environment error) store =
        (.error error, store) ∨
      ∃ address, run (addressFound environment error) store =
        (.ok address, store) := by
  unfold addressFound
  rw [run_lift]
  cases environment.address.filter fun address => address != "" with
  | none => exact Or.inl rfl
  | some address => exact Or.inr ⟨address, rfl⟩

theorem prepareListingData_ok {updateDto : UpdateListingDto}
    {patch : PartialListing}
    (prepared : prepareListingData updateDto = .ok patch) :
    patch = editedColumns updateDto := by
  unfold prepareListingData at prepared
  split at prepared
  · exact (Except.ok.inj prepared).symm
  · contradiction

/-- An update does not set the owner. -/
theorem updatedColumns_spec (environment : SearchEnvironment)
    (updateDto : UpdateListingDto) (store : SearchStore) :
    (∃ error, run (updatedColumns environment updateDto) store =
        (.error error, store)) ∨
      ∃ patch, run (updatedColumns environment updateDto) store =
          (.ok patch, store) ∧
        patch .user = none := by
  unfold updatedColumns
  rw [run_bind, run_lift]
  cases prepared : prepareListingData updateDto with
  | error error => exact Or.inl ⟨error, rfl⟩
  | ok patch =>
      obtain rfl := prepareListingData_ok prepared
      simp only
      split
      · rw [run_bind]
        rcases addressFound_leaves environment ListingCall.addressNotFound store
          with ran | ⟨address, ran⟩
        · rw [ran]
          exact Or.inl ⟨_, rfl⟩
        · rw [ran]
          exact Or.inr ⟨_, rfl, rfl⟩
      · exact Or.inr ⟨_, rfl, rfl⟩

theorem createListing_spec (environment : SearchEnvironment) (userId : Nat)
    (createDto : CreateListingDto) (store : SearchStore) :
    (run (ListingsService.create environment userId createDto) store).2 =
        store ∨
      ∃ address,
        (run (ListingsService.create environment userId createDto) store).2 =
          (store.deleteByPattern (getUserActiveListingsPattern userId)).insert
            (createdRow userId createDto address) := by
  unfold ListingsService.create
  rw [run_bind]
  rcases validateUser_leaves userId store with known | unknown
  · rw [known]
    simp only
    rw [run_bind, run_lift]
    cases prepareListingData (given createDto) with
    | error error => exact Or.inl rfl
    | ok patch =>
        simp only
        rw [run_bind]
        rcases addressFound_leaves environment newAddressNotFound store
          with ran | ⟨address, ran⟩
        · rw [ran]
          exact Or.inl rfl
        · rw [ran]
          exact Or.inr ⟨address, rfl⟩
  · rw [unknown]
    exact Or.inl rfl

/-- What a change of a listing leaves: nothing of it is kept and no page is new, and the row
is as it was or is saved for the same owner. -/
structure SearchStore.Changed (store after : SearchStore) (listingId : Nat) : Prop where
  clock : after.clock = store.clock
  pages : ∀ key entry, after.pages key = some entry → store.pages key = some entry
  cache : after.listingCache = Function.update store.listingCache listingId none
  listings : after.listings = store.listings ∨ ∃ stored patch,
    store.listings.find? listingId = some stored ∧ patch .user = none ∧
      after.listings = store.listings.save ⟨listingId, assign stored.row patch⟩

/-- A row with tariffs stays as it is. -/
def SearchStore.KeepsPriced (store after : SearchStore) (listingId : Nat) : Prop :=
  StoredListing.hasPricings store.listings listingId = true → after.listings = store.listings

/-- What a call leaves that changes one listing: it has loaded the listing, and then failed or
changed it, but for a row with tariffs. -/
def SearchStore.ChangesListing (store after : SearchStore) (listingId : Nat) : Prop :=
  ∃ loaded, store.Loaded loaded ∧
    (loaded = after ∨ loaded.Changed after listingId ∧ loaded.KeepsPriced after listingId)

theorem run_saveLoaded_priced {listing : StoredListing}
    (priced : StoredListing.hasPricings store.listings listing.id = true) :
    run (saveLoaded listing) store = (.error pricingWithoutListing, store) := by
  unfold saveLoaded
  rw [run_updates, if_pos priced]

theorem run_saveLoaded_bare {listing : StoredListing}
    (bare : ¬ StoredListing.hasPricings store.listings listing.id = true) :
    run (saveLoaded listing) store = (.ok listing, store.save listing) := by
  unfold saveLoaded
  rw [run_updates, if_neg bare]

theorem updateListing_spec (current : store.Current) (environment : SearchEnvironment)
    (listingId : Nat) (updateDto : UpdateListingDto) :
    store.ChangesListing
      (run (ListingsService.update environment listingId updateDto) store).2 listingId := by
  unfold ListingsService.update
  rw [run_bind]
  rcases loadWithCache_spec current environment listingId with
    ⟨error, ran⟩ | ⟨stored, loaded, found, ran, keeps⟩
  · rw [ran]
    exact ⟨store, .refl store, Or.inl rfl⟩
  · rw [ran]
    simp only
    rw [run_bind]
    refine ⟨loaded, keeps, ?_⟩
    rcases updatedColumns_spec environment updateDto loaded with
      ⟨error, prepared⟩ | ⟨patch, prepared, owner⟩
    · rw [prepared]
      exact Or.inl rfl
    · rw [prepared]
      right
      simp only [deletePages, run_bind, run_updates]
      by_cases priced : StoredListing.hasPricings loaded.listings listingId = true
      · rw [run_saveLoaded_priced priced]
        exact ⟨⟨rfl, fun _ _ => kept_of_deleteMatching, rfl, Or.inl rfl⟩, fun _ => rfl⟩
      · rw [run_saveLoaded_bare priced]
        rw [← keeps.listings] at found
        constructor
        · exact ⟨rfl, fun _ _ => kept_of_deleteMatching, rfl,
            Or.inr ⟨stored, patch, found, owner, rfl⟩⟩
        · exact fun bare => absurd bare priced

theorem updateListingStatus_spec (current : store.Current)
    (environment : SearchEnvironment) (listingId : Nat)
    (newStatus : ListingStatus) :
    store.ChangesListing
      (run (ListingsService.updateStatus environment listingId newStatus) store).2
      listingId := by
  unfold ListingsService.updateStatus
  rw [run_bind]
  rcases loadWithCache_spec current environment listingId with
    ⟨error, ran⟩ | ⟨stored, loaded, found, ran, keeps⟩
  · rw [ran]
    exact ⟨store, .refl store, Or.inl rfl⟩
  · rw [ran]
    refine ⟨loaded, keeps, ?_⟩
    simp only
    split
    · exact Or.inl rfl
    · rw [run_bind]
      by_cases priced : StoredListing.hasPricings loaded.listings listingId = true
      · rw [run_saveLoaded_priced priced]
        exact Or.inl rfl
      · rw [run_saveLoaded_bare priced]
        rw [← keeps.listings] at found
        simp only [run_bind, run_updates]
        right
        constructor
        · split
          · exact ⟨rfl, fun _ _ => kept_of_deleteMatching, rfl,
              Or.inr ⟨stored, _, found, rfl, rfl⟩⟩
          · exact ⟨rfl, fun _ _ kept => kept, rfl, Or.inr ⟨stored, _, found, rfl, rfl⟩⟩
        · exact fun bare => absurd bare priced

/-- A search leaves the store, or keeps the page that it has found. -/
theorem searchListings_spec (space : String) (environment : SearchEnvironment)
    (searchDto : SearchListingsDto) (userId : Option Nat) (store : SearchStore) :
    (∃ error, run (findAllWithCache space environment searchDto userId) store =
        (.error error, store)) ∨
      (∃ key page, get environment.now (store.pages key) = some page ∧
        run (findAllWithCache space environment searchDto userId) store =
          (.ok page, store)) ∨
      ∃ page, run (findAll environment searchDto userId) store =
          (.ok page, store) ∧
        (run (findAllWithCache space environment searchDto userId) store =
            (.ok page, store) ∨
          ∃ key ttlSec, cachePlace searchDto userId = some (key, ttlSec) ∧
            run (findAllWithCache space environment searchDto userId) store =
              (.ok page, (SearchStore.pageSlot (space ++ key)).write
                (entry environment.now ttlSec page) store)) := by
  have answered : ∃ page,
      run (findAll environment searchDto userId) store = (.ok page, store) :=
    ⟨_, rfl⟩
  obtain ⟨page, answered⟩ := answered
  have exists_or_throws : run (userId.forM validateUser) store = (.ok (), store) ∨
      ∃ error, run (userId.forM validateUser) store = (.error error, store) := by
    cases userId with
    | none => exact Or.inl rfl
    | some userId =>
        exact (validateUser_leaves userId store).imp_right fun unknown =>
          ⟨_, unknown⟩
  unfold findAllWithCache
  rw [run_bind]
  rcases exists_or_throws with ran | ⟨error, ran⟩
  · rw [ran]
    right
    simp only
    cases placed : cachePlace searchDto userId with
    | none => exact Or.inr ⟨page, answered, Or.inl answered⟩
    | some place =>
        obtain ⟨key, ttlSec⟩ := place
        cases hit : RedisService.get environment.now
            (store.pages (space ++ key)) with
        | some kept =>
            exact Or.inl ⟨space ++ key, kept, hit, run_getOrSetValue_hit hit⟩
        | none =>
            exact Or.inr ⟨page, answered, Or.inr ⟨key, ttlSec, rfl,
              run_getOrSetValue_miss hit answered⟩⟩
  · rw [ran]
    exact Or.inl ⟨error, rfl⟩

/-- A search among the active listings finds active listings with tariffs. -/
theorem shows_of_findAll {environment : SearchEnvironment}
    {searchDto : SearchListingsDto} {userId : Option Nat}
    {page : PaginatedListingsDto} (among : searchDto.status = some .active)
    (found : run (findAll environment searchDto userId) store =
      (.ok page, store)) :
    ∀ listing ∈ page.listings, store.ShowsListing listing.id := by
  obtain rfl := Except.ok.inj (congrArg Prod.fst found)
  intro listing onPage
  simp only [List.mem_map] at onPage
  obtain ⟨stored, taken, rfl⟩ := onPage
  have matching := (environment.perm searchDto _).mem_iff.mp
    (List.mem_of_mem_drop (List.mem_of_mem_take taken))
  obtain ⟨inTable, meets⟩ := List.mem_filter.mp matching
  simp only [buildSearchQuery, Bool.and_eq_true, among, Option.all_some,
    beq_iff_eq] at meets
  obtain ⟨⟨⟨_, active⟩, _⟩, priced⟩ := meets
  have located := store.listings.find?_key_of_mem inTable
  refine ⟨stored, located, active, ?_⟩
  obtain ⟨pricing, present, _⟩ := List.any_eq_true.mp priced
  have some_ : List.isEmpty (stored.row .pricings) = false :=
    List.isEmpty_eq_false_iff_exists_mem.mpr ⟨pricing, present⟩
  unfold StoredListing.hasPricings joined
  rw [located, Option.any_some, some_]
  rfl

end Calls

section Steps

variable {space : String} {store : SearchStore}

/-- A change to one listing after which nothing is kept under its id. -/
theorem SearchStore.Current.deleted {after : SearchStore} {listingId : Nat}
    (current : store.Current)
    (cache : after.listingCache =
      Function.update store.listingCache listingId none)
    (others : ∀ other, other ≠ listingId →
      after.listings.find? other = store.listings.find? other) :
    after.Current := by
  intro other entry cached
  rw [cache, Function.update_apply] at cached
  split at cached
  · contradiction
  · next different =>
      rw [others other different]
      exact current other entry cached

/-- The other listings stay as they are. -/
theorem SearchStore.Changed.others {after : SearchStore} {listingId : Nat}
    (changed : store.Changed after listingId) {other : Nat} (different : other ≠ listingId) :
    after.listings.find? other = store.listings.find? other := by
  rcases changed.listings with same | ⟨stored, patch, _, _, saved⟩
  · rw [same]
  · rw [saved, KeyedTable.find?_save, if_neg different]

theorem SearchStore.Changed.current {after : SearchStore} {listingId : Nat}
    (changed : store.Changed after listingId) (current : store.Current) : after.Current :=
  current.deleted changed.cache fun _ different => changed.others different

theorem ShowsActive.changed {after : SearchStore} {listingId : Nat}
    (shows : ShowsActive store) (changed : store.Changed after listingId)
    (kept : store.KeepsPriced after listingId) : ShowsActive after := by
  refine shows.change (le_of_eq changed.clock.symm) (changed.current shows.current)
    changed.pages fun other priced => ?_
  by_cases same : other = listingId
  · rw [kept (same ▸ priced)]
  · exact changed.others same

theorem ShowsActive.changesListing {after : SearchStore} {listingId : Nat}
    (shows : ShowsActive store) (changes : store.ChangesListing after listingId) :
    ShowsActive after := by
  obtain ⟨loaded, keeps, same | ⟨changed, kept⟩⟩ := changes
  · exact same ▸ shows.loaded keeps
  · exact (shows.loaded keeps).changed changed kept

/-- A new listing leaves the others as they are. -/
theorem SearchStore.find?_inserted {id : Nat} {stored : StoredListing}
    (found : store.listings.find? id = some stored) (pattern : String)
    (row : ListingRow) :
    ((store.deleteByPattern pattern).insert row).listings.find? id = some stored := by
  have old := store.listings.lt_of_find? found
  rw [SearchStore.find?_insert, SearchStore.listings_deleteByPattern,
    if_neg (Nat.ne_of_lt old)]
  exact found

theorem SearchStore.Current.inserted (current : store.Current) (pattern : String)
    (row : ListingRow) : ((store.deleteByPattern pattern).insert row).Current := by
  intro id entry cached
  rw [SearchStore.listingCache_insert, SearchStore.listingCache_deleteByPattern] at cached
  exact SearchStore.find?_inserted (current id entry cached) pattern row

theorem ShowsActive.create (shows : ShowsActive store)
    (environment : SearchEnvironment) (userId : Nat)
    (createDto : CreateListingDto) :
    ShowsActive (run (ListingsService.create environment userId createDto) store).2 := by
  rcases createListing_spec environment userId createDto store with
    same | ⟨address, inserted⟩
  · rw [same]
    exact shows
  · rw [inserted]
    refine shows.change (by simp) (shows.current.inserted _ _)
      (fun _ _ => kept_of_deleteMatching) fun listingId priced => ?_
    obtain ⟨stored, found, _⟩ := (Option.any_eq_true _ _).mp priced
    rw [found]
    exact SearchStore.find?_inserted found _ _

theorem ShowsActive.update (shows : ShowsActive store)
    (environment : SearchEnvironment) (listingId : Nat)
    (updateDto : UpdateListingDto) :
    ShowsActive (run (ListingsService.update environment listingId updateDto) store).2 :=
  shows.changesListing
    (updateListing_spec shows.current environment listingId updateDto)

theorem ShowsActive.updateStatus (shows : ShowsActive store)
    (environment : SearchEnvironment) (listingId : Nat)
    (newStatus : ListingStatus) :
    ShowsActive
      (run (ListingsService.updateStatus environment listingId newStatus) store).2 :=
  shows.changesListing
    (updateListingStatus_spec shows.current environment listingId newStatus)

theorem ShowsActive.findAllWithCache (shows : ShowsActive store)
    (environment : SearchEnvironment) (searchDto : SearchListingsDto)
    (userId : Option Nat) (among : searchDto.status = some .active) :
    ShowsActive (run (ListingsService.findAllWithCache space environment
      searchDto userId) store).2 := by
  rcases searchListings_spec space environment searchDto userId store with
    ⟨error, ran⟩ | ⟨_, page, _, ran⟩ | ⟨page, found, ran | ⟨key, ttlSec, placed, ran⟩⟩
  · rw [ran]
    exact shows
  · rw [ran]
    exact shows
  · rw [ran]
    exact shows
  · rw [ran]
    refine ⟨shows.current, fun other shownPage hit => ?_⟩
    simp only [SearchStore.pageSlot, Function.update_apply] at hit
    split at hit
    · obtain ⟨_, cached, _⟩ := eq_of_get hit
      obtain rfl : shownPage = page :=
        (congrArg CacheEntry.value (Option.some.inj cached)).symm
      have shown : ∀ listing ∈ shownPage.listings, store.ShowsListing listing.id :=
        shows_of_findAll among found
      exact shown
    · exact shows.shown other shownPage hit

/-- A search answers with active listings. -/
theorem ShowsActive.answer (shows : ShowsActive store)
    {environment : SearchEnvironment} {searchDto : SearchListingsDto}
    {userId : Option Nat} {page : PaginatedListingsDto}
    (passed : store.clock ≤ environment.now)
    (among : searchDto.status = some .active)
    (answered : (run (ListingsService.findAllWithCache space environment searchDto
      userId) store).1 = .ok page) :
    ∀ listing ∈ page.listings, ∃ stored,
      store.listings.find? listing.id = some stored ∧
        stored.row .status = ListingStatus.active := by
  suffices ∀ listing ∈ page.listings, store.ShowsListing listing.id from
    fun listing onPage =>
      let ⟨stored, found, active, _⟩ := this listing onPage
      ⟨stored, found, active⟩
  rcases searchListings_spec space environment searchDto userId store with
    ⟨error, ran⟩ | ⟨key, kept, hit, ran⟩ |
      ⟨fresh, found, ran | ⟨key, ttlSec, placed, ran⟩⟩
  · rw [ran] at answered
    contradiction
  · rw [ran] at answered
    obtain rfl := Except.ok.inj answered
    exact shows.shown key kept (get_of_get passed hit)
  all_goals
    rw [ran] at answered
    obtain rfl := Except.ok.inj answered
    exact shows_of_findAll among found

theorem ShowsActive.step (shows : ShowsActive store)
    {label : SearchEnvironment × ListingsRequest} {after : SearchStore}
    (taken : requestStep space store label = some after) : ShowsActive after := by
  obtain ⟨environment, request⟩ := label
  simp only [requestStep] at taken
  split at taken
  · next passed =>
      obtain rfl := Option.some.inj taken
      have shows := shows.withClock passed
      cases request with
      | create userId createDto => exact shows.create environment userId createDto
      | update listingId updateDto =>
          exact shows.update environment listingId updateDto
      | updateStatus listingId newStatus =>
          exact shows.updateStatus environment listingId newStatus
      | findAllActive searchDto =>
          exact shows.findAllWithCache environment _ none rfl
      | findByUser searchDto targetUserId =>
          exact shows.findAllWithCache environment _ (some targetUserId) rfl
  · contradiction

end Steps

/-- Starting without cached values, every search in every state of a run answers with
active listings. -/
theorem searches_find_active {space : String} {start last : SearchStore}
    (noListings : ∀ listingId, start.listingCache listingId = none)
    (noPages : ∀ key, start.pages key = none)
    (reached : Reachable (requestStep space) start last) :
    SearchesActive space last := by
  have atStart : ShowsActive start := by
    constructor
    · intro listingId entry cached
      rw [noListings] at cached
      contradiction
    · intro key page hit
      rw [noPages] at hit
      contradiction
  have shows : ShowsActive last :=
    reached.invariant ShowsActive atStart fun _ _ _ shows _ taken => shows.step taken
  intro environment searchDto page passed answered
  rcases answered with active | ⟨targetUserId, ofUser⟩
  · exact shows.answer passed rfl active
  · exact shows.answer passed rfl ofUser

private def searchEnvironment (now : Int) : SearchEnvironment where
  now := now
  address := none
  similar := fun _ _ => false
  within := fun _ _ _ _ => false
  order := fun _ listings => listings
  perm := fun _ _ => List.Perm.refl _

private def garageDto : CreateListingDto :=
  ⟨.garage, "Garage", none, [⟨500, .day⟩], ⟨37, 55⟩, none, none, none, []⟩

/-- User 1 has two active garages, the second without tariffs, and nothing is cached. -/
private def searchStart : SearchStore where
  users := [1]
  listings := (KeyedTable.empty.insert
    (fun id => ⟨id, createdRow 1 garageDto "Moscow"⟩) fun _ => rfl).insert
    (fun id => ⟨id, createdRow 1 { garageDto with pricings := [] } "Moscow"⟩) fun _ => rfl
  listingCache := fun _ => none
  pages := fun _ => none
  clock := 0

private def garagesDto : SearchListingsDto :=
  ⟨none, none, some [.garage], none, none, none, none, none, none, none, 10, 0,
    by decide⟩

private def anyListingsDto : SearchListingsDto :=
  ⟨none, none, none, none, none, none, none, none, none, none, 10, 0, by decide⟩

private def searchMoves : List (SearchEnvironment × ListingsRequest) :=
  [(searchEnvironment 0, .findAllActive garagesDto),
    (searchEnvironment 0, .findByUser anyListingsDto 1),
    (searchEnvironment 1000, .updateStatus 1 .inactive),
    (searchEnvironment 2000, .updateStatus 2 .inactive),
    (searchEnvironment 3000, .update 2 ⟨none, none, none, some [⟨300, .hour⟩], none, none,
      none, none, none⟩),
    (searchEnvironment 4000, .updateStatus 2 .active),
    (searchEnvironment 900000, .findAllActive garagesDto)]

/-- The garages of user 1 are searched and cached; the one with a tariff cannot be taken
off, the other is, gains a tariff and cannot be made active again. -/
theorem searches_find_active_sample :
    ∃ last, Reachable (requestStep "keyv:") searchStart last ∧
      SearchesActive "keyv:" last ∧
      last.listings.rows.map (fun listing => listing.row .status) =
        [ListingStatus.active, ListingStatus.inactive] ∧
      last.listings.rows.map (fun listing => List.length (listing.row .pricings)) =
        [1, 1] := by
  have reached := reachable_of_execute (requestStep "keyv:") searchStart searchMoves rfl
  exact ⟨_, reached, searches_find_active (fun _ => rfl) (fun _ => rfl) reached, rfl, rfl⟩

end SpareSpace
