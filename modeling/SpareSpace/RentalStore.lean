import SpareSpace.ActiveSearch
import SpareSpace.BookingOutcomes

/-!
# Bookings beside the store of the listings

The tables that bookings touch together with the store of the listings service: the
listings that bookings join are its rows, and a creation reads its listing through its
cache.  Every call is run to its end, so what is kept under `listing:{id}` stays the
stored listing.
-/

namespace SpareSpace

open ColumnRecords Fallible ListingsService

namespace StoredListing

/-- A listing as bookings load it. -/
def entity (stored : StoredListing) : Listing where
  id := stored.id
  userId := stored.row .user
  pricings := stored.row .pricings
  availability := stored.row .availability
  status := stored.row .status

def entities (table : KeyedTable StoredListing StoredListing.id) :
    KeyedTable Listing Listing.id where
  rows := table.rows.map entity
  nextId := table.nextId
  nodup := by
    rw [List.map_map]
    exact table.nodup
  fresh := by
    intro listing listingMem
    obtain ⟨stored, storedMem, rfl⟩ := List.mem_map.mp listingMem
    exact table.fresh stored storedMem

@[simp]
theorem find?_entities (table : KeyedTable StoredListing StoredListing.id) (id : Nat) :
    (entities table).find? id = (table.find? id).map entity :=
  List.find?_map

end StoredListing

open StoredListing

/-- The tables with other listings, in which those of the bookings are stored. -/
def Backend.withListings (backend : Backend) (listings : KeyedTable Listing Listing.id)
    (known : ∀ id, (backend.listings.find? id).isSome → (listings.find? id).isSome) :
    Backend where
  __ := backend
  listings := listings
  listing_stored booking bookingMem :=
    known booking.listingId (backend.listing_stored booking bookingMem)
  booking_stored := backend.booking_stored

structure RentalStore where
  search : SearchStore
  backend : Backend
  current : search.Current
  joined : backend.listings = entities search.listings

/-- The calls that write bookings, of which the requests and the jobs are made, a read
of a listing through its cache, the calls of the listings service, and an edit of a
listing that the database takes whatever tariffs are stored. -/
inductive RentalCall
  | create (renterId : Nat) (dto : CreateBookingDto)
  | updatePeriod (bookingId : Nat) (dto : UpdateBookingPeriodDto)
  | updateStatus (bookingId : Nat) (newStatus : BookingStatus)
  | delete (bookingId : Nat)
  | findByIdWithCache (listingId : Nat)
  | listings (request : ListingsRequest)
  | editListing (listingId : Nat) (updateDto : UpdateListingDto)

namespace BookingsService

variable (zone : Zone) (environment : Environment) (backend : Backend)

/-- A period update saves the loaded booking with its changes, or nothing. -/
theorem updatePeriod_saves (bookingId : Nat) (dto : UpdateBookingPeriodDto) :
    (run (updatePeriod zone environment bookingId dto) backend).2 = backend ∨
      ∃ loaded booking known, backend.findById bookingId = .ok loaded ∧
        checkWholeMinute zone dto.startDate = .ok () ∧
          changeTariff loaded dto.pricePeriod = .ok booking ∧
            (run (updatePeriod zone environment bookingId dto) backend).2 =
              backend.withSaved (changePeriod zone dto booking) known := by
  unfold updatePeriod
  simp only [run_bind, run_lift, run_reads, run_findById]
  cases minute : checkWholeMinute zone dto.startDate with
  | error error => exact Or.inl rfl
  | ok _ =>
  simp only
  cases found : backend.findById bookingId with
  | error error => exact Or.inl rfl
  | ok loaded =>
  simp only
  cases changed : changeTariff loaded dto.pricePeriod with
  | error error => exact Or.inl rfl
  | ok booking =>
  simp only
  cases validateBookingDates backend environment.now
      (changePeriod zone dto booking).period loaded.listing.id
      loaded.listing.availability (some bookingId) with
  | error error => exact Or.inl rfl
  | ok _ =>
  obtain ⟨known, saved⟩ := @run_save _ _ _ (changePeriod zone dto booking) found
    (BookingsHandler.changeTariff_identity changed).2.1
  exact Or.inr ⟨loaded, booking, known, rfl, trivial, changed, by simp [saved]⟩

theorem listings_create (renterId : Nat) (dto : CreateBookingDto) :
    (run (create zone environment renterId dto) backend).2.listings =
      backend.listings := by
  rcases BookingsHandler.create_service_passes zone environment backend renterId dto with
    ⟨error, ran⟩ | ⟨listing, pricing, known, loaded, _, _, _, _, _, _, ran⟩
  · rw [ran]
  · rw [ran]
    rfl

theorem listings_updatePeriod (bookingId : Nat) (dto : UpdateBookingPeriodDto) :
    (run (updatePeriod zone environment bookingId dto) backend).2.listings =
      backend.listings := by
  rcases updatePeriod_saves zone environment backend bookingId dto with
    same | ⟨loaded, booking, known, _, _, _, ran⟩
  · rw [same]
  · rw [ran]
    rfl

theorem listings_updateStatus (bookingId : Nat) (newStatus : BookingStatus) :
    (run (updateStatus bookingId newStatus) backend).2.listings = backend.listings := by
  rcases run_updateStatus backend bookingId newStatus with
    ⟨error, _, ran⟩ | ⟨loaded, known, _, ran⟩
  · rw [ran]
  · rw [ran]
    rfl

end BookingsService

/-- Cached listings are current, and no listing has gone. -/
def SearchStore.Keeps (before after : SearchStore) : Prop :=
  after.Current ∧ ∀ id, (before.listings.find? id).isSome →
    (after.listings.find? id).isSome

section Keeps

variable {store : SearchStore} {environment : SearchEnvironment}

theorem SearchStore.Keeps.of_listings {after : SearchStore}
    (listings : after.listings = store.listings) (current : after.Current) :
    store.Keeps after :=
  ⟨current, fun _ => listings ▸ fun stored => stored⟩

theorem ListingsService.keeps_findAllWithCache (current : store.Current) (space : String)
    (searchDto : SearchListingsDto) (userId : Option Nat) :
    store.Keeps (run (findAllWithCache space environment searchDto userId) store).2 := by
  rcases searchListings_spec space environment searchDto userId store with
    ⟨error, ran⟩ | ⟨_, page, _, ran⟩ | ⟨page, found, ran | ⟨key, ttlSec, placed, ran⟩⟩
  all_goals
    rw [ran]
    exact .of_listings rfl current

theorem ListingsService.keeps_create (current : store.Current) (userId : Nat)
    (createDto : CreateListingDto) :
    store.Keeps (run (create environment userId createDto) store).2 := by
  rcases createListing_spec environment userId createDto store with ran | ⟨address, ran⟩
  · rw [ran]
    exact .of_listings rfl current
  · rw [ran]
    refine ⟨current.inserted _ _, fun id stored => ?_⟩
    obtain ⟨listing, found⟩ := Option.isSome_iff_exists.mp stored
    rw [SearchStore.find?_inserted found]
    rfl

theorem SearchStore.Changed.keeps {after : SearchStore} {listingId : Nat}
    (changed : store.Changed after listingId) (current : store.Current) :
    store.Keeps after := by
  refine ⟨changed.current current, fun id known => ?_⟩
  rcases changed.listings with same | ⟨stored, patch, _, _, saved⟩
  · rw [same]
    exact known
  · rw [saved, KeyedTable.find?_save]
    split
    · rfl
    · exact known

theorem SearchStore.Loaded.keeps {loaded after : SearchStore} {listingId : Nat}
    (loads : store.Loaded loaded) (current : store.Current)
    (last : loaded = after ∨ loaded.Changed after listingId) : store.Keeps after := by
  have cached := loads.current current
  rcases last with rfl | changed
  · exact .of_listings loads.listings cached
  · have keeps := changed.keeps cached
    exact ⟨keeps.1, fun id => loads.listings ▸ keeps.2 id⟩

theorem ListingsService.keeps_update (current : store.Current) (listingId : Nat)
    (updateDto : UpdateListingDto) :
    store.Keeps (run (update environment listingId updateDto) store).2 := by
  obtain ⟨loaded, loads, last⟩ := updateListing_spec current environment listingId updateDto
  exact loads.keeps current (last.imp_right And.left)

theorem ListingsService.keeps_updateStatus (current : store.Current) (listingId : Nat)
    (newStatus : ListingStatus) :
    store.Keeps (run (updateStatus environment listingId newStatus) store).2 := by
  obtain ⟨loaded, loads, last⟩ :=
    updateListingStatus_spec current environment listingId newStatus
  exact loads.keeps current (last.imp_right And.left)

/-- A call of the listings service keeps cached listings current and removes no
listing. -/
theorem ListingsRequest.after_keeps (current : store.Current) (space : String)
    (environment : SearchEnvironment) (request : ListingsRequest) :
    store.Keeps (request.after space environment store) := by
  cases request with
  | create userId createDto => exact keeps_create current userId createDto
  | update listingId updateDto => exact keeps_update current listingId updateDto
  | updateStatus listingId newStatus => exact keeps_updateStatus current listingId newStatus
  | findAllActive searchDto => exact keeps_findAllWithCache current space _ none
  | findByUser searchDto targetUserId =>
      exact keeps_findAllWithCache current space _ (some targetUserId)

/-- The store after an edit of a stored listing has been saved. -/
def SearchStore.edited (store : SearchStore) (listingId : Nat)
    (updateDto : UpdateListingDto) : SearchStore :=
  match store.listings.find? listingId with
  | none => store
  | some stored =>
      (store.deleteListing listingId).save
        ⟨listingId, assign stored.row (editedColumns updateDto)⟩

theorem SearchStore.changed_edited (store : SearchStore) (listingId : Nat)
    (updateDto : UpdateListingDto) :
    store = store.edited listingId updateDto ∨
      store.Changed (store.edited listingId updateDto) listingId := by
  unfold SearchStore.edited
  split
  · exact Or.inl rfl
  · next stored found =>
      exact Or.inr ⟨rfl, fun _ _ kept => kept, rfl, Or.inr ⟨stored, _, found, rfl, rfl⟩⟩

theorem SearchStore.keeps_edited (current : store.Current) (listingId : Nat)
    (updateDto : UpdateListingDto) : store.Keeps (store.edited listingId updateDto) :=
  (SearchStore.Loaded.refl store).keeps current (store.changed_edited listingId updateDto)

end Keeps

/-- `findByIdWithCache` keeps cached listings current and reads the table. -/
theorem ListingsService.load_keeps {store : SearchStore} (current : store.Current)
    (environment : SearchEnvironment) (listingId : Nat) :
    (run (loadWithCache environment listingId) store).2.Current ∧
      (run (loadWithCache environment listingId) store).2.listings = store.listings := by
  rcases loadWithCache_spec current environment listingId with
    ⟨error, ran⟩ | ⟨stored, after, _, ran, loaded⟩
  · rw [ran]
    exact ⟨current, rfl⟩
  · rw [ran]
    exact ⟨loaded.current current, loaded.listings⟩

namespace RentalStore

variable (store : RentalStore)

/-- What a call on bookings finds outside its tables. -/
def environment (now : Int) : Environment where
  now := now
  listingCache listingId :=
    (RedisService.get now (store.search.listingCache listingId)).map entity
  walletAborts := false

/-- The store with the booking tables that a call has left. -/
def withBackend (after : Backend) (kept : after.listings = store.backend.listings) :
    RentalStore where
  search := store.search
  backend := after
  current := store.current
  joined := kept.trans store.joined

/-- The store after a listing has been read through the cache. -/
def load (environment : SearchEnvironment) (listingId : Nat) : RentalStore where
  search := (run (loadWithCache environment listingId) store.search).2
  backend := store.backend
  current := (load_keeps store.current environment listingId).1
  joined := by
    rw [(load_keeps store.current environment listingId).2]
    exact store.joined

/-- The store with listings that a call has left. -/
def withSearch (search : SearchStore) (kept : store.search.Keeps search) : RentalStore where
  search := search
  backend := store.backend.withListings (entities search.listings) fun id stored => by
    rw [store.joined] at stored
    simp only [find?_entities, Option.isSome_map] at stored ⊢
    exact kept.2 id stored
  current := kept.1
  joined := rfl

variable {store}

/-- What `findByIdWithCache` answers a call on bookings is the stored listing. -/
theorem find?_of_findByIdWithCache {now : Int} {listingId : Nat} {listing : Listing}
    (found : store.backend.findByIdWithCache (store.environment now) listingId =
      .ok listing) : store.backend.listings.find? listingId = some listing := by
  unfold Backend.findByIdWithCache environment at found
  cases hit : RedisService.get now (store.search.listingCache listingId) with
  | some cached =>
      obtain ⟨_, kept, _⟩ := RedisService.eq_of_get hit
      simp only [hit, Option.map_some, Except.ok.injEq] at found
      rw [store.joined, find?_entities, store.current listingId _ kept]
      exact congrArg some found
  | none =>
      simp only [hit, Option.map_none] at found
      split at found
      · next stored => exact stored.trans (congrArg some (Except.ok.inj found))
      · contradiction

end RentalStore

/-- The store that a whole call leaves, whatever it returned.  A creation reads its
listing through the cache first. -/
def RentalCall.after (zone : Zone) (space : String) (environment : SearchEnvironment)
    (store : RentalStore) : RentalCall → RentalStore
  | create renterId dto =>
      (store.load environment dto.listingId).withBackend
        (run (BookingsService.create zone (store.environment environment.now) renterId
          dto) store.backend).2
        (BookingsService.listings_create zone _ store.backend renterId dto)
  | updatePeriod bookingId dto =>
      store.withBackend
        (run (BookingsService.updatePeriod zone (store.environment environment.now)
          bookingId dto) store.backend).2
        (BookingsService.listings_updatePeriod zone _ store.backend bookingId dto)
  | updateStatus bookingId newStatus =>
      store.withBackend
        (run (BookingsService.updateStatus bookingId newStatus) store.backend).2
        (BookingsService.listings_updateStatus store.backend bookingId newStatus)
  | delete bookingId => store.withBackend (store.backend.removeBooking bookingId) rfl
  | findByIdWithCache listingId => store.load environment listingId
  | listings request =>
      store.withSearch (request.after space environment store.search)
        (request.after_keeps store.current space environment)
  | editListing listingId updateDto =>
      store.withSearch (store.search.edited listingId updateDto)
        (SearchStore.keeps_edited store.current listingId updateDto)

/-- One whole call after another. -/
def rentalStep (zone : Zone) (space : String) (store : RentalStore)
    (label : SearchEnvironment × RentalCall) : Option RentalStore :=
  some (label.2.after zone space label.1 store)

end SpareSpace
