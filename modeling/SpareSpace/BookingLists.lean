import SpareSpace.BookingTerms
import SpareSpace.PagedQueries
import SpareSpace.ReviewsService
import SpareSpace.TelegramPagination

/-!
# The parties of a booking, and who is shown it

A booking has a renter and, through its listing, a landlord.  Nobody books an own listing,
neither party ever changes, and the lists and the details of bookings are shown to the two
parties only.  The default list of a user is made up of the bookings as a renter and those
as a landlord.
-/

namespace SpareSpace

open ColumnRecords Fallible ListingsService PagedQueries TransitionRuns

/-- The owner of a listing. -/
def Backend.landlord (backend : Backend) (listingId : Nat) : Option Nat :=
  (backend.listings.find? listingId).map Listing.userId

structure SearchBookingsDto where
  status : Option BookingStatus
  userRole : Option UserRoleType
  limit : Nat
  offset : Nat
  deriving DecidableEq, Repr

namespace BookingsService

variable (backend : Backend) (userId : Nat)

/-- The rows that `findAll` asks for; every role but the two, and no role, asks for the
bookings of both. -/
def selects (searchDto : SearchBookingsDto) (booking : Booking) : Bool :=
  let baseFilters := searchDto.status.all fun status => booking.status == status
  let renter := booking.renterId == userId
  let landlord := backend.landlord booking.listingId == some userId
  match searchDto.userRole with
  | some .renter => baseFilters && renter
  | some .landlord => baseFilters && landlord
  | some .admin | none => baseFilters && renter || baseFilters && landlord

/-- The time of its last update, by which bookings are ordered, is known of every booking. -/
def findAll {updatedAt : Booking → Int} (latestFirst : Descending updatedAt)
    (searchDto : SearchBookingsDto) : List Booking × Nat :=
  pageAndCount latestFirst
    (backend.bookings.rows.filter (selects backend userId searchDto))
    searchDto.limit searchDto.offset

end BookingsService

/-- `findById` of the handler; the details are of the loaded booking. -/
def BookingsHandler.findById (backend : Backend) (userId bookingId : Nat) :
    Except HttpException LoadedBooking := do
  backend.validateUserParticipation bookingId userId
  backend.findById bookingId

section Steps

/-- The two rows are of one booking, with the same parties. -/
structure Booking.SameParties (old booking : Booking) : Prop where
  id : old.id = booking.id
  listing : old.listingId = booking.listingId
  renter : old.renterId = booking.renterId

/-- What calls do to parties: listings keep their owners, and a booking that is there
afterwards keeps its parties or is a new one, of somebody else's listing. -/
structure Backend.SettlesParties (before after : Backend) : Prop where
  landlords : ∀ listingId userId, before.landlord listingId = some userId →
    after.landlord listingId = some userId
  nextId : before.bookings.nextId ≤ after.bookings.nextId
  rows : ∀ booking ∈ after.bookings.rows,
    (∃ old ∈ before.bookings.rows, old.SameParties booking) ∨
      before.bookings.nextId ≤ booking.id ∧
        ∃ userId, after.landlord booking.listingId = some userId ∧ userId ≠ booking.renterId

variable {before middle after : Backend}

namespace Backend.SettlesParties

theorem refl (backend : Backend) : backend.SettlesParties backend where
  landlords _ _ same := same
  nextId := le_refl _
  rows booking stored := Or.inl ⟨booking, stored, rfl, rfl, rfl⟩

theorem trans (first : before.SettlesParties middle) (second : middle.SettlesParties after) :
    before.SettlesParties after := by
  constructor
  · intro listingId userId owned
    apply second.landlords
    exact first.landlords listingId userId owned
  · exact first.nextId.trans second.nextId
  · intro booking stored
    rcases second.rows booking stored with ⟨old, oldStored, same⟩ | ⟨new, apart⟩
    · rcases first.rows old oldStored with
        ⟨older, olderStored, older_same⟩ | ⟨new, user, owned, apart⟩
      · apply Or.inl
        refine ⟨older, olderStored, ?_, ?_, ?_⟩
        · exact older_same.id.trans same.id
        · exact older_same.listing.trans same.listing
        · exact older_same.renter.trans same.renter
      · rw [same.id] at new
        rw [same.listing] at owned
        rw [same.renter] at apart
        exact Or.inr ⟨new, user, second.landlords _ _ owned, apart⟩
    · exact Or.inr ⟨first.nextId.trans new, apart⟩

/-- Saving a booking with its parties unchanged. -/
theorem of_withSaved {updated old : Booking}
    (known : (before.listings.find? updated.listingId).isSome)
    (stored : old ∈ before.bookings.rows) (same : old.SameParties updated) :
    before.SettlesParties (before.withSaved updated known) := by
  constructor
  · exact fun _ _ owned => owned
  · apply KeyedTable.le_nextId_save
  · intro booking saved
    rcases before.bookings.mem_save_iff.mp saved with rfl | ⟨kept, -⟩
    · exact Or.inl ⟨old, stored, same⟩
    · exact Or.inl ⟨booking, kept, rfl, rfl, rfl⟩

end Backend.SettlesParties

namespace BookingsService

variable {zone : Zone} {environment : Environment} {backend : Backend}

theorem checkListing_ok {renterId : Nat} {listing : Listing}
    (passed : checkListing renterId listing = .ok ()) : listing.userId ≠ renterId := by
  unfold checkListing at passed
  split at passed
  · contradiction
  · split at passed
    · contradiction
    · next other => exact Ne.symm other

theorem settlesParties_create {renterId : Nat} {dto : CreateBookingDto}
    (reads : ∀ listing, backend.findByIdWithCache environment dto.listingId = .ok listing →
      backend.listings.find? dto.listingId = some listing) :
    backend.SettlesParties (run (create zone environment renterId dto) backend).2 := by
  rcases BookingsHandler.create_service_passes zone environment backend renterId dto with
    ⟨error, ran⟩ | ⟨listing, pricing, known, loaded, found, others, -, -, -, -, ran⟩
  · rw [ran]
    apply Backend.SettlesParties.refl
  · rw [ran]
    have located := reads listing found
    have named := backend.listings.key_of_find? located
    constructor
    · exact fun _ _ owned => owned
    · exact Nat.le_succ _
    · intro booking stored
      rcases (backend.bookings.mem_insert_iff _ (BookingDraft.row_id _)).mp stored with old | rfl
      · exact Or.inl ⟨booking, old, rfl, rfl, rfl⟩
      · apply Or.inr
        refine ⟨le_refl _, listing.userId, ?_, checkListing_ok others⟩
        change (backend.listings.find? listing.id).map Listing.userId = _
        rw [← named] at located
        rw [located]
        rfl

theorem settlesParties_updatePeriod {bookingId : Nat} {dto : UpdateBookingPeriodDto} :
    backend.SettlesParties (run (updatePeriod zone environment bookingId dto) backend).2 := by
  rcases updatePeriod_saves zone environment backend bookingId dto with
    same | ⟨loaded, changed, known, found, minute, tariff, ran⟩
  · rw [same]
    apply Backend.SettlesParties.refl
  · rw [ran]
    have located := (Backend.findById_ok_iff.mp found).1
    obtain ⟨named, listing, renter, -⟩ := BookingsHandler.changeTariff_identity tariff
    apply Backend.SettlesParties.of_withSaved known (backend.bookings.mem_of_find? located)
    exact ⟨named.symm, listing.symm, renter.symm⟩

theorem settlesParties_updateStatus {bookingId : Nat} {newStatus : BookingStatus} :
    backend.SettlesParties (run (updateStatus bookingId newStatus) backend).2 := by
  rcases run_updateStatus backend bookingId newStatus with
    ⟨error, -, ran⟩ | ⟨loaded, known, found, ran⟩
  · rw [ran]
    apply Backend.SettlesParties.refl
  · rw [ran]
    have located := (Backend.findById_ok_iff.mp found).1
    apply Backend.SettlesParties.of_withSaved known (backend.bookings.mem_of_find? located)
    exact ⟨rfl, rfl, rfl⟩

end BookingsService

section Owners

variable {store : SearchStore} {listingId userId : Nat}

/-- The owner of a stored listing. -/
def SearchStore.owner (store : SearchStore) (listingId : Nat) : Option Nat :=
  (store.listings.find? listingId).map fun stored => stored.row .user

theorem SearchStore.owner_of_listings {after : SearchStore}
    (listings : after.listings = store.listings) :
    after.owner listingId = store.owner listingId := by
  unfold SearchStore.owner
  rw [listings]

/-- A change of a listing leaves its owner. -/
theorem SearchStore.Changed.owner {after : SearchStore} {changedId : Nat}
    (changed : store.Changed after changedId) :
    after.owner listingId = store.owner listingId := by
  rcases changed.listings with same | ⟨stored, patch, found, unset, saved⟩
  · exact SearchStore.owner_of_listings same
  · unfold SearchStore.owner
    rw [saved, KeyedTable.find?_save]
    split
    · next same =>
        rw [same, found]
        exact congrArg some (assign_of_none unset)
    · rfl

theorem SearchStore.Loaded.owner {loaded after : SearchStore} {changedId : Nat}
    (loads : store.Loaded loaded) (last : loaded = after ∨ loaded.Changed after changedId) :
    after.owner listingId = store.owner listingId := by
  rw [← SearchStore.owner_of_listings loads.listings]
  rcases last with rfl | changed
  · rfl
  · exact changed.owner

/-- A request to the listings service takes no listing from its owner. -/
theorem ListingsRequest.owner_after (current : store.Current) (space : String)
    (environment : SearchEnvironment) (request : ListingsRequest)
    (owned : store.owner listingId = some userId) :
    (request.after space environment store).owner listingId = some userId := by
  have searched (searchDto : SearchListingsDto) (targetUserId : Option Nat) :
      (run (findAllWithCache space environment searchDto targetUserId) store).2.owner
        listingId = some userId := by
    rcases searchListings_spec space environment searchDto targetUserId store with
      ⟨error, ran⟩ | ⟨_, page, _, ran⟩ | ⟨page, found, ran | ⟨key, ttlSec, placed, ran⟩⟩
    all_goals
      rw [ran]
      exact owned
  cases request with
  | create ownerId createDto =>
      change (run (ListingsService.create environment ownerId createDto) store).2.owner
        listingId = _
      rcases createListing_spec environment ownerId createDto store with ran | ⟨address, ran⟩
      · rw [ran]
        exact owned
      · rw [ran]
        obtain ⟨stored, found, same⟩ := Option.map_eq_some_iff.mp owned
        unfold SearchStore.owner
        rw [SearchStore.find?_inserted found]
        exact congrArg some same
  | update updatedId updateDto =>
      change (run (ListingsService.update environment updatedId updateDto) store).2.owner
        listingId = _
      obtain ⟨loaded, loads, last⟩ := updateListing_spec current environment updatedId updateDto
      rw [loads.owner (last.imp_right And.left)]
      exact owned
  | updateStatus updatedId newStatus =>
      change (run (ListingsService.updateStatus environment updatedId newStatus) store).2.owner
        listingId = _
      obtain ⟨loaded, loads, last⟩ :=
        updateListingStatus_spec current environment updatedId newStatus
      rw [loads.owner (last.imp_right And.left)]
      exact owned
  | findAllActive searchDto => exact searched _ none
  | findByUser searchDto targetUserId => exact searched _ (some targetUserId)

end Owners

variable {zone : Zone} {space : String} {store next start last : RentalStore}

/-- Listings that keep their owners leave the parties of the bookings. -/
theorem settlesParties_withSearch {search : SearchStore} (kept : store.search.Keeps search)
    (owners : ∀ listingId userId, store.search.owner listingId = some userId →
      search.owner listingId = some userId) :
    store.backend.SettlesParties (store.withSearch search kept).backend := by
  have owner (search : SearchStore) (listingId : Nat) :
      ((StoredListing.entities search.listings).find? listingId).map Listing.userId =
        search.owner listingId := by
    rw [StoredListing.find?_entities, Option.map_map]
    rfl
  constructor
  · intro listingId userId owned
    unfold Backend.landlord at owned ⊢
    rw [store.joined, owner] at owned
    change ((StoredListing.entities search.listings).find? listingId).map Listing.userId = _
    rw [owner]
    exact owners listingId userId owned
  · exact le_refl _
  · exact fun booking stored => Or.inl ⟨booking, stored, rfl, rfl, rfl⟩

theorem settlesParties_of_rentalStep {label : SearchEnvironment × RentalCall}
    (taken : rentalStep zone space store label = some next) :
    store.backend.SettlesParties next.backend := by
  obtain ⟨environment, call⟩ := label
  obtain rfl := Option.some.inj taken
  cases call with
  | create renterId dto =>
      apply BookingsService.settlesParties_create
      exact fun listing => RentalStore.find?_of_findByIdWithCache
  | updatePeriod bookingId dto => exact BookingsService.settlesParties_updatePeriod
  | updateStatus bookingId newStatus => exact BookingsService.settlesParties_updateStatus
  | delete bookingId =>
      constructor
      · exact fun _ _ owned => owned
      · exact le_refl _
      · intro booking stored
        exact Or.inl ⟨booking, List.mem_of_mem_filter stored, rfl, rfl, rfl⟩
  | findByIdWithCache listingId => apply Backend.SettlesParties.refl
  | listings request =>
      refine settlesParties_withSearch
        (request.after_keeps store.current space environment) fun listingId userId owned => ?_
      exact request.owner_after store.current space environment owned
  | editListing listingId updateDto =>
      refine settlesParties_withSearch
        (SearchStore.keeps_edited store.current listingId updateDto)
        fun listingId userId owned => ?_
      rw [(SearchStore.Loaded.refl store.search).owner (store.search.changed_edited _ updateDto)]
      exact owned

theorem settlesParties_of_execute {labels : List (SearchEnvironment × RentalCall)}
    (executed : execute (rentalStep zone space) start labels = some last) :
    start.backend.SettlesParties last.backend := by
  induction labels generalizing start with
  | nil =>
      obtain rfl := Option.some.inj executed
      apply Backend.SettlesParties.refl
  | cons label rest ih =>
      have first : start.backend.SettlesParties (label.2.after zone space label.1 start).backend :=
        settlesParties_of_rentalStep rfl
      exact first.trans (ih executed)

end Steps

/-- Pages that are enough for all rows show the rows, in their order. -/
theorem flatMap_pages {Row : Type*} {key : Row → Int} (descending : Descending key)
    {limit pages : Nat} (positive : 0 < limit) (rows : List Row)
    (enough : rows.length ≤ pages * limit) :
    ((List.range pages).flatMap fun page =>
      (pageAndCount descending rows limit (page * limit)).1) = descending.order rows := by
  have covered : (descending.order rows).length ≤ pages * limit :=
    (descending.perm rows).length_eq.trans_le enough
  rw [← flatMap_windows (descending.order rows) covered]
  unfold pageAndCount window
  simp only [if_neg (Nat.ne_of_gt positive)]

/-- The users whose lists for a role show a booking of these parties. -/
def partiesAs (role : Option UserRoleType) (renterId landlordId : Nat) : List Nat :=
  match role with
  | some .renter => [renterId]
  | some .landlord => [landlordId]
  | some .admin | none => [renterId, landlordId]

section Shown

variable {backend : Backend} {booking : Booking} {landlordId userId : Nat}

theorem selects_iff (owned : backend.landlord booking.listingId = some landlordId)
    (searchDto : SearchBookingsDto) :
    BookingsService.selects backend userId searchDto booking = true ↔
      (∀ status, searchDto.status = some status → booking.status = status) ∧
        userId ∈ partiesAs searchDto.userRole booking.renterId landlordId := by
  have renter : (booking.renterId == userId) = true ↔ userId = booking.renterId := by
    rw [beq_iff_eq, eq_comm]
  have landlord : (some landlordId == some userId) = true ↔ userId = landlordId := by
    rw [beq_iff_eq, Option.some_inj, eq_comm]
  have base : (searchDto.status.all fun status => booking.status == status) = true ↔
      ∀ status, searchDto.status = some status → booking.status = status := by
    simp only [Option.all_eq_true, beq_iff_eq]
  unfold BookingsService.selects partiesAs
  rw [owned]
  split
  · rw [Bool.and_eq_true, base, renter, List.mem_singleton]
  · rw [Bool.and_eq_true, base, landlord, List.mem_singleton]
  · rw [Bool.or_eq_true, Bool.and_eq_true, Bool.and_eq_true, base, renter, landlord,
      ← and_or_left, List.mem_cons, List.mem_singleton]
  · rw [Bool.or_eq_true, Bool.and_eq_true, Bool.and_eq_true, base, renter, landlord,
      ← and_or_left, List.mem_cons, List.mem_singleton]

theorem findById_ok_iff_party (stored : booking ∈ backend.bookings.rows)
    (owned : backend.landlord booking.listingId = some landlordId) :
    (∃ loaded, BookingsHandler.findById backend userId booking.id = .ok loaded) ↔
      userId ∈ partiesAs none booking.renterId landlordId := by
  obtain ⟨listing, joined, same⟩ := Option.map_eq_some_iff.mp owned
  have found : backend.findById booking.id = .ok ⟨booking, listing⟩ :=
    Backend.findById_ok_iff.mpr ⟨backend.bookings.find?_key_of_mem stored, joined⟩
  unfold BookingsHandler.findById Backend.validateUserParticipation
  rw [found, partiesAs, List.mem_cons, List.mem_singleton]
  by_cases stranger : booking.renterId ≠ userId ∧ listing.userId ≠ userId
  · constructor
    · rintro ⟨loaded, shown⟩
      simp [bind, Except.bind, stranger] at shown
    · rintro (rfl | rfl)
      · exact absurd rfl stranger.1
      · exact absurd same stranger.2
  · constructor
    · intro
      by_contra neither
      rw [not_or] at neither
      apply stranger
      rw [same]
      exact ⟨Ne.symm neither.1, Ne.symm neither.2⟩
    · intro
      refine ⟨⟨booking, listing⟩, ?_⟩
      simp [bind, Except.bind, pure, Except.pure, stranger]

end Shown

/-- In tables that calls have filled, every booking has a landlord who is not the renter. -/
theorem Backend.SettlesParties.landlord_ne {before after : Backend}
    (settles : before.SettlesParties after) (empty : before.bookings.rows = [])
    {booking : Booking} (stored : booking ∈ after.bookings.rows) :
    ∃ landlordId, after.landlord booking.listingId = some landlordId ∧
      landlordId ≠ booking.renterId := by
  rcases settles.rows booking stored with ⟨old, oldStored, -⟩ | ⟨-, landlordId, owned, apart⟩
  · rw [empty] at oldStored
    contradiction
  · exact ⟨landlordId, owned, apart⟩

/-- A booking that was there before had the parties that it has. -/
theorem Backend.SettlesParties.parties {before after : Backend}
    (settles : before.SettlesParties after) {old booking : Booking}
    (oldStored : old ∈ before.bookings.rows) (stored : booking ∈ after.bookings.rows)
    (same : old.id = booking.id) : old.SameParties booking := by
  rcases settles.rows booking stored with ⟨earlier, earlierStored, parties⟩ | ⟨new, -⟩
  · have itself : earlier = old :=
      before.bookings.eq_of_key_eq earlierStored oldStored (parties.id.trans same.symm)
    rw [← itself]
    exact parties
  · have known := before.bookings.fresh old oldStored
    omega

section Runs

variable {zone : Zone} {space : String} {start middle last : RentalStore}
  {earlier later : List (SearchEnvironment × RentalCall)}

/-- Nobody rents an own listing, and the parties of a booking never change: after any whole
calls from tables without bookings, a booking has a renter and another user as its landlord,
who were its parties ever since it was made.  Its details are shown to these two and to
nobody else, and so is the booking in the lists, for the role that a list is asked for. -/
theorem bookings_shown_to_parties (empty : start.backend.bookings.rows = [])
    (before : execute (rentalStep zone space) start earlier = some middle)
    (executed : execute (rentalStep zone space) middle later = some last)
    {booking : Booking} (stored : booking ∈ last.backend.bookings.rows) :
    ∃ landlordId, landlordId ≠ booking.renterId ∧
      (∀ old ∈ middle.backend.bookings.rows, old.id = booking.id →
        old.renterId = booking.renterId ∧
          middle.backend.landlord old.listingId = some landlordId) ∧
      ∀ userId,
        ((∃ loaded, BookingsHandler.findById last.backend userId booking.id = .ok loaded) ↔
          userId ∈ partiesAs none booking.renterId landlordId) ∧
        ∀ {updatedAt : Booking → Int} (latestFirst : Descending updatedAt)
          (status : Option BookingStatus) (role : Option UserRoleType) (limit : Nat),
          0 < limit →
            ((∃ offset, booking ∈ (BookingsService.findAll last.backend userId latestFirst
                ⟨status, role, limit, offset⟩).1) ↔
              (∀ asked, status = some asked → booking.status = asked) ∧
                userId ∈ partiesAs role booking.renterId landlordId) := by
  have first := settlesParties_of_execute before
  have second := settlesParties_of_execute executed
  obtain ⟨landlordId, owned, apart⟩ := (first.trans second).landlord_ne empty stored
  refine ⟨landlordId, apart, fun old oldStored same => ?_, fun userId => ⟨?_, ?_⟩⟩
  · have parties := second.parties oldStored stored same
    apply And.intro parties.renter
    obtain ⟨oldLandlord, oldOwned, -⟩ := first.landlord_ne empty oldStored
    have still := second.landlords _ _ oldOwned
    rw [parties.listing, owned] at still
    rw [oldOwned, ← still]
  · exact findById_ok_iff_party stored owned
  · intro updatedAt latestFirst status role limit positive
    have selected (offset : Nat) :
        BookingsService.selects last.backend userId ⟨status, role, limit, offset⟩ =
          BookingsService.selects last.backend userId ⟨status, role, limit, 0⟩ :=
      rfl
    unfold BookingsService.findAll
    simp only [selected]
    rw [exists_page_iff latestFirst positive, List.mem_filter, and_iff_right stored]
    exact selects_iff owned ⟨status, role, limit, 0⟩

/-- Rows that meet one of two conditions, and never both. -/
theorem length_filter_or {Row : Type*} {rows : List Row} {first second : Row → Bool}
    (disjoint : ∀ row ∈ rows, first row = true → second row = false) :
    (rows.filter fun row => first row || second row).length =
      (rows.filter first).length + (rows.filter second).length := by
  induction rows with
  | nil => rfl
  | cons row rest ih =>
      have later := ih fun other present => disjoint other (List.mem_cons_of_mem row present)
      have now := disjoint row List.mem_cons_self
      simp only [List.filter_cons]
      cases one : first row with
      | true =>
          rw [now one]
          simp only [Bool.or_false, if_true, Bool.false_eq_true, if_false, List.length_cons]
          omega
      | false =>
          cases second row with
          | true =>
              simp only [Bool.or_true, if_true, Bool.false_eq_true, if_false, List.length_cons]
              omega
          | false => exact later

/-- The default list of a user is made up of the bookings as a renter and of those as a
landlord, and read page after page each list shows what is asked for, once. -/
theorem booking_lists_add_up (empty : start.backend.bookings.rows = [])
    (executed : execute (rentalStep zone space) start later = some last)
    {updatedAt : Booking → Int} (latestFirst : Descending updatedAt) (userId : Nat)
    (status : Option BookingStatus) {limit : Nat} (positive : 0 < limit) :
    (∀ offset,
      (BookingsService.findAll last.backend userId latestFirst
          ⟨status, none, limit, offset⟩).2 =
        (BookingsService.findAll last.backend userId latestFirst
            ⟨status, some .renter, limit, offset⟩).2 +
          (BookingsService.findAll last.backend userId latestFirst
            ⟨status, some .landlord, limit, offset⟩).2) ∧
      ∀ role pages,
        (BookingsService.findAll last.backend userId latestFirst
          ⟨status, role, limit, 0⟩).2 ≤ pages * limit →
        ((List.range pages).flatMap fun page =>
            (BookingsService.findAll last.backend userId latestFirst
              ⟨status, role, limit, page * limit⟩).1).Nodup ∧
          ∀ booking,
            (booking ∈ (List.range pages).flatMap fun page =>
              (BookingsService.findAll last.backend userId latestFirst
                ⟨status, role, limit, page * limit⟩).1) ↔
            booking ∈ last.backend.bookings.rows ∧
              (∀ asked, status = some asked → booking.status = asked) ∧
                ∃ landlordId, last.backend.landlord booking.listingId = some landlordId ∧
                  userId ∈ partiesAs role booking.renterId landlordId := by
  have settles := settlesParties_of_execute executed
  constructor
  · intro offset
    apply length_filter_or
    intro booking stored renter
    obtain ⟨landlordId, owned, apart⟩ := settles.landlord_ne empty stored
    have itself : booking.renterId = userId := eq_of_beq (Bool.and_eq_true_iff.mp renter).2
    have other : (some landlordId == some userId) = false := by
      rw [← itself]
      exact beq_eq_false_iff_ne.mpr fun same => apart (Option.some.inj same)
    simp only [owned, other, Bool.and_false]
  · intro role pages enough
    have shown : ((List.range pages).flatMap fun page =>
        (BookingsService.findAll last.backend userId latestFirst
          ⟨status, role, limit, page * limit⟩).1) =
        latestFirst.order (last.backend.bookings.rows.filter
          (BookingsService.selects last.backend userId ⟨status, role, limit, 0⟩)) := by
      rw [← flatMap_pages latestFirst positive _ enough]
      rfl
    rw [shown]
    have perm := latestFirst.perm (last.backend.bookings.rows.filter
      (BookingsService.selects last.backend userId ⟨status, role, limit, 0⟩))
    constructor
    · apply perm.nodup_iff.mpr
      apply List.Nodup.filter
      exact List.Nodup.of_map _ last.backend.bookings.nodup
    · intro booking
      rw [perm.mem_iff, List.mem_filter]
      apply and_congr_right
      intro stored
      obtain ⟨landlordId, owned, -⟩ := settles.landlord_ne empty stored
      rw [selects_iff owned, owned]
      simp only [Option.some_inj, exists_eq_left']

end Runs

section Samples

private def partiesEnvironment : SearchEnvironment where
  now := 0
  address := none
  similar := fun _ _ => false
  within := fun _ _ _ _ => false
  order := fun _ listings => listings
  perm := fun _ _ => List.Perm.refl _

private def rentedGarageDto : CreateListingDto :=
  ⟨.garage, "Garage", none, [⟨200, .hour⟩], ⟨37, 55⟩, none, none, none, [⟨0, 864000000⟩]⟩

private def rentedGarages : KeyedTable StoredListing StoredListing.id :=
  KeyedTable.empty.insert (fun id => ⟨id, ListingsService.createdRow 1 rentedGarageDto "Moscow"⟩)
    fun _ => rfl

private def twoGarages : KeyedTable StoredListing StoredListing.id :=
  rentedGarages.insert
    (fun id => ⟨id, ListingsService.createdRow 2 rentedGarageDto "Moscow"⟩) fun _ => rfl

/-- User 1 has an active garage, and user 2 may book it. -/
private def rentedGarageStart : RentalStore where
  search := ⟨[1], rentedGarages, fun _ => none, fun _ => none, 0⟩
  backend := .opening (StoredListing.entities rentedGarages) [(2, .renter)]
  current := nofun
  joined := rfl

private def rentedGarageBooked : List (SearchEnvironment × RentalCall) :=
  [(partiesEnvironment, .create 2 ⟨1, .hour, 0, .one⟩)]

private def rentedByStart (booking : Booking) : Int :=
  booking.period.start

private def rentedGarageMoved : List (SearchEnvironment × RentalCall) :=
  [(partiesEnvironment, .updatePeriod 1 ⟨.hour, 3600000, .two⟩)]

/-- User 3 is not shown the booking that users 1 and 2 have made and moved. -/
theorem bookings_shown_to_parties_sample :
    ∃ middle last,
      execute (rentalStep .utc "keyv:") rentedGarageStart rentedGarageBooked = some middle ∧
      execute (rentalStep .utc "keyv:") middle rentedGarageMoved = some last ∧
        ¬ ∃ loaded, BookingsHandler.findById last.backend 3 1 = .ok loaded := by
  obtain ⟨landlordId, -, parties, shown⟩ := @bookings_shown_to_parties .utc "keyv:"
    rentedGarageStart _ _ rentedGarageBooked rentedGarageMoved rfl rfl rfl
    ⟨1, 1, 2, 200, .hour, ⟨3600000, 10800000⟩, 400, .pending⟩ (by decide)
  obtain ⟨-, owned⟩ := parties ⟨1, 1, 2, 200, .hour, ⟨0, 3600000⟩, 200, .pending⟩ (by decide) rfl
  obtain rfl : 1 = landlordId := Option.some.inj owned
  refine ⟨_, _, rfl, rfl, fun found => ?_⟩
  exact absurd ((shown 3).1.mp found) (by decide)

/-- Users 1 and 2 have a garage each and may book. -/
private def twoGaragesStart : RentalStore where
  search := ⟨[1, 2], twoGarages, fun _ => none, fun _ => none, 0⟩
  backend := .opening (StoredListing.entities twoGarages) [(1, .renter), (2, .renter)]
  current := nofun
  joined := rfl

private def twoGaragesBooked : List (SearchEnvironment × RentalCall) :=
  [(partiesEnvironment, .create 2 ⟨1, .hour, 0, .one⟩),
    (partiesEnvironment, .create 2 ⟨1, .hour, 3600000, .one⟩),
    (partiesEnvironment, .create 1 ⟨2, .hour, 7200000, .one⟩)]

/-- The bookings that are listed for user 1 on two pages of two. -/
private def listedOnPages (backend : Backend) : List Booking :=
  (List.range 2).flatMap fun page =>
    (BookingsService.findAll backend 1 (.stable rentedByStart) ⟨none, none, 2, page * 2⟩).1

/-- User 1 has made a booking and is the landlord of two others; the second page shows the
one that is left. -/
theorem booking_lists_add_up_sample :
    ∃ last, execute (rentalStep .utc "keyv:") twoGaragesStart twoGaragesBooked = some last ∧
      (BookingsService.findAll last.backend 1 (.stable rentedByStart) ⟨none, none, 2, 0⟩).2 =
        1 + 2 ∧
      (listedOnPages last.backend).Nodup ∧
      ⟨3, 2, 1, 200, .hour, ⟨7200000, 10800000⟩, 200, .pending⟩ ∈
        listedOnPages last.backend := by
  obtain ⟨adds, pages⟩ := @booking_lists_add_up .utc "keyv:" twoGaragesStart _ twoGaragesBooked
    rfl rfl _ (.stable rentedByStart) 1 none 2 (by decide)
  obtain ⟨once, shown⟩ := pages none 2 (by decide)
  exact ⟨_, rfl, adds 0, once, (shown _).mpr ⟨by decide, nofun, 2, rfl, by decide⟩⟩

end Samples

end SpareSpace
