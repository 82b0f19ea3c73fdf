import SpareSpace.WalletsService

/-!
# The state of the back end

The tables of the init schema that bookings touch, the two job queues and the
notification signals sent so far.  The foreign keys of the schema are part of
the type: every booking names a stored listing and every ledger row that names
a booking names a stored one.  The operations below are the single repository
calls and whole wallet transactions the services are made of.
-/

namespace SpareSpace

structure Backend where
  listings : KeyedTable Listing Listing.id
  roles : List (Nat × UserRoleType)
  bookings : KeyedTable Booking Booking.id
  ledger : Ledger
  startQueue : JobQueue
  completionQueue : JobQueue
  signals : List NotificationSignal
  listing_stored : ∀ booking ∈ bookings.rows,
    (listings.find? booking.listingId).isSome
  booking_stored : ∀ transaction ∈ ledger.transactions.rows,
    ∀ id, transaction.bookingId = some id → (bookings.find? id).isSome

/-- What a call finds outside the tables: the clock, the cached listings, and
whether the database aborts the wallet transaction of the call, or refuses the
wallet that it opens. -/
structure Environment where
  now : Int
  listingCache : Nat → Option Listing
  walletAborts : Bool

/-- A booking about to be inserted, without its id. -/
structure BookingDraft where
  listingId : Nat
  renterId : Nat
  price : Nat
  pricePeriod : ListingPeriodType
  period : PeriodDto
  totalPrice : Nat
  deriving DecidableEq, Repr

/-- The row `create` saves. -/
def BookingDraft.row (draft : BookingDraft) (id : Nat) : Booking where
  id := id
  listingId := draft.listingId
  renterId := draft.renterId
  price := draft.price
  pricePeriod := draft.pricePeriod
  period := draft.period
  totalPrice := draft.totalPrice
  status := .pending

theorem BookingDraft.row_id (draft : BookingDraft) (id : Nat) :
    (draft.row id).id = id :=
  rfl

namespace Backend

/-- No bookings, no money and no jobs, over given listings and roles. -/
def opening (listings : KeyedTable Listing Listing.id)
    (roles : List (Nat × UserRoleType)) : Backend where
  listings := listings
  roles := roles
  bookings := KeyedTable.empty
  ledger := Ledger.empty
  startQueue := []
  completionQueue := []
  signals := []
  listing_stored := by simp [KeyedTable.empty]
  booking_stored := by simp [Ledger.empty, KeyedTable.empty]

variable (backend : Backend)

/-- `usersService.hasRole`. -/
def hasRole (userId : Nat) (role : UserRoleType) : Bool :=
  backend.roles.contains (userId, role)

/-- `bookingRepository.findOne` with the listing joined in. -/
def findById (bookingId : Nat) : Except HttpException LoadedBooking :=
  match found : backend.bookings.find? bookingId with
  | none => .error (.notFound "Booking not found")
  | some booking =>
      .ok ⟨booking, (backend.listings.find? booking.listingId).get
        (backend.listing_stored booking (backend.bookings.mem_of_find? found))⟩

/-- `listingsService.findByIdWithCache`. -/
def findByIdWithCache (environment : Environment) (listingId : Nat) :
    Except HttpException Listing :=
  match environment.listingCache listingId with
  | some listing => .ok listing
  | none =>
      match backend.listings.find? listingId with
      | some listing => .ok listing
      | none => .error (.notFound "Listing not found")

/-- The listing row written by an edit of its owner or a moderator. -/
def saveListing (listing : Listing) : Backend where
  __ := backend
  listings := backend.listings.save listing
  listing_stored := by
    intro booking bookingMem
    rw [KeyedTable.find?_save]
    split
    · rfl
    · exact backend.listing_stored booking bookingMem
  booking_stored := backend.booking_stored

/-- The tables with a new booking row. -/
def withInserted (draft : BookingDraft)
    (known : (backend.listings.find? draft.listingId).isSome) : Backend where
  __ := backend
  bookings := backend.bookings.insert draft.row draft.row_id
  listing_stored := by
    intro booking bookingMem
    rcases (backend.bookings.mem_insert_iff _ _).mp bookingMem with old | rfl
    · exact backend.listing_stored booking old
    · exact known
  booking_stored := by
    intro transaction transactionMem id names
    rw [KeyedTable.find?_insert]
    split
    · rfl
    · exact backend.booking_stored transaction transactionMem id names

/-- `bookingRepository.save` of a new entity. -/
def insertBooking (draft : BookingDraft) : Except HttpException Backend :=
  if known : (backend.listings.find? draft.listingId).isSome then
    .ok (backend.withInserted draft known)
  else
    .error (.database "bookings_listing_id_fkey")

/-- The tables with a booking row written over the row of its id. -/
def withSaved (booking : Booking)
    (known : (backend.listings.find? booking.listingId).isSome) : Backend where
  __ := backend
  bookings := backend.bookings.save booking
  listing_stored := by
    intro other otherMem
    rcases backend.bookings.mem_save_iff.mp otherMem with rfl | ⟨old, _⟩
    · exact known
    · exact backend.listing_stored other old
  booking_stored := by
    intro transaction transactionMem id names
    rw [KeyedTable.find?_save]
    split
    · rfl
    · exact backend.booking_stored transaction transactionMem id names

/-- `bookingRepository.save` of a loaded entity: all its columns are written
over the row, and a row that has gone is inserted again. -/
def saveBooking (booking : Booking) : Except HttpException Backend :=
  if known : (backend.listings.find? booking.listingId).isSome then
    .ok (backend.withSaved booking known)
  else
    .error (.database "bookings_listing_id_fkey")

/-- `ON DELETE SET NULL` for one ledger row. -/
def forget (bookingId : Nat) (transaction : Transaction) : Transaction :=
  if transaction.bookingId = some bookingId then
    { transaction with bookingId := none }
  else
    transaction

/-- `bookingRepository.remove`. -/
def removeBooking (bookingId : Nat) : Backend where
  __ := backend
  bookings := backend.bookings.remove bookingId
  ledger :=
    { backend.ledger with
      transactions := backend.ledger.transactions.mapRows (forget bookingId) fun row => by
        unfold forget
        split <;> rfl }
  listing_stored := by
    intro booking bookingMem
    exact backend.listing_stored booking (List.mem_of_mem_filter bookingMem)
  booking_stored := by
    intro transaction transactionMem id names
    obtain ⟨old, oldMem, rfl⟩ := List.mem_map.mp transactionMem
    unfold forget at names
    split at names
    · contradiction
    · next other =>
        have different : id ≠ bookingId := fun same => other (same ▸ names)
        rw [KeyedTable.find?_remove, if_neg different]
        exact backend.booking_stored old oldMem id names

/-- The booking a ledger row would name is stored. -/
def Names (operation : WalletOperation) : Prop :=
  ∀ id, operation.bookingId = some id → (backend.bookings.find? id).isSome

instance (operation : WalletOperation) : Decidable (backend.Names operation) :=
  match named : operation.bookingId with
  | none => .isTrue (by intro id names; simp [named] at names)
  | some bookingId =>
      decidable_of_iff ((backend.bookings.find? bookingId).isSome = true) (by
        constructor
        · intro stored id names
          rw [named, Option.some.injEq] at names
          exact names ▸ stored
        · exact fun names => names bookingId named)

/-- The tables after a wallet transaction has been committed. -/
def withPosted (found : Option Wallet) (operation : WalletOperation)
    (known : backend.Names operation) : Backend where
  __ := backend
  ledger := backend.ledger.posted found operation
  listing_stored := backend.listing_stored
  booking_stored := by
    intro transaction transactionMem id names
    rcases (backend.ledger.transactions.mem_insert_iff operation.entry
      operation.entry_id).mp transactionMem with old | rfl
    · exact backend.booking_stored transaction old id names
    · exact known id names

/-- The tables after `findWalletByUser`. -/
def withWallet (userId : Nat) : Backend where
  __ := backend
  ledger := (backend.ledger.findWalletByUser userId).1
  listing_stored := backend.listing_stored
  booking_stored := backend.booking_stored

/-- A whole wallet transaction: rolled back when the debit is short of funds,
when its row names no stored booking, or when the database aborts it. -/
def transact (aborts : Bool) (operation : WalletOperation) :
    Except HttpException Backend :=
  let found := backend.ledger.findWallet operation.userId
  match backend.ledger.perform found operation with
  | .error error => .error error
  | .ok _ =>
      if aborts then
        .error (.database "transaction aborted")
      else if known : backend.Names operation then
        .ok (backend.withPosted found operation known)
      else
        .error (.database "transactions_booking_id_fkey")

/-- Append a signal for the notification service. -/
def signal (userId : Nat) (type : NotificationType) (booking : Booking)
    (prevPeriod : Option PeriodDto) : Backend where
  __ := backend
  signals := backend.signals ++
    [{ userId := userId, type := type, referenceId := booking.id
       listingId := booking.listingId, period := booking.period
       price := booking.totalPrice, prevPeriod := prevPeriod }]
  listing_stored := backend.listing_stored
  booking_stored := backend.booking_stored

def withStartQueue (queue : JobQueue) : Backend where
  __ := backend
  startQueue := queue
  listing_stored := backend.listing_stored
  booking_stored := backend.booking_stored

def withCompletionQueue (queue : JobQueue) : Backend where
  __ := backend
  completionQueue := queue
  listing_stored := backend.listing_stored
  booking_stored := backend.booking_stored

variable {backend}

theorem findById_ok_iff {bookingId : Nat} {loaded : LoadedBooking} :
    backend.findById bookingId = .ok loaded ↔
      backend.bookings.find? bookingId = some loaded.booking ∧
        backend.listings.find? loaded.booking.listingId = some loaded.listing := by
  unfold findById
  split
  · next absent => simp [absent]
  · next booking found =>
      obtain ⟨stored, listing⟩ := loaded
      simp only [found, Except.ok.injEq, LoadedBooking.mk.injEq,
        Option.some.injEq]
      constructor
      · rintro ⟨rfl, rfl⟩
        exact ⟨rfl, (Option.some_get _).symm⟩
      · rintro ⟨rfl, joined⟩
        exact ⟨rfl, by simp [joined]⟩

/-- A read that looks a booking up by its id returns that booking. -/
theorem id_of_findById {bookingId : Nat} {loaded : LoadedBooking}
    (found : backend.findById bookingId = .ok loaded) :
    loaded.booking.id = bookingId :=
  backend.bookings.key_of_find? (findById_ok_iff.mp found).1

theorem findById_error_iff {bookingId : Nat} {error : HttpException} :
    backend.findById bookingId = .error error ↔
      backend.bookings.find? bookingId = none ∧
        error = .notFound "Booking not found" := by
  unfold findById
  split
  · next absent => simp [absent, eq_comm]
  · next booking found => simp [found]

/-- Saving a loaded entity cannot violate the foreign key to its listing. -/
theorem saveBooking_of_listing {booking : Booking} {listing : Listing}
    (joined : backend.listings.find? booking.listingId = some listing) :
    backend.saveBooking booking =
      .ok (backend.withSaved booking (by simp [joined])) := by
  simp [saveBooking, joined]

theorem saveBooking_ok {booking : Booking} {after : Backend}
    (saved : backend.saveBooking booking = .ok after) :
    ∃ known, after = backend.withSaved booking known := by
  unfold saveBooking at saved
  split at saved
  · next known => exact ⟨known, (Except.ok.inj saved).symm⟩
  · contradiction

theorem insertBooking_ok {draft : BookingDraft} {after : Backend}
    (inserted : backend.insertBooking draft = .ok after) :
    ∃ known, after = backend.withInserted draft known := by
  unfold insertBooking at inserted
  split at inserted
  · next known => exact ⟨known, (Except.ok.inj inserted).symm⟩
  · contradiction

/-- Exactly when a wallet transaction commits, and what it leaves. -/
theorem transact_ok_iff {aborts : Bool} {operation : WalletOperation}
    {after : Backend} :
    backend.transact aborts operation = .ok after ↔
      aborts = false ∧
        ¬ Ledger.Short (backend.ledger.findWallet operation.userId) operation ∧
          ∃ known, after = backend.withPosted
            (backend.ledger.findWallet operation.userId) operation known := by
  simp only [transact, Ledger.perform_eq]
  by_cases short :
      Ledger.Short (backend.ledger.findWallet operation.userId) operation
  · simp [short]
  · simp only [short, if_false]
    cases aborts with
    | true => simp
    | false =>
        by_cases known : backend.Names operation
        · simp [known, eq_comm]
        · simp [known]

end Backend

/-- An active listing of user 1 with an hourly and a daily tariff, free during
the first ten days. -/
def sampleListing (id : Nat) : Listing where
  id := id
  userId := 1
  pricings := [⟨300, .hour⟩, ⟨5000, .day⟩]
  availability := [⟨0, 864000000⟩]
  status := .active

theorem sampleListing_id (id : Nat) : (sampleListing id).id = id :=
  rfl

/-- One listing, the renters 2 and 3, and no bookings. -/
def Backend.sample : Backend :=
  opening (KeyedTable.empty.insert sampleListing sampleListing_id)
    [(2, .renter), (3, .renter)]

/-- The clock at a time, nothing cached, and a database that commits. -/
def Environment.at (now : Int) : Environment :=
  ⟨now, fun _ => none, false⟩

end SpareSpace
