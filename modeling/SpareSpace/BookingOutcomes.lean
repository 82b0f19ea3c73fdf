import SpareSpace.BookingJobs

/-!
# What each request and each job can do

One case list per operation: every way a request or a job can end, with the
state it leaves.  A request that throws before its first write leaves the
state it found; after the write, only its wallet transaction can still throw.
-/

namespace SpareSpace

open Fallible

variable {zone : Zone} {environment : Environment} {backend : Backend}
  {userId bookingId : Nat}

/-- A wallet transaction throws and leaves the state, or it commits. -/
theorem WalletsService.transact_cases (environment : Environment) (backend : Backend)
    (operation : WalletOperation) :
    (∃ error, run (transact environment operation) backend = (.error error, backend)) ∨
      ∃ posted, backend.transact environment.walletAborts operation = .ok posted ∧
        run (transact environment operation) backend = (.ok (), posted) := by
  simp only [transact, run_updates]
  cases backend.transact environment.walletAborts operation with
  | error error => exact Or.inl ⟨error, rfl⟩
  | ok posted => exact Or.inr ⟨posted, rfl, rfl⟩

/-- A wallet transaction that returns has committed. -/
theorem WalletsService.transact_ok {operation : WalletOperation} {after : Backend}
    (returned : run (transact environment operation) backend = (.ok (), after)) :
    backend.transact environment.walletAborts operation = .ok after := by
  rcases transact_cases environment backend operation with
    ⟨error, ran⟩ | ⟨posted, committed, ran⟩
  · rw [ran] at returned
    exact absurd (Prod.mk.inj returned).1 nofun
  · rw [ran] at returned
    exact (Prod.mk.inj returned).2 ▸ committed

/-- A request for the wallet throws and leaves the state, or it leaves the user with
a wallet. -/
theorem WalletsService.findWalletByUser_cases (environment : Environment)
    (backend : Backend) (userId : Nat) :
    (∃ error, run (findWalletByUser environment userId) backend =
        (.error error, backend)) ∨
      ∃ wallet, run (findWalletByUser environment userId) backend =
        (.ok wallet, backend.withWallet userId) := by
  simp only [findWalletByUser, run_updates]
  by_cases refused :
      ((backend.ledger.findWallet userId).isNone && environment.walletAborts) = true
  · rw [if_pos refused]
    exact Or.inl ⟨_, rfl⟩
  · rw [if_neg refused]
    exact Or.inr ⟨_, rfl⟩

namespace BookingsService

@[simp]
theorem run_findById :
    run (findById bookingId) backend = (backend.findById bookingId, backend) :=
  rfl

/-- Saving a loaded entity with some columns changed, but not its listing,
succeeds. -/
theorem run_save {loaded : LoadedBooking} {updated : Booking}
    (found : backend.findById bookingId = .ok loaded)
    (sameListing : updated.listingId = loaded.booking.listingId) :
    ∃ known, run (save updated) backend =
      (.ok (), backend.withSaved updated known) := by
  obtain ⟨_, joined⟩ := Backend.findById_ok_iff.mp found
  rw [← sameListing] at joined
  refine ⟨by simp [joined], ?_⟩
  simp only [save, run_updates, Backend.saveBooking_of_listing joined]

theorem run_updateStatus (backend : Backend) (bookingId : Nat)
    (newStatus : BookingStatus) :
    (∃ error, backend.findById bookingId = .error error ∧
      run (updateStatus bookingId newStatus) backend =
        (.error error, backend)) ∨
    ∃ loaded known, backend.findById bookingId = .ok loaded ∧
      run (updateStatus bookingId newStatus) backend =
        (.ok (loaded.withStatus newStatus),
          backend.withSaved (loaded.withStatus newStatus).booking known) := by
  cases found : backend.findById bookingId with
  | error error =>
      refine Or.inl ⟨error, rfl, ?_⟩
      rw [updateStatus, run_bind, run_findById, found]
  | ok loaded =>
      have sameListing : (loaded.withStatus newStatus).booking.listingId =
          loaded.booking.listingId :=
        rfl
      obtain ⟨known, saved⟩ := run_save found sameListing
      refine Or.inr ⟨loaded, known, rfl, ?_⟩
      rw [updateStatus, run_bind, run_findById, found]
      exact run_bind_ok saved

end BookingsService

namespace BookingsHandler

/-- The last steps of a request: settle, emit and return. -/
theorem run_settle_emit (operation : Option WalletOperation)
    (event : BookingEvent) (loaded : LoadedBooking) :
    run (do
        settle environment operation
        emit environment event
        return loaded) backend =
      match transactIfAny environment backend operation with
      | .ok after =>
          (.ok loaded, BookingsListener.handle environment after event)
      | .error error => (.error error, backend) := by
  rw [run_bind, run_settle]
  cases transactIfAny environment backend operation <;> rfl

/-- The checks of a resolution all pass. -/
def Resolves (resolution : Resolution) (environment : Environment)
    (backend : Backend) (userId bookingId : Nat) (loaded : LoadedBooking) :
    Prop :=
  backend.findById bookingId = .ok loaded ∧
    resolution.guard userId environment.now loaded = .ok ()

variable (environment backend userId bookingId) in
/-- Every way `cancel`, `confirm` or `reject` can end. -/
theorem resolve_cases (resolution : Resolution) :
    (∃ error, (¬ ∃ loaded,
        Resolves resolution environment backend userId bookingId loaded) ∧
      run (resolve resolution environment userId bookingId) backend =
        (.error error, backend)) ∨
    ∃ loaded known,
      Resolves resolution environment backend userId bookingId loaded ∧
        run (resolve resolution environment userId bookingId) backend =
          match transactIfAny environment
              (backend.withSaved
                (loaded.withStatus resolution.newStatus).booking known)
              (refund resolution (loaded.withStatus resolution.newStatus)) with
          | .ok after =>
              (.ok (loaded.withStatus resolution.newStatus),
                BookingsListener.handle environment after
                  (resolution.event (loaded.withStatus resolution.newStatus)))
          | .error error =>
              (.error error, backend.withSaved
                (loaded.withStatus resolution.newStatus).booking known) := by
  unfold resolve Resolves
  rw [run_bind, BookingsService.run_findById]
  cases found : backend.findById bookingId with
  | error error => exact Or.inl ⟨error, by simp, rfl⟩
  | ok loaded =>
      simp only [run_bind, run_lift]
      cases guarded : resolution.guard userId environment.now loaded with
      | error error =>
          exact Or.inl ⟨error, by simp [guarded], rfl⟩
      | ok _ =>
          rcases BookingsService.run_updateStatus backend bookingId
            resolution.newStatus with
            ⟨error, failed, _⟩ | ⟨second, known, again, updated⟩
          · rw [found] at failed
            contradiction
          · rw [found] at again
            obtain rfl := Except.ok.inj again
            refine Or.inr ⟨loaded, known, ⟨rfl, guarded⟩, ?_⟩
            rw [← run_settle_emit]
            simp only [run_bind, updated]

/-- The checks of a period update all pass, and the entity as it is saved. -/
structure Updates (zone : Zone) (environment : Environment)
    (backend : Backend) (userId bookingId : Nat)
    (dto : UpdateBookingPeriodDto) (loaded : LoadedBooking)
    (updated : Booking) : Prop where
  found : backend.findById bookingId = .ok loaded
  guarded : guardUpdate userId loaded = .ok ()
  wholeMinute : BookingsService.checkWholeMinute zone dto.startDate = .ok ()
  tariff : ∃ booking, BookingsService.changeTariff loaded dto.pricePeriod =
    .ok booking ∧ updated = BookingsService.changePeriod zone dto booking
  dates : BookingsService.validateBookingDates backend environment.now
    updated.period loaded.listing.id loaded.listing.availability
    (some bookingId) = .ok ()

/-- The price difference of an update. -/
def priceDiff (loaded : LoadedBooking) (updated : Booking) : Int :=
  (updated.totalPrice : Int) - loaded.booking.totalPrice

theorem changeTariff_identity {loaded : LoadedBooking}
    {pricePeriod : ListingPeriodType} {booking : Booking}
    (changed : BookingsService.changeTariff loaded pricePeriod = .ok booking) :
    booking.id = loaded.booking.id ∧
      booking.listingId = loaded.booking.listingId ∧
        booking.renterId = loaded.booking.renterId ∧
          booking.status = loaded.booking.status := by
  unfold BookingsService.changeTariff at changed
  split at changed
  · cases selected : BookingsService.selectPricing loaded.listing pricePeriod with
    | error error => simp [selected] at changed
    | ok pricing =>
        rw [selected] at changed
        obtain rfl := Except.ok.inj changed
        exact ⟨rfl, rfl, rfl, rfl⟩
  · obtain rfl := Except.ok.inj changed
    exact ⟨rfl, rfl, rfl, rfl⟩

/-- An update keeps the booking's identity, parties and status. -/
theorem Updates.identity {dto : UpdateBookingPeriodDto}
    {loaded : LoadedBooking} {updated : Booking}
    (updates : Updates zone environment backend userId bookingId dto loaded
      updated) :
    updated.id = loaded.booking.id ∧
      updated.listingId = loaded.booking.listingId ∧
        updated.renterId = loaded.booking.renterId ∧
          updated.status = loaded.booking.status := by
  obtain ⟨booking, changed, rfl⟩ := updates.tariff
  simpa [BookingsService.changePeriod] using changeTariff_identity changed

/-- The state and the request determine what an update saves. -/
theorem Updates.unique {dto : UpdateBookingPeriodDto}
    {loaded other : LoadedBooking} {updated second : Booking}
    (updates : Updates zone environment backend userId bookingId dto loaded
      updated)
    (again : Updates zone environment backend userId bookingId dto other
      second) : other = loaded ∧ second = updated := by
  obtain rfl : other = loaded := by simpa [updates.found] using again.found.symm
  obtain ⟨booking, changed, rfl⟩ := updates.tariff
  obtain ⟨same, tariff, rfl⟩ := again.tariff
  rw [changed] at tariff
  obtain rfl := Except.ok.inj tariff
  exact ⟨rfl, rfl⟩

/-- The wallet transaction that settles an update cannot be made: the database
aborts it, or it is a payment of more than the balance. -/
def Unsettled (environment : Environment) (backend : Backend) (userId bookingId : Nat)
    (loaded : LoadedBooking) (updated : Booking) : Prop :=
  ∃ made ∈ settlement userId bookingId (priceDiff loaded updated)
      (residue loaded.booking updated),
    environment.walletAborts = true ∨
      Ledger.Short (backend.ledger.findWallet userId) made

/-- Exactly when the wallet transaction after a booking write throws. -/
theorem transactIfAny_error_iff {updated : Booking} {known}
    {operation : Option WalletOperation}
    (names : ∀ made ∈ operation, made.bookingId = some updated.id) :
    (∃ error, transactIfAny environment (backend.withSaved updated known)
        operation = .error error) ↔
      ∃ made ∈ operation, environment.walletAborts = true ∨
        Ledger.Short (backend.ledger.findWallet made.userId) made := by
  cases operation with
  | none => simp [transactIfAny]
  | some operation =>
      have stored : (backend.withSaved updated known).Names operation := by
        intro id named
        rw [names operation rfl, Option.some.injEq] at named
        simp [Backend.withSaved, named]
      have commits (after : Backend) :
          (backend.withSaved updated known).transact environment.walletAborts
              operation = .ok after ↔ _ :=
        Backend.transact_ok_iff
      simp only [transactIfAny, Option.mem_some_iff, exists_eq_left']
      constructor
      · rintro ⟨error, failed⟩
        by_contra fine
        rw [not_or, Bool.not_eq_true] at fine
        have committed := (commits _).mpr ⟨fine.1, fine.2, stored, rfl⟩
        rw [failed] at committed
        contradiction
      · intro fails
        cases result : (backend.withSaved updated known).transact
            environment.walletAborts operation with
        | error error => exact ⟨error, rfl⟩
        | ok after =>
            obtain ⟨commit, funds, _⟩ := (commits after).mp result
            rcases fails with aborts | short
            · simp [commit] at aborts
            · exact absurd short funds

theorem settlement_error_iff {loaded : LoadedBooking} {updated : Booking} {known}
    (named : updated.id = bookingId) :
    (∃ error, transactIfAny environment (backend.withSaved updated known)
        (settlement userId bookingId (priceDiff loaded updated)
          (residue loaded.booking updated)) = .error error) ↔
      Unsettled environment backend userId bookingId loaded updated := by
  rw [transactIfAny_error_iff]
  · refine exists_congr fun made => and_congr_right fun present => ?_
    rw [userId_of_mem_settlement present]
  · intro made present
    rw [named]
    exact (of_mem_settlement present).2.1

variable (zone environment backend userId bookingId) in
/-- Every way `updatePeriod` can end. -/
theorem updatePeriod_cases (dto : UpdateBookingPeriodDto) :
    (∃ error, (¬ ∃ loaded updated, Updates zone environment backend userId
        bookingId dto loaded updated) ∧
      run (updatePeriod zone environment userId bookingId dto) backend =
        (.error error, backend)) ∨
    ∃ loaded updated known,
      Updates zone environment backend userId bookingId dto loaded updated ∧
        run (updatePeriod zone environment userId bookingId dto) backend =
          match transactIfAny environment (backend.withSaved updated known)
              (settlement userId bookingId (priceDiff loaded updated)
                (residue loaded.booking updated)) with
          | .ok after =>
              (.ok ⟨updated, loaded.listing⟩,
                BookingsListener.handle environment after (.periodUpdated
                  ⟨updated, loaded.listing⟩ loaded.booking.period))
          | .error error =>
              (.error error, backend.withSaved updated known) := by
  unfold updatePeriod BookingsService.updatePeriod
  simp only [run_bind, BookingsService.run_findById, run_lift, run_reads]
  cases found : backend.findById bookingId with
  | error error =>
      refine Or.inl ⟨error, ?_, rfl⟩
      rintro ⟨loaded, updated, updates⟩
      simp [updates.found] at found
  | ok loaded =>
      have same {other : LoadedBooking} {updated : Booking}
          (updates : Updates zone environment backend userId bookingId dto
            other updated) : other = loaded := by
        simpa [found] using updates.found.symm
      simp only
      cases guarded : guardUpdate userId loaded with
      | error error =>
          refine Or.inl ⟨error, ?_, rfl⟩
          rintro ⟨other, updated, updates⟩
          simp [← same updates, updates.guarded] at guarded
      | ok _ =>
      simp only
      cases minute : BookingsService.checkWholeMinute zone dto.startDate with
      | error error =>
          refine Or.inl ⟨error, ?_, rfl⟩
          rintro ⟨other, updated, updates⟩
          simp [updates.wholeMinute] at minute
      | ok _ =>
      simp only [found]
      cases changed : BookingsService.changeTariff loaded dto.pricePeriod with
      | error error =>
          refine Or.inl ⟨error, ?_, rfl⟩
          rintro ⟨other, updated, updates⟩
          obtain ⟨booking, tariff, _⟩ := updates.tariff
          simp [← same updates, tariff] at changed
      | ok booking =>
      simp only
      cases dates : BookingsService.validateBookingDates backend environment.now
          (BookingsService.changePeriod zone dto booking).period
          loaded.listing.id loaded.listing.availability (some bookingId) with
      | error error =>
          refine Or.inl ⟨error, ?_, rfl⟩
          rintro ⟨other, updated, updates⟩
          obtain rfl := same updates
          obtain ⟨second, tariff, rfl⟩ := updates.tariff
          rw [changed] at tariff
          obtain rfl := Except.ok.inj tariff
          simp [updates.dates] at dates
      | ok _ =>
      have updates : Updates zone environment backend userId bookingId dto
          loaded (BookingsService.changePeriod zone dto booking) :=
        ⟨found, guarded, minute, ⟨booking, changed, rfl⟩, dates⟩
      obtain ⟨known, saved⟩ :=
        BookingsService.run_save found updates.identity.2.1
      refine Or.inr ⟨loaded, _, known, updates, ?_⟩
      have named : loaded.booking.id = bookingId :=
        Backend.id_of_findById found
      simp only [saved, run_pure, named]
      rw [← run_settle_emit]
      simp only [run_bind]
      rfl

/-- The checks of a creation all pass, and the entity as it is saved. -/
structure Creates (zone : Zone) (environment : Environment)
    (backend : Backend) (userId : Nat) (dto : CreateBookingDto)
    (draft : BookingDraft) : Prop where
  role : checkRole backend userId = .ok ()
  passes : ∃ listing pricing,
    backend.findByIdWithCache environment dto.listingId = .ok listing ∧
      BookingsService.checkListing userId listing = .ok () ∧
        BookingsService.checkWholeMinute zone dto.startDate = .ok () ∧
          BookingsService.validateBookingDates backend environment.now
            (BookingsService.requestedPeriod zone dto.startDate
              dto.pricePeriod dto.periodsCount) listing.id
            listing.availability none = .ok () ∧
          BookingsService.selectPricing listing dto.pricePeriod =
            .ok pricing ∧
          draft = BookingsService.draftBooking zone userId dto listing pricing

variable (zone environment backend userId) in
/-- The service's part of a creation writes a row, with its checks passed, or
nothing. -/
theorem create_service_passes (dto : CreateBookingDto) :
    (∃ error, run (BookingsService.create zone environment userId dto) backend =
        (.error error, backend)) ∨
    ∃ listing pricing known loaded,
      backend.findByIdWithCache environment dto.listingId = .ok listing ∧
        BookingsService.checkListing userId listing = .ok () ∧
          BookingsService.checkWholeMinute zone dto.startDate = .ok () ∧
            BookingsService.validateBookingDates backend environment.now
              (BookingsService.requestedPeriod zone dto.startDate
                dto.pricePeriod dto.periodsCount) listing.id
              listing.availability none = .ok () ∧
            BookingsService.selectPricing listing dto.pricePeriod =
              .ok pricing ∧
        (backend.withInserted (BookingsService.draftBooking zone userId dto
          listing pricing) known).findById backend.bookings.nextId =
            .ok loaded ∧
        run (BookingsService.create zone environment userId dto) backend =
          (.ok loaded, backend.withInserted (BookingsService.draftBooking zone
            userId dto listing pricing) known) := by
  unfold BookingsService.create
  simp only [run_bind, run_lift, run_reads]
  cases found : backend.findByIdWithCache environment dto.listingId with
  | error error => exact Or.inl ⟨error, rfl⟩
  | ok listing =>
  simp only
  cases open' : BookingsService.checkListing userId listing with
  | error error => exact Or.inl ⟨error, rfl⟩
  | ok _ =>
  simp only
  cases minute : BookingsService.checkWholeMinute zone dto.startDate with
  | error error => exact Or.inl ⟨error, rfl⟩
  | ok _ =>
  simp only
  cases dates : BookingsService.validateBookingDates backend environment.now
      (BookingsService.requestedPeriod zone dto.startDate dto.pricePeriod
        dto.periodsCount) listing.id listing.availability none with
  | error error => exact Or.inl ⟨error, rfl⟩
  | ok _ =>
  simp only
  cases tariff : BookingsService.selectPricing listing dto.pricePeriod with
  | error error => exact Or.inl ⟨error, rfl⟩
  | ok pricing =>
  simp only [BookingsService.insert, run_updates]
  cases inserted : backend.insertBooking
      (BookingsService.draftBooking zone userId dto listing pricing) with
  | error error => exact Or.inl ⟨error, rfl⟩
  | ok after =>
      obtain ⟨known, rfl⟩ := Backend.insertBooking_ok inserted
      cases reloaded : (backend.withInserted _ known).findById
          backend.bookings.nextId with
      | error error =>
          have absent := (Backend.findById_error_iff.mp reloaded).1
          simp [Backend.withInserted] at absent
      | ok loaded =>
          exact Or.inr ⟨listing, pricing, known, loaded, rfl, open', trivial, dates,
            tariff, reloaded, by simp [reloaded]⟩

variable (zone environment) in
theorem create_service_cases (dto : CreateBookingDto)
    (role : checkRole backend userId = .ok ()) :
    (∃ error, run (BookingsService.create zone environment userId dto) backend =
        (.error error, backend)) ∨
    ∃ draft known loaded,
      Creates zone environment backend userId dto draft ∧
        (backend.withInserted draft known).findById backend.bookings.nextId =
          .ok loaded ∧
        run (BookingsService.create zone environment userId dto) backend =
          (.ok loaded, backend.withInserted draft known) := by
  rcases create_service_passes zone environment backend userId dto with
    failed | ⟨listing, pricing, known, loaded, found, open', minute, dates, tariff,
      reloaded, made⟩
  · exact Or.inl failed
  · exact Or.inr ⟨_, known, loaded,
      ⟨role, listing, pricing, found, open', minute, dates, tariff, rfl⟩,
      reloaded, made⟩

variable (zone environment backend userId) in
/-- Every way `create` can end.  A payment that throws is followed by the
deletion of the row just inserted. -/
theorem create_cases (dto : CreateBookingDto) :
    (∃ error, run (create zone environment userId dto) backend =
        (.error error, backend)) ∨
    ∃ draft known loaded,
      Creates zone environment backend userId dto draft ∧
        loaded.booking = draft.row backend.bookings.nextId ∧
        run (create zone environment userId dto) backend =
          match (backend.withInserted draft known).transact
              environment.walletAborts
              (WalletsService.processBookingPayment userId
                backend.bookings.nextId draft.totalPrice) with
          | .ok after =>
              (.ok loaded,
                BookingsListener.handle environment after (.created loaded))
          | .error error =>
              (.error error, (backend.withInserted draft known).removeBooking
                backend.bookings.nextId) := by
  unfold create
  simp only [run_bind, run_reads]
  cases role : checkRole backend userId with
  | error error => exact Or.inl ⟨error, rfl⟩
  | ok _ =>
      rcases create_service_cases zone environment dto role with
        ⟨error, failed⟩ | ⟨draft, known, loaded, creates, reloaded, made⟩
      · exact Or.inl ⟨error, by simp [failed]⟩
      · have row : loaded.booking = draft.row backend.bookings.nextId := by
          have stored := (Backend.findById_ok_iff.mp reloaded).1
          simpa [Backend.withInserted] using stored.symm
        refine Or.inr ⟨draft, known, loaded, creates, row, ?_⟩
        simp only [made, run_tryCatch, WalletsService.transact, run_updates, row,
          BookingDraft.row]
        cases (backend.withInserted draft known).transact
          environment.walletAborts (WalletsService.processBookingPayment userId
            backend.bookings.nextId draft.totalPrice) <;> rfl

end BookingsHandler

variable (environment backend bookingId) in
/-- Every way the start job can end when no call fails. -/
theorem BookingStartProcessor.process_cases :
    (∃ error, backend.findById bookingId = .error error ∧
      run (process environment .none bookingId) backend =
        (.error error, backend)) ∨
    (∃ loaded, backend.findById bookingId = .ok loaded ∧
      loaded.booking.status ≠ .confirmed ∧
        run (process environment .none bookingId) backend =
          (.ok (), backend)) ∨
    ∃ loaded known, backend.findById bookingId = .ok loaded ∧
      loaded.booking.status = .confirmed ∧
        run (process environment .none bookingId) backend =
          (.ok (), (backend.withSaved (loaded.withStatus .active).booking
            known).addCompletionJob environment loaded.booking) := by
  unfold process
  simp only [run_bind, StartFaults.none, unlessFails, Bool.false_eq_true,
    if_false, BookingsService.run_findById]
  cases found : backend.findById bookingId with
  | error error => exact Or.inl ⟨error, rfl, rfl⟩
  | ok loaded =>
      by_cases confirmed : loaded.booking.status = .confirmed
      · rcases BookingsService.run_updateStatus backend bookingId
          .active with
          ⟨error, failed, _⟩ | ⟨second, known, again, updated⟩
        · rw [found] at failed
          contradiction
        · rw [found] at again
          obtain rfl := Except.ok.inj again
          refine Or.inr (Or.inr ⟨loaded, known, rfl, confirmed, ?_⟩)
          simp only [confirmed, ne_eq, not_true, if_false, run_bind, updated]
          rfl
      · refine Or.inr (Or.inl ⟨loaded, rfl, confirmed, ?_⟩)
        simp only [ne_eq, confirmed, not_false_iff, if_true]
        rfl

namespace BookingCompletionProcessor

/-- The job acts: the booking is active and its period is over. -/
def Due (environment : Environment) (loaded : LoadedBooking) : Prop :=
  loaded.booking.status = .active ∧
    loaded.booking.period.stop ≤ environment.now

/-- The signals to the renter and to the owner. -/
def signalled (backend : Backend) (loaded : LoadedBooking) : Backend :=
  (backend.signal loaded.booking.renterId .bookingCompleted loaded.booking
    none).signal loaded.listing.userId .bookingCompleted loaded.booking none

variable (environment backend bookingId) in
/-- Every way the completion job can end when no call but the payout fails. -/
theorem process_cases :
    (∃ error, backend.findById bookingId = .error error ∧
      run (process environment .none bookingId) backend =
        (.error error, backend)) ∨
    (∃ loaded, backend.findById bookingId = .ok loaded ∧
      ¬ Due environment loaded ∧
        run (process environment .none bookingId) backend =
          (.ok (), backend)) ∨
    ∃ loaded known, backend.findById bookingId = .ok loaded ∧
      Due environment loaded ∧
        run (process environment .none bookingId) backend =
          match (backend.withSaved (loaded.withStatus .completed).booking
              known).transact environment.walletAborts
              (WalletsService.processBookingPayout loaded.listing.userId
                loaded.booking.id loaded.booking.totalPrice) with
          | .ok after => (.ok (), signalled after loaded)
          | .error error =>
              (.error error, backend.withSaved
                (loaded.withStatus .completed).booking known) := by
  unfold process
  simp only [run_bind, CompletionFaults.none, unlessFails, Bool.false_eq_true,
    if_false, BookingsService.run_findById]
  cases found : backend.findById bookingId with
  | error error => exact Or.inl ⟨error, rfl, rfl⟩
  | ok loaded =>
      by_cases active : loaded.booking.status = .active
      · by_cases ended : loaded.booking.period.stop ≤ environment.now
        · rcases BookingsService.run_updateStatus backend bookingId
            .completed with
            ⟨error, failed, _⟩ | ⟨second, known, again, updated⟩
          · rw [found] at failed
            contradiction
          · rw [found] at again
            obtain rfl := Except.ok.inj again
            refine Or.inr (Or.inr ⟨loaded, known, rfl, ⟨active, ended⟩, ?_⟩)
            simp only [active, ne_eq, not_true, if_false, gt_iff_lt,
              not_lt.mpr ended, run_bind, updated, WalletsService.transact,
              run_updates]
            cases (backend.withSaved (loaded.withStatus .completed).booking
              known).transact environment.walletAborts
              (WalletsService.processBookingPayout loaded.listing.userId
                loaded.booking.id loaded.booking.totalPrice) <;> rfl
        · refine Or.inr (Or.inl ⟨loaded, rfl, fun due => ended due.2, ?_⟩)
          simp only [active, ne_eq, not_true, if_false, gt_iff_lt,
            not_le.mp ended, if_true]
          rfl
      · refine Or.inr (Or.inl ⟨loaded, rfl, fun due => active due.1, ?_⟩)
        simp only [ne_eq, active, not_false_iff, if_true]
        rfl

end BookingCompletionProcessor

end SpareSpace
