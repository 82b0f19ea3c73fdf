import SpareSpace.ShowcaseViews

/-!
# Who is shown a listing

A listing that is not active is shown to its owner, and to a user who added it to the
favorites while it was active and has not removed it since.  What the requests do is read
off the tables, which the cache does not change.
-/

namespace SpareSpace

open ColumnRecords Fallible ServiceTraces

/-- After these requests the user keeps a listing of somebody else that was active when it
was added. -/
def AddedWhileActive (start : ShowcaseTables)
    (requests : List (ShowcaseEnvironment × ShowcaseRequest)) (userId listingId : Nat) : Prop :=
  ∃ earlier environment later,
    requests = earlier ++ (environment, .addFavorite userId listingId) :: later ∧
    (∃ listing,
      (after PlainShowcase.serve start earlier).published.listings.find? listingId =
        some listing ∧ listing.row .status = ListingStatus.active ∧
        listing.row .user ≠ userId) ∧
    ∀ request ∈ later, request.2 ≠ .removeFavorite userId listingId

/-- Later requests, none of which removes the favorite. -/
theorem AddedWhileActive.append {start : ShowcaseTables}
    {requests : List (ShowcaseEnvironment × ShowcaseRequest)} {userId listingId : Nat}
    (added : AddedWhileActive start requests userId listingId)
    {request : ShowcaseEnvironment × ShowcaseRequest}
    (keeps : request.2 ≠ .removeFavorite userId listingId) :
    AddedWhileActive start (requests ++ [request]) userId listingId := by
  obtain ⟨earlier, environment, later, rfl, active, kept⟩ := added
  refine ⟨earlier, environment, later ++ [request], by simp, active, ?_⟩
  intro other present
  rcases List.mem_append.mp present with old | new
  · exact kept other old
  · rw [List.mem_singleton.mp new]
    exact keeps

namespace PlainListings

variable (environment : SearchEnvironment)

theorem keeps_users_validateUser (userId : Nat) :
    Keeps ListingTables.users (validateUser userId) :=
  Preserves.reads _

theorem keeps_users_updatedColumns (updateDto : UpdateListingDto) :
    Keeps ListingTables.users (updatedColumns environment updateDto) := by
  apply Preserves.bind (Preserves.lift _)
  intro patch
  apply Preserves.ite
  · apply Preserves.bind (Preserves.lift _)
    intro
    apply Preserves.pure
  · apply Preserves.pure

theorem keeps_users_saveLoaded (listing : StoredListing) :
    Keeps ListingTables.users (saveLoaded listing) := by
  intro tables _
  refine ⟨trivial, ?_⟩
  by_cases priced : StoredListing.hasPricings tables.listings listing.id = true
  · rw [run_saveLoaded_priced priced]
  · rw [run_saveLoaded_bare priced]

theorem keeps_users_create (userId : Nat) (createDto : CreateListingDto) :
    Keeps ListingTables.users (create environment userId createDto) := by
  apply Preserves.bind (Preserves.reads _)
  intro
  apply Preserves.bind (Preserves.lift _)
  intro
  apply Preserves.bind (Preserves.lift _)
  intro
  exact fun _ _ => ⟨trivial, rfl⟩

theorem keeps_users_update (listingId : Nat) (updateDto : UpdateListingDto) :
    Keeps ListingTables.users (update environment listingId updateDto) := by
  apply Preserves.bind (Preserves.reads _)
  intro
  apply Preserves.bind (keeps_users_updatedColumns environment updateDto)
  intro
  apply keeps_users_saveLoaded

theorem keeps_users_updateStatus (listingId : Nat) (newStatus : ListingStatus) :
    Keeps ListingTables.users (updateStatus listingId newStatus) := by
  apply Preserves.bind (Preserves.reads _)
  intro
  apply Preserves.ite
  · apply Preserves.pure
  · exact Preserves.bind (keeps_users_saveLoaded _) fun _ => Preserves.pure _

end PlainListings

/-- The users and the favorites, which only the favorites requests change. -/
def ShowcaseTables.kept (tables : ShowcaseTables) : List Nat × FavoriteTable :=
  (tables.published.users, tables.favorites)

namespace PlainShowcase

open PlainListings

theorem keeps_onListings {α : Type} {call : PlainListingCall α}
    (keeps : Keeps ListingTables.users call) : Keeps ShowcaseTables.kept (onListings call) := by
  apply Preserves.within keeps
  intro tables next same
  simp only [ShowcaseTables.kept, same]

theorem keeps_authenticated (userId : Nat) : Keeps ShowcaseTables.kept (authenticated userId) :=
  keeps_onListings (keeps_users_validateUser userId)

theorem keeps_updateViewHistory (listingId userId : Nat) :
    Keeps ShowcaseTables.kept (updateViewHistory listingId userId) := by
  apply Preserves.bind (Preserves.reads _)
  intro
  apply Preserves.ite
  · apply Preserves.pure
  · exact fun _ _ => ⟨trivial, rfl⟩

theorem keeps_findListing (listingId : Nat) (currentUserId : Option Nat) :
    Keeps ShowcaseTables.kept (findListing listingId currentUserId) := by
  apply Preserves.bind (Preserves.reads _)
  intro
  apply Preserves.bind (keeps_onListings (Preserves.reads _))
  intro
  apply Preserves.guarded
  apply Preserves.bind
  · apply Preserves.forM
    intro
    apply keeps_updateViewHistory
  · intro
    apply Preserves.pure

/-- What a request does to the favorites. -/
inductive FavoritesAfter (tables after : ShowcaseTables) : ShowcaseRequest → Prop
  | same {request : ShowcaseRequest}
      (other : ∀ userId listingId, request ≠ .removeFavorite userId listingId)
      (kept : after.kept = tables.kept) : FavoritesAfter tables after request
  | nothing {userId listingId : Nat}
      (absent : userId ∈ tables.published.users →
        tables.favorites.ofUser listingId userId = none)
      (kept : after.kept = tables.kept) :
      FavoritesAfter tables after (.removeFavorite userId listingId)
  | added {userId listingId : Nat} {now : Int} {listing : StoredListing} {favorite : Favorite}
      (known : userId ∈ tables.published.users)
      (found : tables.published.listings.find? listingId = some listing)
      (active : listing.row .status = ListingStatus.active)
      (notOwn : listing.row .user ≠ userId)
      (users : after.published.users = tables.published.users)
      (inserted : tables.favorites.insert now listingId userId =
        .ok (favorite, after.favorites)) :
      FavoritesAfter tables after (.addFavorite userId listingId)
  | removed {userId listingId : Nat} {favorite : Favorite}
      (found : tables.favorites.ofUser listingId userId = some favorite)
      (users : after.published.users = tables.published.users)
      (favorites : after.favorites = tables.favorites.remove favorite) :
      FavoritesAfter tables after (.removeFavorite userId listingId)

theorem favoritesAfter_of_keeps {environment : ShowcaseEnvironment} {request : ShowcaseRequest}
    (other : ∀ userId listingId, request ≠ .removeFavorite userId listingId)
    (keeps : Keeps ShowcaseTables.kept (call environment request)) (tables : ShowcaseTables) :
    FavoritesAfter tables (serve tables (environment, request)).2 request :=
  .same other (keeps tables trivial).2

theorem authenticated_spec (userId : Nat) (tables : ShowcaseTables) :
    (run (authenticated userId) tables = (.ok (), tables) ∧
        userId ∈ tables.published.users) ∨
      (run (authenticated userId) tables =
          (.error (UsersService.userNotFound userId), tables) ∧
        userId ∉ tables.published.users) := by
  simp only [authenticated, onListings, PlainListings.validateUser, run_within, run_reads]
  split
  · next known => exact Or.inl ⟨rfl, known⟩
  · next unknown => exact Or.inr ⟨rfl, unknown⟩

theorem createFavorite_spec (now : Int) (listingId userId : Nat) (tables : ShowcaseTables) :
    (run (createFavorite now listingId userId) tables).2 = tables ∨
      ∃ listing favorite favorites,
        tables.published.listings.find? listingId = some listing ∧
        listing.row .status = ListingStatus.active ∧ listing.row .user ≠ userId ∧
        tables.favorites.insert now listingId userId = .ok (favorite, favorites) ∧
        (run (createFavorite now listingId userId) tables).2 =
          { tables with favorites := favorites } := by
  unfold createFavorite
  rw [run_bind, run_reads]
  cases found : tables.published.listingOf listingId with
  | error error => exact Or.inl rfl
  | ok listing =>
      have stored := ListingTables.listingOf_ok_iff.mp found
      simp only
      split
      · exact Or.inl rfl
      · next notOwn =>
          split
          · exact Or.inl rfl
          · next active =>
              rw [run_bind, run_reads]
              simp only
              split
              · exact Or.inl rfl
              · rw [run_bind, run_updates]
                cases inserted : tables.favorites.insert now listingId userId with
                | error error => exact Or.inl rfl
                | ok result =>
                    exact Or.inr ⟨listing, result.1, result.2, stored,
                      not_not.mp active, notOwn, rfl, rfl⟩

theorem serve_favorites (environment : ShowcaseEnvironment) (request : ShowcaseRequest)
    (tables : ShowcaseTables) :
    FavoritesAfter tables (serve tables (environment, request)).2 request := by
  cases request with
  | create userId createDto =>
      refine favoritesAfter_of_keeps (by nofun) ?_ tables
      apply Preserves.bind (keeps_authenticated userId)
      intro
      apply Preserves.bind (keeps_onListings (keeps_users_create _ userId createDto))
      intro
      apply Preserves.pure
  | update userId listingId updateDto =>
      refine favoritesAfter_of_keeps (by nofun) ?_ tables
      apply Preserves.bind (keeps_authenticated userId)
      intro
      apply Preserves.bind
      · apply Preserves.bind (Preserves.reads _)
        intro
        exact keeps_onListings (keeps_users_update _ listingId updateDto)
      · intro
        apply Preserves.pure
  | delete userId listingId =>
      refine favoritesAfter_of_keeps (by nofun) ?_ tables
      apply Preserves.bind (keeps_authenticated userId)
      intro
      apply Preserves.bind
      · apply Preserves.bind (Preserves.reads _)
        intro
        exact keeps_onListings (keeps_users_updateStatus listingId .inactive)
      · intro
        apply Preserves.pure
  | updateStatus listingId newStatus =>
      refine favoritesAfter_of_keeps (by nofun) ?_ tables
      apply Preserves.bind (keeps_onListings (keeps_users_updateStatus listingId newStatus))
      intro
      apply Preserves.pure
  | findOne userId listingId =>
      refine favoritesAfter_of_keeps (by nofun) ?_ tables
      apply Preserves.bind (Preserves.reads _)
      intro currentUserId
      apply Preserves.bind (keeps_findListing listingId currentUserId)
      intro
      apply Preserves.pure
  | addFavorite userId listingId =>
      simp only [serve, call, run_bind]
      rcases authenticated_spec userId tables with ⟨ran, known⟩ | ⟨ran, unknown⟩
      · rw [ran]
        simp only
        rcases created : run (createFavorite environment.now listingId userId) tables with
          ⟨result, next⟩
        have spec := createFavorite_spec environment.now listingId userId tables
        rw [created] at spec
        have left : FavoritesAfter tables next (.addFavorite userId listingId) := by
          rcases spec with
            rfl | ⟨listing, favorite, favorites, found, active, notOwn, inserted, rfl⟩
          · exact .same nofun rfl
          · exact .added known found active notOwn rfl inserted
        cases result with
        | error error => exact left
        | ok value => exact left
      · rw [ran]
        exact .same nofun rfl
  | removeFavorite userId listingId =>
      simp only [serve, call, run_bind]
      rcases authenticated_spec userId tables with ⟨ran, known⟩ | ⟨ran, unknown⟩
      · rw [ran]
        simp only [removeFavorite, run_bind, run_reads]
        cases found : tables.favorites.ofUser listingId userId with
        | none => exact .nothing (fun _ => found) rfl
        | some favorite => exact .removed found rfl rfl
      · rw [ran]
        exact .nothing (fun known => absurd known unknown) rfl
  | findFavorites userId searchDto =>
      refine favoritesAfter_of_keeps (by nofun) ?_ tables
      apply Preserves.bind (keeps_authenticated userId)
      intro
      apply Preserves.bind (Preserves.reads _)
      intro
      apply Preserves.pure

end PlainShowcase

theorem FavoriteTable.insert_rows {table after : FavoriteTable} {now : Int}
    {listingId userId : Nat} {favorite : Favorite}
    (inserted : table.insert now listingId userId = .ok (favorite, after)) {row : Favorite}
    (present : row ∈ after.favorites.rows) :
    row ∈ table.favorites.rows ∨ (row.userId = userId ∧ row.listingId = listingId) := by
  unfold insert at inserted
  split at inserted
  · obtain ⟨rfl, rfl⟩ := Prod.mk.inj (Except.ok.inj inserted)
    rcases (table.favorites.mem_insert_iff (createdFavorite now listingId userId)
      fun _ => rfl).mp present with old | rfl
    · exact Or.inl old
    · exact Or.inr ⟨rfl, rfl⟩
  · contradiction

/-- A removed favorite was the only one of its user for its listing. -/
theorem FavoriteTable.remove_rows {table : FavoriteTable} {listingId userId : Nat}
    {favorite : Favorite} (found : table.ofUser listingId userId = some favorite)
    {row : Favorite} (present : row ∈ (table.remove favorite).favorites.rows) :
    row ∈ table.favorites.rows ∧ ¬ (row.userId = userId ∧ row.listingId = listingId) := by
  obtain ⟨old, kept⟩ := List.mem_filter.mp present
  refine ⟨old, ?_⟩
  rintro ⟨rfl, rfl⟩
  have pair : favorite.listingId = row.listingId ∧ favorite.userId = row.userId := by
    simpa using List.find?_some found
  have same : row = favorite :=
    table.paired row old favorite (List.mem_of_find?_eq_some found) (row.userId, row.listingId)
      rfl (by rw [Favorite.pair, pair.1, pair.2])
  simp [same] at kept

/-- Starting without favorites, every favorite belongs to a known user, who added it while
the listing was active and has not removed it since. -/
theorem favorites_added {start : ShowcaseTables} (none : start.favorites.favorites.rows = [])
    (requests : List (ShowcaseEnvironment × ShowcaseRequest)) :
    ∀ favorite ∈ (after PlainShowcase.serve start requests).favorites.favorites.rows,
      favorite.userId ∈ (after PlainShowcase.serve start requests).published.users ∧
        AddedWhileActive start requests favorite.userId favorite.listingId := by
  induction requests using List.reverseRecOn with
  | nil =>
      intro favorite present
      rw [after, none] at present
      contradiction
  | append_singleton requests request ih =>
      obtain ⟨environment, request⟩ := request
      rw [after_append]
      have step := PlainShowcase.serve_favorites environment request
        (after PlainShowcase.serve start requests)
      generalize same : after PlainShowcase.serve start requests = tables at step ih
      change ∀ favorite ∈
        (PlainShowcase.serve tables (environment, request)).2.favorites.favorites.rows, _
      intro favorite present
      cases step with
      | same other kept =>
          obtain ⟨users, favorites⟩ := Prod.mk.inj kept
          rw [favorites] at present
          obtain ⟨known, added⟩ := ih favorite present
          exact ⟨users ▸ known, added.append (other _ _)⟩
      | nothing absent kept =>
          obtain ⟨users, favorites⟩ := Prod.mk.inj kept
          rw [favorites] at present
          obtain ⟨known, added⟩ := ih favorite present
          refine ⟨users ▸ known, added.append ?_⟩
          intro removal
          obtain ⟨rfl, rfl⟩ := ShowcaseRequest.removeFavorite.inj removal
          exact tables.favorites.ofUser_eq_none_iff.mp (absent known) favorite present ⟨rfl, rfl⟩
      | added known found active notOwn users inserted =>
          rcases FavoriteTable.insert_rows inserted present with old | ⟨rfl, rfl⟩
          · obtain ⟨known, added⟩ := ih favorite old
            exact ⟨users ▸ known, added.append (by simp)⟩
          · rw [← users] at known
            refine ⟨known, requests, environment, [], rfl, ?_, List.forall_mem_nil _⟩
            rw [same]
            exact ⟨_, found, active, notOwn⟩
      | removed found users favorites =>
          rw [favorites] at present
          obtain ⟨old, apart⟩ := FavoriteTable.remove_rows found present
          obtain ⟨known, added⟩ := ih favorite old
          refine ⟨users ▸ known, added.append ?_⟩
          intro removal
          obtain ⟨rfl, rfl⟩ := ShowcaseRequest.removeFavorite.inj removal
          exact apart ⟨rfl, rfl⟩

/-- A listing that is answered is in the table, and it is active, the visitor's own, or one
of the visitor's favorites. -/
theorem PlainShowcase.of_findListing {listingId : Nat} {currentUserId : Option Nat}
    {tables last : ShowcaseTables} {listing : StoredListing} {isFavorite : Option Bool}
    (answered : run (findListing listingId currentUserId) tables =
      (.ok (listing, isFavorite), last)) :
    tables.published.listings.find? listingId = some listing ∧
      (listing.row .status = ListingStatus.active ∨
        currentUserId = some (listing.row .user) ∨
        tables.isFavorite listingId currentUserId = some true) := by
  unfold findListing at answered
  obtain ⟨favorite, next, read, answered⟩ := bind_ok answered
  obtain ⟨same, rfl⟩ := Prod.mk.inj read
  obtain rfl := Except.ok.inj same
  obtain ⟨stored, next, found, answered⟩ := bind_ok answered
  simp only [onListings, PlainListings.findById, run_within, run_reads, Prod.mk.injEq] at found
  obtain ⟨found, rfl⟩ := found
  have inTable := ListingTables.listingOf_ok_iff.mp found
  simp only at answered
  split at answered
  · obtain ⟨_, _, thrown, _⟩ := bind_ok answered
    have failed := congrArg Prod.fst thrown
    contradiction
  · next shown =>
      obtain ⟨_, _, _, returned⟩ := bind_ok answered
      obtain ⟨rfl, _⟩ := Prod.mk.inj (Except.ok.inj (congrArg Prod.fst returned))
      apply And.intro inTable
      by_contra hidden
      rw [not_or, not_or] at hidden
      exact shown hidden

theorem ShowcaseTables.of_isFavorite {tables : ShowcaseTables} {listingId : Nat}
    {currentUserId : Option Nat}
    (isFavorite : tables.isFavorite listingId currentUserId = some true) :
    ∃ userId, currentUserId = some userId ∧
      ∃ favorite ∈ tables.favorites.favorites.rows,
        favorite.userId = userId ∧ favorite.listingId = listingId := by
  cases currentUserId with
  | none => contradiction
  | some userId =>
      simp only [ShowcaseTables.isFavorite] at isFavorite
      split at isFavorite
      · contradiction
      · obtain ⟨favorite, found⟩ := Option.isSome_iff_exists.mp (Option.some.inj isFavorite)
        have pair : favorite.listingId = listingId ∧ favorite.userId = userId := by
          simpa using List.find?_some found
        exact ⟨userId, rfl, favorite, List.mem_of_find?_eq_some found, pair.2, pair.1⟩

theorem ShowcaseTables.of_visitor {tables : ShowcaseTables} {userId : Option Nat}
    {viewer : Nat} (same : tables.visitor userId = some viewer) : userId = some viewer :=
  (Option.filter_eq_some_iff.mp same).1

/-- Starting with no listing kept and no favorites, a listing that is shown is stored as it
is shown, and is active or shown to its owner or to a user who added it to the favorites
while it was active and somebody else's, and has not removed it since. -/
theorem listing_shown_to {store : ShowcaseStore}
    (noListings : ∀ listingId, store.search.listingCache listingId = none)
    (noFavorites : store.favorites.favorites.rows = [])
    (requests : List (ShowcaseEnvironment × ShowcaseRequest))
    {environment : ShowcaseEnvironment} {userId : Option Nat} {listingId : Nat}
    {listing : StoredListing} {isFavorite : Option Bool}
    (shown : (ShowcaseRequest.serve (after ShowcaseRequest.serve store requests)
      (environment, .findOne userId listingId)).1 = .ok (.detail listing isFavorite)) :
    (after ShowcaseRequest.serve store requests).search.listings.find? listingId =
        some listing ∧
      (listing.row .status = ListingStatus.active ∨ userId = some (listing.row .user) ∨
        ∃ viewer, userId = some viewer ∧
          AddedWhileActive store.tables requests viewer listingId) := by
  obtain ⟨-, mirrors⟩ := ShowcaseRequest.traces noListings requests
  have added := favorites_added (show store.tables.favorites.favorites.rows = [] from noFavorites)
    requests
  obtain ⟨same, -⟩ := ShowcaseRequest.call_agrees environment (.findOne userId listingId)
    _ _ mirrors
  have stored := mirrors.stored
  generalize after ShowcaseRequest.serve store requests = last at *
  generalize after PlainShowcase.serve store.tables requests = tables at *
  obtain rfl := stored
  rw [show (run (ShowcaseRequest.call environment (.findOne userId listingId)) last).1 =
    .ok (.detail listing isFavorite) from shown] at same
  obtain ⟨currentUserId, next, read, answered⟩ := bind_ok (Prod.ext same.symm rfl)
  obtain ⟨visitor, rfl⟩ := Prod.mk.inj read
  obtain rfl := Except.ok.inj visitor
  obtain ⟨⟨found, favorite⟩, next, ran, returned⟩ := bind_ok answered
  obtain ⟨rfl, rfl⟩ := ShowcaseResponse.detail.inj
    (Except.ok.inj (congrArg Prod.fst returned))
  obtain ⟨inTable, reason⟩ := PlainShowcase.of_findListing ran
  apply And.intro inTable
  rcases reason with active | own | kept
  · exact Or.inl active
  · exact Or.inr (Or.inl (ShowcaseTables.of_visitor own))
  · obtain ⟨viewer, visits, favorite, present, rfl, rfl⟩ := ShowcaseTables.of_isFavorite kept
    refine Or.inr (Or.inr ⟨favorite.userId, ShowcaseTables.of_visitor visits, ?_⟩)
    exact (added favorite present).2

/-- User 2 keeps the garage of user 1 as a favorite, and is shown it when it is taken off. -/
theorem listing_shown_to_sample :
    ∃ listing, listing.row .status = ListingStatus.inactive ∧
      listing.row .user ≠ (2 : Nat) ∧
      (ShowcaseRequest.serve (after ShowcaseRequest.serve showcaseStart
          (showcaseRequests.take 4)) (showcaseEnvironment 5, .findOne (some 2) 1)).1 =
        .ok (.detail listing (some true)) ∧
      AddedWhileActive showcaseStart.tables (showcaseRequests.take 4) 2 1 := by
  have shown := @listing_shown_to showcaseStart (fun _ => rfl) rfl (showcaseRequests.take 4)
    (showcaseEnvironment 5) (some 2) 1 _ _ rfl
  refine ⟨_, rfl, by decide, rfl, ?_⟩
  rcases shown.2 with active | own | ⟨viewer, same, added⟩
  · contradiction
  · contradiction
  · obtain rfl := Option.some.inj same
    exact added

end SpareSpace
