import SpareSpace.ReviewCaches
import Mathlib.Algebra.Order.Round
import Mathlib.Data.Rat.Floor
import Mathlib.Tactic.FieldSimp
import Mathlib.Tactic.Ring

/-!
# Rating aggregates and the reviews

A review changes one aggregate of one user: of the landlord when the renter has
written it, and of the renter otherwise.  The aggregate is counted anew from the
reviews of the others, and an update that sets no rating saves the rating
columns as it has loaded them.  So the counts and ratings of all users follow
the reviews through every sequence of whole calls.
-/

namespace SpareSpace

open ColumnRecords Fallible ReviewsService TransitionRuns

/-- The columns of the aggregates. -/
def UserColumn.isRating : UserColumn → Bool
  | landlordRating | renterRating => true
  | landlordReviewCount | renterReviewCount => true
  | _ => false

/-- A whole call of the users service on a stored user. -/
inductive UserRequest
  | findById
  | update (update : PartialUser)
  | updateOnlineStatus (isOnline : Bool)
  | updateVerifiedStatus (verified : Bool)
  | updateBanStatus (isBanned : Bool)

namespace UserRequest

def call (environment : UserEnvironment) (userId : Nat) :
    UserRequest → AccountCall Unit
  | findById => do
      let _ ← UsersService.findById environment userId
  | update patch => do
      let _ ← UsersService.update environment userId patch
  | updateOnlineStatus isOnline =>
      UsersService.updateOnlineStatus environment isOnline
  | updateVerifiedStatus verified => UsersService.updateVerifiedStatus verified
  | updateBanStatus isBanned => UsersService.updateBanStatus isBanned

/-- An update of the users service sets no rating column. -/
def SetsNoRating : UserRequest → Prop
  | update patch => ∀ column, column.isRating = true → patch column = none
  | _ => True

end UserRequest

/-- A whole call that changes reviews or users. -/
inductive RatingRequest
  | create (reviewerId : Nat) (dto : CreateReviewDto)
  | user (userId : Nat) (request : UserRequest)

/-- The store after a whole call, whatever the call returned. -/
def ratingStep (store : ReviewStore) :
    ReviewEnvironment × RatingRequest → Option ReviewStore
  | (environment, .create reviewerId dto) =>
      some (run (create environment reviewerId dto) store).2
  | (environment, .user userId request) =>
      some (run (ReviewStore.onAccount userId
        (request.call environment.toUserEnvironment userId)) store).2

/-- No update sets a rating column. -/
def LeavesRatings (_ : ReviewStore) :
    ReviewEnvironment × RatingRequest → Prop
  | (_, .create _ _) => True
  | (_, .user _ request) => request.SetsNoRating

/-- The reviews about a user on one side, written by others. -/
def ReviewStore.reviewsAbout (store : ReviewStore) (forLandlord : Bool)
    (userId : Nat) : List Review :=
  store.matching (if forLandlord then asLandlord userId else asRenter userId)

/-- The number of reviews that a row shows on one side. -/
def shownCount (forLandlord : Bool) (row : User) : Nat :=
  if forLandlord then row .landlordReviewCount else row .renterReviewCount

/-- The rating that a row shows on one side, in hundredths. -/
def shownRating (forLandlord : Bool) (row : User) : Option Nat :=
  if forLandlord then row .landlordRating else row .renterRating

section Mean

/-- The mean of some ratings. -/
def meanRating (ratings : List Nat) : Rat :=
  (ratings.sum : Rat) / ratings.length

/-- The stored rating is the mean, rounded half up to hundredths. -/
theorem newRating_eq_round {ratings : List Nat} (rated : ratings ≠ []) :
    (newRating ratings : Int) = round (100 * meanRating ratings) := by
  have positive : (ratings.length : Rat) ≠ 0 := by
    exact_mod_cast fun empty => rated (List.length_eq_zero_iff.mp empty)
  have halves : 100 * meanRating ratings + 1 / 2 =
      ((200 * ratings.sum + ratings.length : Nat) : Rat) /
        ((2 * ratings.length : Nat) : Rat) := by
    unfold meanRating
    push_cast
    field_simp
    ring
  rw [round_eq, halves, Rat.floor_natCast_div_natCast]
  unfold newRating
  exact Int.natCast_ediv _ _

end Mean

/-- The count and the rating that a row shows on one side are those of the
reviews. -/
structure Aggregates (store : ReviewStore) (forLandlord : Bool)
    (user : UserAccount) : Prop where
  count : shownCount forLandlord user.account.row =
    (store.reviewsAbout forLandlord user.id).length
  rating : 0 < shownCount forLandlord user.account.row →
    shownRating forLandlord user.account.row =
      some (newRating ((store.reviewsAbout forLandlord user.id).map Review.rating))

/-- Cached profiles are current, and every row shows what the reviews say. -/
structure Aggregated (store : ReviewStore) : Prop where
  coherent : ∀ user ∈ store.accounts.rows, user.account.Coherent
  aggregates : ∀ user ∈ store.accounts.rows, ∀ forLandlord,
    Aggregates store forLandlord user

section Users

open UsersService

/-- An account call that keeps the rating columns and the agreement of the
cached profile. -/
structure KeepsRatings (account after : Account) : Prop where
  coherent : after.Coherent
  columns : ∀ column, column.isRating = true →
    after.row column = account.row column

variable {account after : Account}

theorem KeepsRatings.of_quiet (coherent : account.Coherent)
    (quiet : account.Quiet after) : KeepsRatings account after :=
  ⟨quiet.coherent coherent, fun column _ => congrFun quiet.row column⟩

theorem inProfile_of_isRating {column : UserColumn}
    (isRating : column.isRating = true) : column.inProfile = true := by
  cases column <;> first | rfl | contradiction

theorem KeepsRatings.of_wrote {patch : PartialUser} (coherent : account.Coherent)
    (setsNone : ∀ column, column.isRating = true → patch column = none)
    (wrote : Wrote account patch after) : KeepsRatings account after := by
  refine ⟨wrote.coherent, fun column isRating => ?_⟩
  rw [wrote.profile coherent column (inProfile_of_isRating isRating),
    assign_of_none (setsNone column isRating)]

/-- The status updates write no rating column and delete the cached profile. -/
theorem KeepsRatings.updateColumns (columns : PartialUser)
    (setsNone : ∀ column, column.isRating = true → columns column = none) :
    KeepsRatings account (run (updateColumns columns) account).2 := by
  refine ⟨Account.coherent_of_empty rfl, fun column isRating => ?_⟩
  exact assign_of_none (setsNone column isRating)

theorem isRating_of_verified (verified : Bool) (column : UserColumn)
    (isRating : column.isRating = true) : verifiedStatus verified column = none := by
  cases column <;> first | rfl | contradiction

theorem isRating_of_ban (isBanned : Bool) (column : UserColumn)
    (isRating : column.isRating = true) : banStatus isBanned column = none := by
  cases column <;> first | rfl | contradiction

/-- The online status is in no cached profile. -/
theorem KeepsRatings.updateOnlineStatus (coherent : account.Coherent)
    (environment : UserEnvironment) (isOnline : Bool) :
    KeepsRatings account
      (run (UsersService.updateOnlineStatus environment isOnline) account).2 := by
  have unseen (column : UserColumn) (profile : column.inProfile = true) :
      onlineStatus isOnline environment.now column = none := by
    cases column <;> first | rfl | contradiction
  refine ⟨fun entry cached => ?_, fun column isRating => ?_⟩
  · rw [coherent entry cached]
    funext column
    unfold select
    split
    · next profile => exact congrArg some (assign_of_none (unseen column profile)).symm
    · rfl
  · exact assign_of_none (unseen column (inProfile_of_isRating isRating))

theorem KeepsRatings.call (coherent : account.Coherent)
    (environment : UserEnvironment) (userId : Nat) (request : UserRequest)
    (setsNone : request.SetsNoRating) :
    KeepsRatings account (run (request.call environment userId) account).2 := by
  cases request with
  | findById =>
      obtain ⟨user, loaded, ran, loads⟩ := findById_spec environment userId account
      simp only [UserRequest.call]
      rw [run_bind_ok ran]
      exact .of_quiet coherent loads.quiet
  | update patch =>
      simp only [UserRequest.call]
      rcases update_cases patch environment userId account with
        ⟨error, ran⟩ | ⟨user, written, ran, wrote⟩
      · rw [run_bind, ran]
        exact .of_quiet coherent (Account.Quiet.refl account)
      · rw [run_bind_ok ran]
        exact .of_wrote coherent setsNone wrote
  | updateOnlineStatus isOnline => exact .updateOnlineStatus coherent environment isOnline
  | updateVerifiedStatus verified =>
      exact .updateColumns (verifiedStatus verified) (isRating_of_verified verified)
  | updateBanStatus isBanned =>
      exact .updateColumns (banStatus isBanned) (isRating_of_ban isBanned)

variable {store : ReviewStore}

theorem Aggregated.user (aggregated : Aggregated store)
    (environment : UserEnvironment) (userId : Nat) (request : UserRequest)
    (setsNone : request.SetsNoRating) :
    Aggregated (run (ReviewStore.onAccount userId
      (request.call environment userId)) store).2 := by
  change Aggregated (store.ranOnAccount userId _).2
  unfold ReviewStore.ranOnAccount
  cases found : store.accounts.find? userId with
  | none => exact aggregated
  | some user =>
      have present := store.accounts.mem_of_find? found
      obtain rfl := store.accounts.key_of_find? found
      have keeps := KeepsRatings.call (aggregated.coherent user present)
        environment user.id request setsNone
      constructor
      · intro other otherMem
        rcases (KeyedTable.mem_save_iff _).mp otherMem with rfl | ⟨old, _⟩
        · exact keeps.coherent
        · exact aggregated.coherent other old
      · intro other otherMem forLandlord
        rcases (KeyedTable.mem_save_iff _).mp otherMem with rfl | ⟨old, _⟩
        · have before := aggregated.aggregates user present forLandlord
          have count : shownCount forLandlord (run (request.call environment
              user.id) user.account).2.row =
              shownCount forLandlord user.account.row := by
            cases forLandlord <;> exact keeps.columns _ rfl
          have rating : shownRating forLandlord (run (request.call environment
              user.id) user.account).2.row =
              shownRating forLandlord user.account.row := by
            cases forLandlord <;> exact keeps.columns _ rfl
          exact ⟨count.trans before.count, fun positive =>
            rating.trans (before.rating (count ▸ positive))⟩
        · have before := aggregated.aggregates other old forLandlord
          exact ⟨before.count, before.rating⟩

end Users

section Reviews

variable {store : ReviewStore} {account after : Account}

/-- What is shown of the written side. -/
theorem shown_of_rated {forLandlord : Bool} {ratings : List Nat}
    (coherent : account.Coherent)
    (wrote : UsersService.Wrote account (ratingColumns forLandlord ratings) after) :
    shownCount forLandlord after.row = ratings.length ∧
      shownRating forLandlord after.row = some (newRating ratings) := by
  cases forLandlord with
  | true =>
      exact ⟨wrote.profile coherent .landlordReviewCount rfl,
        wrote.profile coherent .landlordRating rfl⟩
  | false =>
      exact ⟨wrote.profile coherent .renterReviewCount rfl,
        wrote.profile coherent .renterRating rfl⟩

/-- The other side is left. -/
theorem shown_of_other_rated {forLandlord : Bool} {ratings : List Nat}
    (coherent : account.Coherent)
    (wrote : UsersService.Wrote account (ratingColumns (!forLandlord) ratings)
      after) :
    shownCount forLandlord after.row = shownCount forLandlord account.row ∧
      shownRating forLandlord after.row = shownRating forLandlord account.row := by
  cases forLandlord with
  | true =>
      exact ⟨wrote.profile coherent .landlordReviewCount rfl,
        wrote.profile coherent .landlordRating rfl⟩
  | false =>
      exact ⟨wrote.profile coherent .renterReviewCount rfl,
        wrote.profile coherent .renterRating rfl⟩

/-- A new review takes none away. -/
theorem length_reviewsAbout_le (store : ReviewStore) (forLandlord : Bool)
    (userId : Nat) (make : Nat → Review) (keyed : ∀ id, (make id).id = id)
    (known : ∀ id, (store.backend.bookings.find? (make id).bookingId).isSome) :
    (store.reviewsAbout forLandlord userId).length ≤
      ((store.withReview make keyed known).reviewsAbout forLandlord
        userId).length := by
  unfold ReviewStore.reviewsAbout ReviewStore.matching
  change _ ≤ (List.filter _ (store.reviews.rows ++ [_])).length
  rw [List.filter_append, List.length_append]
  exact Nat.le_add_right _ _

/-- The same count, rating and reviews. -/
theorem Aggregates.of_same {later : ReviewStore} {forLandlord : Bool}
    {user other : UserAccount} (aggregates : Aggregates store forLandlord user)
    (reviews : later.reviewsAbout forLandlord other.id =
      store.reviewsAbout forLandlord user.id)
    (count : shownCount forLandlord other.account.row =
      shownCount forLandlord user.account.row)
    (rating : shownRating forLandlord other.account.row =
      shownRating forLandlord user.account.row) :
    Aggregates later forLandlord other := by
  refine ⟨?_, fun positive => ?_⟩
  · rw [count, reviews]
    exact aggregates.count
  · rw [rating, reviews]
    exact aggregates.rating (count ▸ positive)

/-- Rating a user mends the one aggregate that is behind the reviews. -/
theorem aggregated_of_rated {rated : ReviewStore} {user : UserAccount}
    {target : Nat} {forLandlord : Bool} {environment : ReviewEnvironment}
    (coherent : ∀ user ∈ store.accounts.rows, user.account.Coherent)
    (others : ∀ user ∈ store.accounts.rows, ∀ side,
      ¬ (side = forLandlord ∧ user.id = target) → Aggregates store side user)
    (found : store.accounts.find? target = some user)
    (behind : shownCount forLandlord user.account.row ≤
      (store.reviewsAbout forLandlord target).length)
    (rates : run (updateRatingForUser environment target forLandlord) store =
      (.ok (), rated)) : Aggregated rated := by
  have present := store.accounts.mem_of_find? found
  obtain rfl := store.accounts.key_of_find? found
  rcases updateRatingForUser_cases environment found forLandlord rfl with
    ⟨none, ran⟩ | ⟨account, some, ran, wrote⟩
  · rw [ran] at rates
    obtain rfl := (Prod.mk.inj rates).2
    refine ⟨coherent, fun other otherMem side => ?_⟩
    by_cases same : side = forLandlord ∧ other.id = user.id
    · obtain ⟨rfl, sameId⟩ := same
      obtain rfl := store.accounts.eq_of_key_eq otherMem present sameId
      have noReviews : store.reviewsAbout side other.id = [] :=
        List.map_eq_nil_iff.mp none
      rw [noReviews, List.length_nil] at behind
      refine ⟨?_, fun positive => ?_⟩
      · rw [noReviews, List.length_nil]
        omega
      · omega
    · exact others other otherMem side same
  · rw [ran] at rates
    obtain rfl := (Prod.mk.inj rates).2
    have current := coherent user present
    constructor
    · intro other otherMem
      rcases (KeyedTable.mem_save_iff _).mp otherMem with rfl | ⟨old, _⟩
      · exact wrote.coherent
      · exact coherent other old
    · intro other otherMem side
      rcases (KeyedTable.mem_save_iff _).mp otherMem with rfl | ⟨old, different⟩
      · by_cases same : side = forLandlord
        · subst same
          obtain ⟨count, rating⟩ := shown_of_rated current wrote
          refine ⟨?_, fun _ => rating⟩
          rw [count, List.length_map]
          rfl
        · obtain rfl : forLandlord = !side := by
            cases forLandlord <;> cases side <;> simp_all
          obtain ⟨count, rating⟩ := shown_of_other_rated current wrote
          have before := others user present side fun both => same both.1
          exact before.of_same rfl count rating
      · have before := others other old side fun both => different both.2
        exact before.of_same rfl rfl rfl

theorem Aggregated.create (aggregated : Aggregated store)
    (environment : ReviewEnvironment) (reviewerId : Nat)
    (dto : CreateReviewDto) :
    Aggregated (run (ReviewsService.create environment reviewerId dto) store).2 := by
  rcases create_steps environment store reviewerId dto with
    ⟨error, ran⟩ | ⟨booking, known, rated, checked, rates, quiet, ran⟩
  · rw [ran]
    exact aggregated
  · obtain ⟨found, participant⟩ := checkReviewable_ok checked
    generalize side : (reviewerId == booking.booking.renterId) = forLandlord
      at rates ran
    obtain ⟨user, stored⟩ :=
      Option.isSome_iff_exists.mp (targetUser_stored found forLandlord)
    have aggregates := @aggregated_of_rated
      (store.withReview (reviewRow environment.now reviewerId dto)
        (reviewRow_id environment.now reviewerId dto) known) rated user _
      forLandlord environment aggregated.coherent ?_ stored ?_ rates
    · have published := published_spec (targetUser forLandlord booking) forLandlord
        ⟨reviewRow environment.now reviewerId dto store.reviews.nextId, booking⟩
        rated
      rw [ran, run_publish]
      constructor
      · intro other otherMem
        rw [accounts_published] at otherMem
        exact aggregates.coherent other otherMem
      · intro other otherMem forSide
        rw [accounts_published] at otherMem
        refine (aggregates.aggregates other otherMem forSide).of_same ?_ rfl rfl
        unfold ReviewStore.reviewsAbout ReviewStore.matching
        rw [published.shrinks.backend, published.shrinks.reviews]
    · intro other otherMem forSide elsewhere
      refine (aggregated.aggregates other otherMem forSide).of_same ?_ rfl rfl
      refine @matching_of_insert store (store.withReview _ _ known) reviewerId dto
        booking environment.now rfl rfl found _
        (Bool.eq_false_iff.mpr fun meets => ?_)
      obtain ⟨sameSide, target⟩ := target_of_side forSide participant meets
      obtain rfl := sameSide.symm.trans side
      exact elsewhere ⟨rfl, target.symm⟩
    · have present := store.accounts.mem_of_find? stored
      have count := (aggregated.aggregates user present forLandlord).count
      rw [store.accounts.key_of_find? stored] at count
      rw [count]
      exact length_reviewsAbout_le store forLandlord _ _ _ known

end Reviews

theorem Aggregated.step {store after : ReviewStore}
    {label : ReviewEnvironment × RatingRequest} (aggregated : Aggregated store)
    (leaves : LeavesRatings store label)
    (taken : ratingStep store label = some after) : Aggregated after := by
  obtain ⟨environment, request⟩ := label
  cases request with
  | create reviewerId dto =>
      obtain rfl := Option.some.inj taken
      exact aggregated.create environment reviewerId dto
  | user userId request =>
      obtain rfl := Option.some.inj taken
      exact aggregated.user environment.toUserEnvironment userId request leaves

/-- What the reviews by others say about a user on one side is what the user's
row shows. -/
def ShowsReviews (store : ReviewStore) (forLandlord : Bool) (user : UserAccount) :
    Prop :=
  shownCount forLandlord user.account.row =
      (store.reviewsAbout forLandlord user.id).length ∧
    (0 < shownCount forLandlord user.account.row →
      ∃ hundredths, shownRating forLandlord user.account.row = some hundredths ∧
        (hundredths : Int) = round (100 *
          meanRating ((store.reviewsAbout forLandlord user.id).map Review.rating)))

/-- After any sequence of whole calls that starts without reviews and with zero
counts, and in which no update sets a rating column, the counts of every user are
the numbers of reviews by others, and the ratings are their means. -/
theorem ratings_follow_reviews {start last : ReviewStore}
    (noReviews : start.reviews.rows = [])
    (coherent : ∀ user ∈ start.accounts.rows, user.account.Coherent)
    (zero : ∀ user ∈ start.accounts.rows, ∀ forLandlord,
      shownCount forLandlord user.account.row = 0)
    (reached : Run ratingStep LeavesRatings start last) :
    ∀ user ∈ last.accounts.rows, ∀ forLandlord,
      ShowsReviews last forLandlord user := by
  have nothing (forLandlord : Bool) (userId : Nat) :
      start.reviewsAbout forLandlord userId = [] := by
    unfold ReviewStore.reviewsAbout ReviewStore.matching
    rw [noReviews]
    rfl
  have atStart : Aggregated start := by
    refine ⟨coherent, fun user present forLandlord => ⟨?_, fun positive => ?_⟩⟩
    · rw [zero user present, nothing]
      rfl
    · rw [zero user present] at positive
      contradiction
  have aggregated : Aggregated last :=
    Run.invariant Aggregated atStart
      (fun _ _ _ aggregated leaves taken => aggregated.step leaves taken) reached
  intro user present forLandlord
  obtain ⟨count, rating⟩ := aggregated.aggregates user present forLandlord
  refine ⟨count, fun positive => ⟨_, rating positive, newRating_eq_round ?_⟩⟩
  intro none
  rw [count, ← List.length_map Review.rating, none] at positive
  contradiction

private def newNameOnly : PartialUser
  | .firstName => some "Petr"
  | _ => none

/-- The renter reviews the landlord, and both users are edited around it. -/
theorem ratings_follow_reviews_sample :
    ∃ last, Run ratingStep LeavesRatings reviewsStart last ∧
      (∀ user ∈ last.accounts.rows, ∀ forLandlord,
        ShowsReviews last forLandlord user) ∧
      last.accounts.rows.map (fun user => shownRating true user.account.row) =
        [some 500, none] := by
  have edits : UserRequest.SetsNoRating (.update newNameOnly) := by
    intro column isRating
    cases column <;> first | rfl | contradiction
  have reached : Run ratingStep LeavesRatings reviewsStart _ :=
    @run_of_execute _ _ _ _ _ _ _
      [(reviewsEnvironment 0, .user 1 .findById),
        (reviewsEnvironment 1, .create 2 fiveStars),
        (reviewsEnvironment 2, .user 1 (.update newNameOnly))] Run.start rfl
      ⟨trivial, fun _ _ => ⟨trivial, fun _ _ => ⟨edits, fun _ _ => trivial⟩⟩⟩
  refine ⟨_, reached, ?_, by decide⟩
  refine ratings_follow_reviews rfl ?_ (by decide) reached
  intro user present
  apply Account.coherent_of_empty
  revert user
  decide

end SpareSpace
