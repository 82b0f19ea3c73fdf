import SpareSpace.InterleavedCalls
import SpareSpace.NamedRows
import SpareSpace.ReviewCaches
import SpareSpace.UserCalls

/-!
# Interleaved creations of reviews

The creation of a review, cut at every repository and cache call.  Three checks
precede the insert, each on a read of its own, and no constraint of the table
repeats the last of them.  Participation and completion hold of every stored
review.  A booking has at most one review by each reviewer in every run in which
a review is inserted only while the table has none by the same reviewer.
-/

namespace SpareSpace

open Fallible InterleavedCalls NamedRows ReviewsService TransitionRuns

/-- A review on its way to being published: the user it is about, and on which
side. -/
structure ReviewTarget where
  userId : Nat
  forLandlord : Bool

/-- The program points of a creation, each before the step it is named for. -/
inductive ReviewCreation
  | validateUserParticipation (reviewerId : Nat) (dto : CreateReviewDto)
  | findBooking (reviewerId : Nat) (dto : CreateReviewDto)
  | findExisting (reviewerId : Nat) (dto : CreateReviewDto)
      (booking : LoadedBooking)
  | save (reviewerId : Nat) (dto : CreateReviewDto) (booking : LoadedBooking)
  | findReview (reviewId : Nat) (target : ReviewTarget)
  | findRatings (target : ReviewTarget) (review : LoadedReview)
  | updateUser (target : ReviewTarget) (review : LoadedReview) (call : UserCall)
  | emit (target : ReviewTarget) (review : LoadedReview)
  | invalidateUser (target : ReviewTarget) (review : LoadedReview)
  | invalidateListing (review : LoadedReview)
  | created (review : LoadedReview)
  | threw (error : HttpException)

namespace ReviewCreation

variable (crypto : Crypto)

/-- What follows the rating of the user. -/
def afterUpdate (target : ReviewTarget) (review : LoadedReview) :
    UserCall → ReviewCreation
  | .updated _ => emit target review
  | .threw error => threw error
  | call => updateUser target review call

/-- A step of `usersService.update` on the account of the user. -/
def rate (environment : UserEnvironment) (store : ReviewStore)
    (target : ReviewTarget) (review : LoadedReview) (call : UserCall) :
    Option (ReviewStore × ReviewCreation) :=
  match store.accounts.find? target.userId with
  | none => some (store, threw (UsersService.userNotFound target.userId))
  | some user =>
      (UserCall.next crypto environment user.account call).map fun moved =>
        (store.withAccount ⟨target.userId, moved.1⟩,
          afterUpdate target review moved.2)

def next (environment : UserEnvironment) (store : ReviewStore) :
    ReviewCreation → Option (ReviewStore × ReviewCreation)
  | validateUserParticipation reviewerId dto =>
      match store.backend.validateUserParticipation dto.bookingId reviewerId with
      | .ok () => some (store, findBooking reviewerId dto)
      | .error error => some (store, threw error)
  | findBooking reviewerId dto =>
      match store.backend.findById dto.bookingId with
      | .error error => some (store, threw error)
      | .ok booking =>
          if booking.booking.status ≠ .completed then
            some (store, threw
              (.badRequest "Only completed bookings can be reviewed"))
          else
            some (store, findExisting reviewerId dto booking)
  | findExisting reviewerId dto booking =>
      if (findByBooking store dto.bookingId reviewerId).isSome then
        some (store, threw
          (.conflict "Review already exists for this booking"))
      else
        some (store, save reviewerId dto booking)
  | save reviewerId dto booking =>
      let forLandlord := reviewerId == booking.booking.renterId
      match run (insertReview environment.now reviewerId dto) store with
      | (.ok reviewId, after) => some (after,
          findReview reviewId ⟨targetUser forLandlord booking, forLandlord⟩)
      | (.error error, after) => some (after, threw error)
  | findReview reviewId target =>
      match run (findById reviewId) store with
      | (.ok review, after) => some (after, findRatings target review)
      | (.error error, after) => some (after, threw error)
  | findRatings target review =>
      let ratings := (store.matching (if target.forLandlord then
        asLandlord target.userId else asRenter target.userId)).map Review.rating
      if ratings = [] then
        some (store, emit target review)
      else
        some (store, updateUser target review
          (UserCall.update (ratingColumns target.forLandlord ratings)))
  | updateUser target review call => rate crypto environment store target review call
  | emit target review =>
      some (store.withSignal (newReviewSignal target.userId review),
        invalidateUser target review)
  | invalidateUser target review =>
      let after := store.deleteByPattern s!"reviews:user:{target.userId}:*"
      if target.forLandlord then
        some (after, invalidateListing review)
      else
        some (after, created review)
  | invalidateListing review =>
      some (store.deleteByPattern
        s!"reviews:listing:{review.booking.listing.id}:*", created review)
  | created _ | threw _ => none

def starts : ReviewCreation → Bool
  | validateUserParticipation _ _ => true
  | _ => false

end ReviewCreation

/-- Creations of reviews by any users on any bookings. -/
def reviewSystem (crypto : Crypto) :
    System ReviewStore ReviewCreation UserEnvironment where
  starts := ReviewCreation.starts
  next := ReviewCreation.next crypto

/-- A reviewer who takes part in a completed booking. -/
def Reviewable (backend : Backend) (bookingId reviewerId : Nat) : Prop :=
  ∃ booking, backend.findById bookingId = .ok booking ∧
    (booking.booking.renterId = reviewerId ∨
      booking.listing.userId = reviewerId) ∧
    booking.booking.status = .completed

/-- The booking and the reviewer of a review. -/
def Review.author (review : Review) : Option (Nat × Nat) :=
  some (review.bookingId, review.reviewerId)

namespace ReviewCreation

/-- Whether the review has been stored, or the call has ended. -/
def stored : ReviewCreation → Bool
  | validateUserParticipation _ _ | findBooking _ _ => false
  | findExisting _ _ _ | save _ _ _ => false
  | _ => true

/-- What the checks passed so far say. -/
def Checked (backend : Backend) : ReviewCreation → Prop
  | findBooking reviewerId dto =>
      ∃ booking, backend.findById dto.bookingId = .ok booking ∧
        (booking.booking.renterId = reviewerId ∨
          booking.listing.userId = reviewerId)
  | findExisting reviewerId dto _ | save reviewerId dto _ =>
      Reviewable backend dto.bookingId reviewerId
  | _ => True

/-- A review is inserted only while the table has none of the same booking by
the same reviewer. -/
def InsertsFirst (config : Config ReviewStore ReviewCreation) :
    Move ReviewCreation UserEnvironment → Prop
  | .spawn _ => True
  | .act index _ =>
      match config.calls[index]? with
      | some (save reviewerId dto _) =>
          findByBooking config.store dto.bookingId reviewerId = none
      | _ => True

variable {crypto : Crypto} {environment : UserEnvironment}
  {store after : ReviewStore} {call moved : ReviewCreation}

/-- What a step does: it passes a check, inserts a review, or leaves bookings and
reviews alone at a point where the review is stored or the call ends. -/
inductive Effect (environment : UserEnvironment) (store after : ReviewStore) :
    ReviewCreation → ReviewCreation → Prop
  | validate {reviewerId dto}
      (passed : store.backend.validateUserParticipation dto.bookingId reviewerId =
        .ok ())
      (kept : after = store) :
      Effect environment store after (validateUserParticipation reviewerId dto)
        (findBooking reviewerId dto)
  | find {reviewerId dto booking}
      (found : store.backend.findById dto.bookingId = .ok booking)
      (completed : booking.booking.status = .completed) (kept : after = store) :
      Effect environment store after (findBooking reviewerId dto)
        (findExisting reviewerId dto booking)
  | absent {reviewerId dto booking}
      (none : findByBooking store dto.bookingId reviewerId = none)
      (kept : after = store) :
      Effect environment store after (findExisting reviewerId dto booking)
        (save reviewerId dto booking)
  | insert {reviewerId dto booking target}
      (backend : after.backend = store.backend)
      (inserted : after.reviews = store.reviews.insert
        (reviewRow environment.now reviewerId dto)
        (reviewRow_id environment.now reviewerId dto)) :
      Effect environment store after (save reviewerId dto booking)
        (findReview store.reviews.nextId target)
  | keep {point later} (backend : after.backend = store.backend)
      (reviews : after.reviews = store.reviews) (stored : later.stored = true) :
      Effect environment store after point later

theorem effect_of_insert {reviewerId : Nat} {dto : CreateReviewDto}
    {booking : LoadedBooking}
    (moves : next crypto environment store (save reviewerId dto booking) =
      some (after, moved)) :
    Effect environment store after (save reviewerId dto booking) moved := by
  simp only [next, insertReview, run_updates] at moves
  by_cases known : (store.backend.bookings.find? dto.bookingId).isSome
  · simp only [dif_pos known] at moves
    obtain ⟨rfl, rfl⟩ := Prod.mk.inj (Option.some.inj moves)
    exact .insert rfl rfl
  · simp only [dif_neg known] at moves
    obtain ⟨rfl, rfl⟩ := Prod.mk.inj (Option.some.inj moves)
    exact .keep rfl rfl rfl

theorem stored_afterUpdate (target : ReviewTarget) (review : LoadedReview)
    (call : UserCall) : (afterUpdate target review call).stored = true := by
  cases call <;> rfl

theorem effect_of_next
    (moves : next crypto environment store call = some (after, moved)) :
    Effect environment store after call moved := by
  cases call with
  | validateUserParticipation reviewerId dto =>
      simp only [next] at moves
      split at moves
      · next passed =>
          obtain ⟨rfl, rfl⟩ := Prod.mk.inj (Option.some.inj moves)
          exact .validate passed rfl
      · obtain ⟨rfl, rfl⟩ := Prod.mk.inj (Option.some.inj moves)
        exact .keep rfl rfl rfl
  | findBooking reviewerId dto =>
      simp only [next] at moves
      split at moves
      · obtain ⟨rfl, rfl⟩ := Prod.mk.inj (Option.some.inj moves)
        exact .keep rfl rfl rfl
      · next booking found =>
          split at moves
          · obtain ⟨rfl, rfl⟩ := Prod.mk.inj (Option.some.inj moves)
            exact .keep rfl rfl rfl
          · next completed =>
              obtain ⟨rfl, rfl⟩ := Prod.mk.inj (Option.some.inj moves)
              exact .find found (not_not.mp completed) rfl
  | findExisting reviewerId dto booking =>
      simp only [next] at moves
      split at moves
      · obtain ⟨rfl, rfl⟩ := Prod.mk.inj (Option.some.inj moves)
        exact .keep rfl rfl rfl
      · next none =>
          obtain ⟨rfl, rfl⟩ := Prod.mk.inj (Option.some.inj moves)
          exact .absent (Option.not_isSome_iff_eq_none.mp none) rfl
  | save reviewerId dto booking => exact effect_of_insert moves
  | findReview reviewId target =>
      simp only [next, findById, run_reads] at moves
      split at moves
      · next read =>
          obtain ⟨_, rfl⟩ := Prod.mk.inj read
          obtain ⟨rfl, rfl⟩ := Prod.mk.inj (Option.some.inj moves)
          exact .keep rfl rfl rfl
      · next read =>
          obtain ⟨_, rfl⟩ := Prod.mk.inj read
          obtain ⟨rfl, rfl⟩ := Prod.mk.inj (Option.some.inj moves)
          exact .keep rfl rfl rfl
  | findRatings target review =>
      simp only [next] at moves
      generalize (store.matching (if target.forLandlord then
        asLandlord target.userId else asRenter target.userId)).map
          Review.rating = ratings at moves
      split at moves <;>
        (obtain ⟨rfl, rfl⟩ := Prod.mk.inj (Option.some.inj moves)
         exact .keep rfl rfl rfl)
  | updateUser target review call =>
      simp only [next, rate] at moves
      split at moves
      · obtain ⟨rfl, rfl⟩ := Prod.mk.inj (Option.some.inj moves)
        exact .keep rfl rfl rfl
      · obtain ⟨⟨account, later⟩, _, same⟩ := Option.map_eq_some_iff.mp moves
        obtain ⟨rfl, rfl⟩ := Prod.mk.inj same
        exact .keep rfl rfl (stored_afterUpdate target review later)
  | emit target review =>
      obtain ⟨rfl, rfl⟩ := Prod.mk.inj (Option.some.inj moves)
      exact .keep rfl rfl rfl
  | invalidateUser target review =>
      simp only [next] at moves
      have backend := store.backend_deleteByPattern
      have reviews := store.reviews_deleteByPattern
      split at moves <;>
        (obtain ⟨rfl, rfl⟩ := Prod.mk.inj (Option.some.inj moves)
         exact .keep (backend _) (reviews _) rfl)
  | invalidateListing review =>
      obtain ⟨rfl, rfl⟩ := Prod.mk.inj (Option.some.inj moves)
      exact .keep (store.backend_deleteByPattern _)
        (store.reviews_deleteByPattern _) rfl
  | created | threw => contradiction

theorem checked_of_starts {backend : Backend} (arrives : starts call = true) :
    Checked backend call := by
  cases call with
  | validateUserParticipation => trivial
  | findBooking | findExisting | save => contradiction
  | findReview | findRatings | updateUser | emit => trivial
  | invalidateUser | invalidateListing | created | threw => trivial

theorem checked_of_stored {backend : Backend} (stored : call.stored = true) :
    Checked backend call := by
  cases call with
  | validateUserParticipation | findBooking | findExisting | save => contradiction
  | findReview | findRatings | updateUser | emit => trivial
  | invalidateUser | invalidateListing | created | threw => trivial

/-- Bookings stay, and the moving call has checked what its next point needs. -/
theorem Effect.checked (effect : Effect environment store after call moved)
    (checked : Checked store.backend call) :
    after.backend = store.backend ∧ Checked after.backend moved := by
  cases effect with
  | validate passed kept =>
      subst kept
      exact ⟨rfl, participates_of_validate passed⟩
  | find found completed kept =>
      subst kept
      obtain ⟨booking, loaded, participant⟩ := checked
      obtain rfl := Except.ok.inj (found.symm.trans loaded)
      exact ⟨rfl, _, found, participant, completed⟩
  | absent none kept =>
      subst kept
      exact ⟨rfl, checked⟩
  | insert backend inserted => exact ⟨backend, trivial⟩
  | keep backend reviews stored => exact ⟨backend, checked_of_stored stored⟩

/-- A stored review is a stored one of before, or the one a call has inserted
whose checks all passed. -/
theorem Effect.reviewable (effect : Effect environment store after call moved)
    (checked : Checked store.backend call)
    (reviewable : ∀ review ∈ store.reviews.rows,
      Reviewable store.backend review.bookingId review.reviewerId) :
    ∀ review ∈ after.reviews.rows,
      Reviewable after.backend review.bookingId review.reviewerId := by
  intro review present
  cases effect with
  | validate passed kept | find found completed kept | absent none kept =>
      subst kept
      exact reviewable review present
  | insert backend inserted =>
      rw [backend]
      rw [inserted] at present
      rcases (store.reviews.mem_insert_iff _ _).mp present with old | rfl
      · exact reviewable review old
      · exact checked
  | keep backend reviews stored =>
      rw [backend]
      exact reviewable review (reviews ▸ present)

theorem author_ne_of_findByBooking {bookingId reviewerId : Nat}
    (none : findByBooking store bookingId reviewerId = none) :
    ∀ review ∈ store.reviews.rows, review.author ≠ some (bookingId, reviewerId) := by
  intro review present same
  have other := List.find?_eq_none.mp none review present
  obtain ⟨sameBooking, sameReviewer⟩ := Prod.mk.inj (Option.some.inj same)
  simp [sameBooking, sameReviewer] at other

theorem Effect.oneEach (effect : Effect environment store after call moved)
    (first : ∀ reviewerId dto booking, call = save reviewerId dto booking →
      findByBooking store dto.bookingId reviewerId = none)
    (oneEach : OneEach Review.author store.reviews.rows) :
    OneEach Review.author after.reviews.rows := by
  cases effect with
  | validate passed kept | find found completed kept | absent none kept =>
      subst kept
      exact oneEach
  | @insert reviewerId dto booking target backend inserted =>
      rw [inserted]
      have free := author_ne_of_findByBooking (first reviewerId dto booking rfl)
      refine oneEach.add (fun row => (store.reviews.mem_insert_iff _ _).mp) ?_
      intro row present shared named
      rw [← named]
      exact free row present
  | keep backend reviews stored =>
      rw [reviews]
      exact oneEach

end ReviewCreation

section Runs

open ReviewCreation

variable {crypto : Crypto} {start last : Config ReviewStore ReviewCreation}
  {allowed : Config ReviewStore ReviewCreation →
    Move ReviewCreation UserEnvironment → Prop}

/-- In every run, allowed or not, bookings stay as they are, and every review is
by a participant of a completed booking. -/
theorem reviews_reviewable (noCalls : start.calls = [])
    (reviewable : ∀ review ∈ start.store.reviews.rows,
      Reviewable start.store.backend review.bookingId review.reviewerId)
    (reached : Run (reviewSystem crypto).step allowed start last) :
    last.store.backend = start.store.backend ∧
      ∀ review ∈ last.store.reviews.rows,
        Reviewable last.store.backend review.bookingId review.reviewerId := by
  refine (InterleavedCalls.invariant (reviewSystem crypto)
    (fun store => store.backend = start.store.backend ∧
      ∀ review ∈ store.reviews.rows,
        Reviewable store.backend review.bookingId review.reviewerId)
    (fun store call => Checked store.backend call) ⟨rfl, reviewable⟩ ?_ ?_ ?_
    reached).1
  · rw [noCalls]
    intro call present
    contradiction
  · intro store call _ arrives
    exact checked_of_starts arrives
  · intro config index environment call store moved _ found moves shared own
    have effect := effect_of_next moves
    have checked := own call (mem_of_index found)
    obtain ⟨backend, movedChecked⟩ := effect.checked checked
    refine ⟨⟨backend.trans shared.1, effect.reviewable checked shared.2⟩,
      movedChecked, fun j other _ stood => ?_⟩
    rw [backend]
    exact own other (mem_of_index stood)

/-- A booking has at most one review by each reviewer, all by participants and
of completed bookings, if each review is inserted while there is none. -/
theorem one_review_each (noCalls : start.calls = [])
    (oneEach : OneEach Review.author start.store.reviews.rows)
    (reviewable : ∀ review ∈ start.store.reviews.rows,
      Reviewable start.store.backend review.bookingId review.reviewerId)
    (reached : Run (reviewSystem crypto).step InsertsFirst start last) :
    OneEach Review.author last.store.reviews.rows ∧
      last.store.backend = start.store.backend ∧
        ∀ review ∈ last.store.reviews.rows,
          Reviewable last.store.backend review.bookingId review.reviewerId := by
  refine ⟨?_, reviews_reviewable noCalls reviewable reached⟩
  refine store_invariant (reviewSystem crypto)
    (fun store => OneEach Review.author store.reviews.rows) oneEach ?_ reached
  intro config index environment call store moved first found moves oneEach
  refine (effect_of_next moves).oneEach ?_ oneEach
  rintro reviewerId dto booking rfl
  simpa only [InsertsFirst, found] using first

end Runs

private def reviewsIdle : Config ReviewStore ReviewCreation :=
  ⟨reviewsStart, []⟩

/-- The renter begins to review the booking. -/
private def renterReviews : ReviewCreation :=
  .validateUserParticipation 2 fiveStars

private def stepsOf (index count : Nat) :
    List (Move ReviewCreation UserEnvironment) :=
  List.replicate count (.act index .atZero)

/-- An insert is made only into a table without reviews. -/
private def insertsIntoEmpty (config : Config ReviewStore ReviewCreation) :
    Move ReviewCreation UserEnvironment → Bool
  | .spawn _ => true
  | .act index _ =>
      match config.calls[index]? with
      | some (.save _ _ _) => config.store.reviews.rows.isEmpty
      | _ => true

private theorem insertsFirst_of_insertsIntoEmpty
    (config : Config ReviewStore ReviewCreation)
    (label : Move ReviewCreation UserEnvironment)
    (empty : insertsIntoEmpty config label = true) :
    ReviewCreation.InsertsFirst config label := by
  cases label with
  | spawn => trivial
  | act index environment =>
      simp only [insertsIntoEmpty, ReviewCreation.InsertsFirst] at empty ⊢
      split
      · next reviewerId dto booking found =>
          simp only [found, List.isEmpty_iff] at empty
          unfold findByBooking
          rw [empty]
          rfl
      · trivial

/-- The renter submits a review, and then the same one again. -/
theorem one_review_each_sample :
    ∃ last, Run (reviewSystem .plain).step ReviewCreation.InsertsFirst reviewsIdle
        last ∧
      OneEach Review.author last.store.reviews.rows ∧
      last.store.reviews.rows.map Review.author = [some (1, 2)] := by
  have reached : Run (reviewSystem .plain).step ReviewCreation.InsertsFirst
      reviewsIdle _ :=
    Run.start.executeChecked insertsIntoEmpty insertsFirst_of_insertsIntoEmpty
      (.spawn renterReviews :: stepsOf 0 22 ++
        .spawn renterReviews :: stepsOf 1 3) rfl
  refine ⟨_, reached, (one_review_each rfl ?_ ?_ reached).1, by decide⟩
  · exact OneEach.nil _
  · intro review present
    contradiction

/-- Two creations by the renter both find no review and both insert one. -/
theorem two_reviews_of_one_booking :
    ∃ last, Reachable (reviewSystem .plain).step reviewsIdle last ∧
      ¬ OneEach Review.author last.store.reviews.rows := by
  refine ⟨_, reachable_of_execute _ _ (.spawn renterReviews ::
    .spawn renterReviews :: stepsOf 0 3 ++ stepsOf 1 3 ++ stepsOf 0 1 ++
      stepsOf 1 1) rfl, ?_⟩
  intro oneEach
  have same := oneEach ⟨1, 1, 2, 5, none, 0⟩ (by decide) ⟨2, 1, 2, 5, none, 0⟩
    (by decide) (1, 2) rfl rfl
  contradiction

end SpareSpace
