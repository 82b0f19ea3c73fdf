import SpareSpace.Entities
import SpareSpace.ColumnRecords
import SpareSpace.RedisService
import SpareSpace.InterleavedCalls

/-!
# Interleaved calls on one listing

The calls of the listings service on one listing, cut at every cache, repository
and geocoder call.  Edits and status changes save a whole listing that may come
from the cache; a view counts the viewer after a check that the viewer is new.
The time stamps and the cached lists of listings, which have keys of their own,
are left out.
-/

namespace SpareSpace

open ColumnRecords InterleavedCalls

inductive ListingType
  | garage
  | storage
  | parking
  | motoSlot
  | workshop
  | miniFactory
  | boatSlot
  | other
  deriving DecidableEq, Repr

inductive SpaceAmenity
  | security
  | videoSurveillance
  | heating
  | ventilation
  | waterSupply
  | electricity
  | wifi
  | ethernet
  deriving DecidableEq, Repr

structure LocationDto where
  longitude : Rat
  latitude : Rat
  deriving DecidableEq

inductive ListingColumn
  | user
  | type
  | title
  | description
  | pricings
  | location
  | address
  | size
  | photoUrls
  | amenities
  | availability
  | status
  | rating
  | viewsCount
  | repostsCount
  | favoritesCount
  deriving DecidableEq, Repr

/-- The type of a column; sizes and ratings are counted in hundredths. -/
abbrev ListingColumn.Value : ListingColumn → Type
  | user | viewsCount | repostsCount | favoritesCount => Nat
  | type => ListingType
  | title | address => String
  | description => Option String
  | pricings => List ListingPricing
  | location => Option LocationDto
  | size | rating => Option Nat
  | photoUrls => Option (List String)
  | amenities => Option (List SpaceAmenity)
  | availability => List PeriodDto
  | status => ListingStatus

/-- A row of the `listings` table with its tariffs, without its id. -/
abbrev ListingRow := Record ListingColumn.Value

/-- A `Partial<Listing>`, and a listing as the cache keeps it. -/
abbrev PartialListing := Patch ListingColumn.Value

structure CreateListingDto where
  type : ListingType
  title : String
  description : Option String
  pricings : List ListingPricing
  location : LocationDto
  size : Option Nat
  photoUrls : Option (List String)
  amenities : Option (List SpaceAmenity)
  availability : List PeriodDto
  deriving DecidableEq

/-- An `UpdateListingDto`; a field that is not given is undefined. -/
structure UpdateListingDto where
  type : Option ListingType
  title : Option String
  description : Option String
  pricings : Option (List ListingPricing)
  location : Option LocationDto
  size : Option Nat
  photoUrls : Option (List String)
  amenities : Option (List SpaceAmenity)
  availability : Option (List PeriodDto)
  deriving DecidableEq

namespace ListingsService

def listingCacheTtlSec : Int := 3600

/-- The row of a created listing: the given columns and the defaults. -/
def createdRow (userId : Nat) (createDto : CreateListingDto)
    (address : String) : ListingRow
  | .user => userId
  | .type => createDto.type
  | .title => createDto.title
  | .description => createDto.description
  | .pricings => createDto.pricings
  | .location => some createDto.location
  | .address => address
  | .size => createDto.size
  | .photoUrls => createDto.photoUrls
  | .amenities => createDto.amenities
  | .availability => createDto.availability
  | .status => .active
  | .rating => none
  | .viewsCount | .repostsCount | .favoritesCount => (0 : Nat)

/-- The columns an update sets, the address apart. -/
def editedColumns (dto : UpdateListingDto) : PartialListing
  | .type => dto.type
  | .title => dto.title
  | .description => dto.description.map some
  | .pricings => dto.pricings
  | .location => dto.location.map some
  | .size => dto.size.map some
  | .photoUrls => dto.photoUrls.map some
  | .amenities => dto.amenities.map some
  | .availability => dto.availability
  | .user | .address | .status | .rating => none
  | .viewsCount | .repostsCount | .favoritesCount => none

def prepareListingData (dto : UpdateListingDto) :
    Except HttpException PartialListing :=
  if ((dto.pricings.getD []).map ListingPricing.pricePeriod).Nodup then
    .ok (editedColumns dto)
  else
    .error (.badRequest "Price periods cannot be duplicated")

def addressColumn (address : String) : PartialListing
  | .address => some address
  | _ => none

def statusColumn (newStatus : ListingStatus) : PartialListing
  | .status => some newStatus
  | _ => none

/-- `listingRepository.increment` of `viewsCount` by one. -/
def incremented (row : ListingRow) : PartialListing
  | .viewsCount => some (row .viewsCount + 1)
  | _ => none

end ListingsService

open ListingsService

/-- The row of a listing, the value kept under `listing:{id}`, the users with a
`view_history` row for the listing, and a record, for the statement of results
only, of the statuses that the `updateStatus` calls have settled on, the last
one first. -/
structure ListingStore where
  row : ListingRow
  cache : Cached PartialListing
  viewHistory : List Nat
  statuses : List ListingStatus

/-- What a call finds outside the store: the clock, and the geocoder's answer,
`none` where it has no address. -/
structure ListingEnvironment where
  now : Int
  address : Option String
  deriving DecidableEq, Repr

/-- What a listing is loaded for. -/
inductive ListingPurpose
  | read
  | update (updateDto : UpdateListingDto)
  | updateStatus (newStatus : ListingStatus)
  deriving DecidableEq

/-- The points of `findByIdWithCache`. -/
inductive ListingPoint
  | get
  | find
  | set (listing : PartialListing)

/-- The program points of the calls, each before the step it is named for. -/
inductive ListingCall
  | loading (purpose : ListingPurpose) (point : ListingPoint)
  | loaded (purpose : ListingPurpose) (listing : PartialListing)
  | geocoding (patch listing : PartialListing)
  | deleting (patch listing : PartialListing)
  | saving (patch listing : PartialListing)
  | savingStatus (newStatus : ListingStatus) (listing : PartialListing)
  | invalidating (newStatus : ListingStatus)
  | checkingView (userId : Nat)
  | incrementing (userId : Nat)
  | deletingViewed (userId : Nat)
  | inserting (userId : Nat)
  | found (listing : PartialListing)
  | updated (patch : PartialListing)
  | statusUpdated (newStatus : ListingStatus)
  | unchanged (newStatus : ListingStatus)
  | viewed (userId : Nat)
  | alreadyViewed (userId : Nat)
  | threw (error : HttpException)

namespace ListingStore

def save (store : ListingStore) (patch : PartialListing) : ListingStore :=
  { store with row := assign store.row patch }

/-- `redisService.delete` of the cached listing. -/
def deleteCached (store : ListingStore) : ListingStore :=
  { store with cache := none }

/-- Note a status that an `updateStatus` call has settled on. -/
def settle (store : ListingStore) (newStatus : ListingStatus) : ListingStore :=
  { store with statuses := newStatus :: store.statuses }

end ListingStore

/-- `keyv.set` of the cached listing. -/
def ListingStore.fill (store : ListingStore) (now : Int)
    (listing : PartialListing) : ListingStore :=
  { store with cache := RedisService.entry now listingCacheTtlSec listing }

namespace ListingCall

def addressNotFound : HttpException :=
  .badRequest "Не удалось определить корректный адрес по указанным координатам."

/-- What follows a load. -/
def proceed (store : ListingStore) (listing : PartialListing) :
    ListingPurpose → ListingStore × ListingCall
  | .read => (store, found listing)
  | .update updateDto =>
      match prepareListingData updateDto with
      | .error error => (store, threw error)
      | .ok patch =>
          if updateDto.location.isSome then
            (store, geocoding patch listing)
          else
            (store, deleting patch listing)
  | .updateStatus newStatus =>
      if listing .status = some newStatus then
        (store.settle newStatus, unchanged newStatus)
      else
        (store, savingStatus newStatus listing)

def next (environment : ListingEnvironment) (store : ListingStore) :
    ListingCall → Option (ListingStore × ListingCall)
  | loading purpose .get =>
      match RedisService.get environment.now store.cache with
      | some listing => some (store, loaded purpose listing)
      | none => some (store, loading purpose .find)
  | loading purpose .find =>
      some (store, loading purpose (.set (select (fun _ => true) store.row)))
  | loading purpose (.set listing) =>
      some (store.fill environment.now listing, loaded purpose listing)
  | loaded purpose listing => some (proceed store listing purpose)
  | geocoding patch listing =>
      match environment.address.filter fun address => address != "" with
      | none => some (store, threw addressNotFound)
      | some address =>
          some (store, deleting (overlay patch (addressColumn address)) listing)
  | deleting patch listing => some (store.deleteCached, saving patch listing)
  | saving patch listing =>
      some (store.save (overlay listing patch), updated patch)
  | savingStatus newStatus listing =>
      some ((store.save (overlay listing (statusColumn newStatus))).settle
        newStatus, invalidating newStatus)
  | invalidating newStatus => some (store.deleteCached, statusUpdated newStatus)
  | checkingView userId =>
      if userId ∈ store.viewHistory then
        some (store, alreadyViewed userId)
      else
        some (store, incrementing userId)
  | incrementing userId =>
      some (store.save (incremented store.row), deletingViewed userId)
  | deletingViewed userId => some (store.deleteCached, inserting userId)
  | inserting userId =>
      some ({ store with viewHistory := userId :: store.viewHistory },
        viewed userId)
  | found _ | updated _ | statusUpdated _ | unchanged _ => none
  | viewed _ | alreadyViewed _ | threw _ => none

def starts : ListingCall → Bool
  | loading _ .get | checkingView _ => true
  | _ => false

/-- Whether the call has neither returned nor thrown. -/
def inFlight : ListingCall → Bool
  | found _ | updated _ | statusUpdated _ | unchanged _ => false
  | viewed _ | alreadyViewed _ | threw _ => false
  | _ => true

/-- What a step does to the store. -/
inductive Effect (environment : ListingEnvironment)
    (store after : ListingStore) : ListingCall → ListingCall → Prop
  | miss {purpose} (kept : after = store) :
      Effect environment store after (loading purpose .get)
        (loading purpose .find)
  | find {purpose} (kept : after = store) :
      Effect environment store after (loading purpose .find)
        (loading purpose (.set (select (fun _ => true) store.row)))
  | hit {purpose listing} (kept : after = store) :
      Effect environment store after (loading purpose .get)
        (loaded purpose listing)
  | fill {purpose listing} (filled : after = store.fill environment.now listing) :
      Effect environment store after (loading purpose (.set listing))
        (loaded purpose listing)
  | read {listing} (kept : after = store) :
      Effect environment store after (loaded .read listing) (found listing)
  | reject {updateDto listing error}
      (refused : prepareListingData updateDto = .error error)
      (kept : after = store) :
      Effect environment store after (loaded (.update updateDto) listing)
        (threw error)
  | geocode {updateDto listing} (kept : after = store) :
      Effect environment store after (loaded (.update updateDto) listing)
        (geocoding (editedColumns updateDto) listing)
  | prepare {updateDto listing} (kept : after = store) :
      Effect environment store after (loaded (.update updateDto) listing)
        (deleting (editedColumns updateDto) listing)
  | lost {patch listing error}
      (nowhere : environment.address.filter (fun address => address != "") = none)
      (kept : after = store) :
      Effect environment store after (geocoding patch listing) (threw error)
  | locate {patch listing address} (kept : after = store) :
      Effect environment store after (geocoding patch listing)
        (deleting (overlay patch (addressColumn address)) listing)
  | delete {patch listing} (deleted : after = store.deleteCached) :
      Effect environment store after (deleting patch listing)
        (saving patch listing)
  | save {patch listing} (saved : after = store.save (overlay listing patch)) :
      Effect environment store after (saving patch listing) (updated patch)
  | same {newStatus} {listing : PartialListing}
      (held : listing .status = some newStatus)
      (settled : after = store.settle newStatus) :
      Effect environment store after (loaded (.updateStatus newStatus) listing)
        (unchanged newStatus)
  | differ {newStatus} {listing : PartialListing}
      (other : listing .status ≠ some newStatus) (kept : after = store) :
      Effect environment store after (loaded (.updateStatus newStatus) listing)
        (savingStatus newStatus listing)
  | saveStatus {newStatus listing} (saved : after =
        (store.save (overlay listing (statusColumn newStatus))).settle
          newStatus) :
      Effect environment store after (savingStatus newStatus listing)
        (invalidating newStatus)
  | invalidate {newStatus} (deleted : after = store.deleteCached) :
      Effect environment store after (invalidating newStatus)
        (statusUpdated newStatus)
  | seen {userId} (kept : after = store) :
      Effect environment store after (checkingView userId)
        (alreadyViewed userId)
  | unseen {userId} (kept : after = store) :
      Effect environment store after (checkingView userId)
        (incrementing userId)
  | increment {userId} (saved : after = store.save (incremented store.row)) :
      Effect environment store after (incrementing userId)
        (deletingViewed userId)
  | deleteViewed {userId} (deleted : after = store.deleteCached) :
      Effect environment store after (deletingViewed userId)
        (inserting userId)
  | insert {userId} (inserted : after =
        { store with viewHistory := userId :: store.viewHistory }) :
      Effect environment store after (inserting userId) (viewed userId)

variable {environment : ListingEnvironment} {store after : ListingStore}
  {call moved : ListingCall}

theorem effect_of_proceed {purpose : ListingPurpose} {listing : PartialListing}
    (moves : proceed store listing purpose = (after, moved)) :
    Effect environment store after (loaded purpose listing) moved := by
  cases purpose with
  | read =>
      obtain ⟨rfl, rfl⟩ := Prod.mk.inj moves
      exact .read rfl
  | update updateDto =>
      simp only [proceed] at moves
      split at moves
      · next error refused =>
          obtain ⟨rfl, rfl⟩ := Prod.mk.inj moves
          exact .reject refused rfl
      · next patch prepared =>
          have patched : patch = editedColumns updateDto := by
            unfold prepareListingData at prepared
            split at prepared
            · exact (Except.ok.inj prepared).symm
            · contradiction
          split at moves
          · obtain ⟨rfl, rfl⟩ := Prod.mk.inj moves
            exact patched ▸ .geocode rfl
          · obtain ⟨rfl, rfl⟩ := Prod.mk.inj moves
            exact patched ▸ .prepare rfl
  | updateStatus newStatus =>
      simp only [proceed] at moves
      split at moves
      · next held =>
          obtain ⟨rfl, rfl⟩ := Prod.mk.inj moves
          exact .same held rfl
      · next other =>
          obtain ⟨rfl, rfl⟩ := Prod.mk.inj moves
          exact .differ other rfl

theorem effect_of_next
    (moves : next environment store call = some (after, moved)) :
    Effect environment store after call moved := by
  cases call with
  | loading purpose point =>
      cases point with
      | get =>
          simp only [next] at moves
          split at moves
          · obtain ⟨rfl, rfl⟩ := Prod.mk.inj (Option.some.inj moves)
            exact .hit rfl
          · obtain ⟨rfl, rfl⟩ := Prod.mk.inj (Option.some.inj moves)
            exact .miss rfl
      | find =>
          obtain ⟨rfl, rfl⟩ := Prod.mk.inj (Option.some.inj moves)
          exact .find rfl
      | set listing =>
          obtain ⟨rfl, rfl⟩ := Prod.mk.inj (Option.some.inj moves)
          exact .fill rfl
  | loaded purpose listing => exact effect_of_proceed (Option.some.inj moves)
  | geocoding patch listing =>
      simp only [next] at moves
      split at moves
      · next nowhere =>
          obtain ⟨rfl, rfl⟩ := Prod.mk.inj (Option.some.inj moves)
          exact .lost nowhere rfl
      · obtain ⟨rfl, rfl⟩ := Prod.mk.inj (Option.some.inj moves)
        exact .locate rfl
  | deleting patch listing =>
      obtain ⟨rfl, rfl⟩ := Prod.mk.inj (Option.some.inj moves)
      exact .delete rfl
  | saving patch listing =>
      obtain ⟨rfl, rfl⟩ := Prod.mk.inj (Option.some.inj moves)
      exact .save rfl
  | savingStatus newStatus listing =>
      obtain ⟨rfl, rfl⟩ := Prod.mk.inj (Option.some.inj moves)
      exact .saveStatus rfl
  | invalidating newStatus =>
      obtain ⟨rfl, rfl⟩ := Prod.mk.inj (Option.some.inj moves)
      exact .invalidate rfl
  | checkingView userId =>
      simp only [next] at moves
      split at moves
      · obtain ⟨rfl, rfl⟩ := Prod.mk.inj (Option.some.inj moves)
        exact .seen rfl
      · obtain ⟨rfl, rfl⟩ := Prod.mk.inj (Option.some.inj moves)
        exact .unseen rfl
  | incrementing userId =>
      obtain ⟨rfl, rfl⟩ := Prod.mk.inj (Option.some.inj moves)
      exact .increment rfl
  | deletingViewed userId =>
      obtain ⟨rfl, rfl⟩ := Prod.mk.inj (Option.some.inj moves)
      exact .deleteViewed rfl
  | inserting userId =>
      obtain ⟨rfl, rfl⟩ := Prod.mk.inj (Option.some.inj moves)
      exact .insert rfl
  | found | updated | statusUpdated | unchanged => contradiction
  | viewed | alreadyViewed | threw => contradiction

end ListingCall

/-- Calls of the listings service on one listing. -/
def listingSystem : System ListingStore ListingCall ListingEnvironment where
  starts := ListingCall.starts
  next := ListingCall.next

end SpareSpace
