import SpareSpace.ReviewCaches
import SpareSpace.ListingSearch
import SpareSpace.ScriptTexts
import SpareSpace.SeparatedWords

/-!
# Families of cache keys

Every cached value has a key of words with colons between them, and all keys share the
part that the key store puts before them.  Values are deleted by patterns that say the
first words and leave the rest open.  Such a pattern covers the keys of its family and no
other key, and searches of listings with one key are one query.
-/

namespace SpareSpace

open GlobPatterns RedisService SeparatedWords

namespace UsersService

def userProfileCachePrefix : String := "user:profile:"

def userStatusCachePrefix : String := "user:status:"

def userRolesCachePrefix : String := "user:roles:"

/-- The key of a value that is kept for a user under a prefix. -/
def cacheKey (cachePrefix : String) (userId : Nat) : String :=
  s!"{cachePrefix}{userId}"

end UsersService

namespace TwoFactorService

def temp2faSecretPrefix : String := "2fa:temp:"

end TwoFactorService

namespace SubscriptionPlansService

def plansListPrefix : String := "subscription_plans:list:active:"

def planDetailPrefix : String := "subscription_plan:"

def planListKey (limit offset : Nat) : String :=
  s!"{plansListPrefix}limit:{limit}:offset:{offset}"

def planKey (planId : Nat) : String :=
  s!"{planDetailPrefix}{planId}"

def planListPattern : String :=
  s!"{plansListPrefix}*"

end SubscriptionPlansService

/-- What a cached value is kept for. -/
inductive CacheKey
  | listing (listingId : Nat)
  | typeListings (types : List ListingType) (limit offset : Nat)
  | userActiveListings (userId limit offset : Nat)
  | userProfile (userId : Nat)
  | userStatus (userId : Nat)
  | userRoles (userId : Nat)
  | tempSecret (userId : Nat)
  | listingReviews (listingId limit offset : Nat)
  | userReviews (userId limit offset : Nat) (role : Option UserRoleType)
  | planList (limit offset : Nat)
  | plan (planId : Nat)

/-- Whose values are deleted by a pattern. -/
inductive Invalidation
  | activeListingsOf (userId : Nat)
  | reviewsOfListing (listingId : Nat)
  | reviewsAboutUser (userId : Nat)
  | planLists

namespace ListingsService

def getListingCacheKey (listingId : Nat) : String :=
  s!"listing:{listingId}"

/-- The types in the key of a search. -/
def typesText (types : List ListingType) : String :=
  ScriptTexts.join '-'
    ((types.map ListingType.text).insertionSort fun first second => first ≤ second)

theorem getTypeListingsCacheKey_eq (types : List ListingType) (limit offset : Nat) :
    getTypeListingsCacheKey types limit offset =
      s!"listings:{typesText types}:limit:{limit}:offset:{offset}" :=
  rfl

end ListingsService

namespace ReviewsService

def reviewsListingCachePrefix : String := "reviews:listing:"

def reviewsUserCachePrefix : String := "reviews:user:"

/-- The pattern under a prefix and an id. -/
def cachePattern (cachePrefix : String) (id : Nat) : String :=
  s!"{cachePrefix}{id}:*"

theorem invalidateListingCache_eq (listingId : Nat) :
    invalidateListingCache listingId = Fallible.updates fun store =>
      .ok ((), store.deleteByPattern (cachePattern reviewsListingCachePrefix listingId)) :=
  rfl

theorem invalidateUserCache_eq (userId : Nat) :
    invalidateUserCache userId = Fallible.updates fun store =>
      .ok ((), store.deleteByPattern (cachePattern reviewsUserCachePrefix userId)) :=
  rfl

end ReviewsService

namespace CacheKey

def text : CacheKey → String
  | listing listingId => ListingsService.getListingCacheKey listingId
  | typeListings types limit offset =>
      ListingsService.getTypeListingsCacheKey types limit offset
  | userActiveListings userId limit offset =>
      ListingsService.getUserActiveListingsCacheKey userId limit offset
  | userProfile userId => UsersService.cacheKey UsersService.userProfileCachePrefix userId
  | userStatus userId => UsersService.cacheKey UsersService.userStatusCachePrefix userId
  | userRoles userId => UsersService.cacheKey UsersService.userRolesCachePrefix userId
  | tempSecret userId => UsersService.cacheKey TwoFactorService.temp2faSecretPrefix userId
  | listingReviews listingId limit offset =>
      ReviewsService.getListingCacheKey listingId limit offset
  | userReviews userId limit offset role =>
      ReviewsService.getUserCacheKey userId limit offset role
  | planList limit offset => SubscriptionPlansService.planListKey limit offset
  | plan planId => SubscriptionPlansService.planKey planId

/-- The first word of a key. -/
def head : CacheKey → String
  | listing _ => "listing"
  | typeListings _ _ _ => "listings"
  | userActiveListings _ _ _ | userProfile _ | userStatus _ | userRoles _ => "user"
  | tempSecret _ => "2fa"
  | listingReviews _ _ _ | userReviews _ _ _ _ => "reviews"
  | planList _ _ => "subscription_plans"
  | plan _ => "subscription_plan"

/-- The words between the first and the last. -/
def middle : CacheKey → List (List Char)
  | listing _ | plan _ => []
  | typeListings types limit _ =>
      [(ListingsService.typesText types).toList, "limit".toList, Nat.toDigits 10 limit,
        "offset".toList]
  | userActiveListings userId limit _ =>
      [Nat.toDigits 10 userId, "listings".toList, "active".toList, "limit".toList,
        Nat.toDigits 10 limit, "offset".toList]
  | userProfile _ => ["profile".toList]
  | userStatus _ => ["status".toList]
  | userRoles _ => ["roles".toList]
  | tempSecret _ => ["temp".toList]
  | listingReviews listingId limit _ =>
      ["listing".toList, Nat.toDigits 10 listingId, "limit".toList, Nat.toDigits 10 limit,
        "offset".toList]
  | userReviews userId limit offset _ =>
      ["user".toList, Nat.toDigits 10 userId, "limit".toList, Nat.toDigits 10 limit,
        "offset".toList, Nat.toDigits 10 offset, "role".toList]
  | planList limit _ =>
      ["list".toList, "active".toList, "limit".toList, Nat.toDigits 10 limit,
        "offset".toList]

def last : CacheKey → List Char
  | listing number | typeListings _ _ number | userActiveListings _ _ number
  | userProfile number | userStatus number | userRoles number | tempSecret number
  | listingReviews _ _ number | planList _ number | plan number => Nat.toDigits 10 number
  | userReviews _ _ _ role => (ReviewsService.roleText role).toList

theorem toList_text (key : CacheKey) :
    key.text.toList = terminated ':' (key.head.toList :: key.middle) ++ key.last := by
  cases key <;>
    simp [text, head, middle, last, toString, ListingsService.getListingCacheKey,
      ListingsService.getTypeListingsCacheKey_eq,
      ListingsService.getUserActiveListingsCacheKey, UsersService.cacheKey,
      UsersService.userProfileCachePrefix, UsersService.userStatusCachePrefix,
      UsersService.userRolesCachePrefix, TwoFactorService.temp2faSecretPrefix,
      listingKey_toList, userKey_toList,
      SubscriptionPlansService.planListKey, SubscriptionPlansService.plansListPrefix,
      SubscriptionPlansService.planKey, SubscriptionPlansService.planDetailPrefix]

end CacheKey

section Words

variable {character : Char} {word : List Char} {number : Nat}

theorem colon_not_mem_decimal : ':' ∉ Nat.toDigits 10 number :=
  fun present => absurd (isDigit_of_mem_decimal present) (by decide)

/-- A word with a letter does not end a number. -/
theorem not_suffix_decimal (letter : character.isDigit = false) :
    ¬ character :: word <:+ Nat.toDigits 10 number := by
  intro ends
  rw [isDigit_of_mem_decimal (ends.subset List.mem_cons_self)] at letter
  cases letter

theorem decimal_ne (letter : character.isDigit = false) :
    Nat.toDigits 10 number ≠ character :: word :=
  fun same => not_suffix_decimal letter ⟨[], same.symm⟩

theorem decimal_inj {number' : Nat} :
    Nat.toDigits 10 number = Nat.toDigits 10 number' ↔ number = number' :=
  ⟨decimal_injective, congrArg _⟩

theorem ListingType.mem_text {type : ListingType} (present : character ∈ type.text.toList) :
    character.isLower = false ∧ character ≠ ':' ∧ character ≠ '-' := by
  have all : (type.text.toList.all fun character =>
      decide (character.isLower = false ∧ character ≠ ':' ∧ character ≠ '-')) = true := by
    cases type <;> decide
  exact of_decide_eq_true (List.all_eq_true.mp all character present)

theorem ListingType.text_injective : Function.Injective ListingType.text := by
  intro first second same
  cases first <;> cases second <;> first | rfl | exact absurd same (by decide)

/-- The types in a key are written without colons and without small letters. -/
theorem ListingsService.mem_typesText {types : List ListingType}
    (present : character ∈ (typesText types).toList) :
    character.isLower = false ∧ character ≠ ':' := by
  rcases ScriptTexts.mem_join present with rfl | ⟨part, among, present⟩
  · decide
  · obtain ⟨type, _, rfl⟩ := List.mem_map.mp ((List.mem_insertionSort _).mp among)
    obtain ⟨capital, noColon, _⟩ := type.mem_text present
    exact ⟨capital, noColon⟩

theorem ListingsService.not_suffix_typesText {types : List ListingType}
    (lower : character.isLower = true) :
    ¬ character :: word <:+ (typesText types).toList := by
  intro ends
  rw [(mem_typesText (ends.subset List.mem_cons_self)).1] at lower
  cases lower

end Words

namespace CacheKey

theorem freeOf_middle (key : CacheKey) : FreeOf ':' (key.head.toList :: key.middle) := by
  have types (types : List ListingType) : ':' ∉ (ListingsService.typesText types).toList :=
    fun present => (ListingsService.mem_typesText present).2 rfl
  cases key <;> simp [FreeOf, head, middle, colon_not_mem_decimal, types]

theorem colon_not_mem_last (key : CacheKey) : ':' ∉ key.last := by
  cases key with
  | userReviews _ _ _ role => rcases role with _ | _ | _ | _ <;> exact of_decide_eq_true rfl
  | _ => exact colon_not_mem_decimal

/-- The words of a key can be read back. -/
theorem words_of_text_eq {first second : CacheKey} (same : first.text = second.text) :
    first.head.toList = second.head.toList ∧ first.middle = second.middle ∧
      first.last = second.last := by
  have texts := congrArg String.toList same
  rw [toList_text, toList_text, terminated_append_inj first.freeOf_middle
    second.freeOf_middle first.colon_not_mem_last second.colon_not_mem_last] at texts
  obtain ⟨words, last⟩ := texts
  exact ⟨(List.cons.inj words).1, (List.cons.inj words).2, last⟩

end CacheKey

namespace Invalidation

/-- The first words of a pattern. -/
def head : Invalidation → String
  | activeListingsOf _ => "user"
  | reviewsOfListing _ | reviewsAboutUser _ => "reviews"
  | planLists => "subscription_plans"

def middle : Invalidation → List (List Char)
  | activeListingsOf userId => [Nat.toDigits 10 userId, "listings".toList, "active".toList]
  | reviewsOfListing listingId => ["listing".toList, Nat.toDigits 10 listingId]
  | reviewsAboutUser userId => ["user".toList, Nat.toDigits 10 userId]
  | planLists => ["list".toList, "active".toList]

def pattern : Invalidation → String
  | activeListingsOf userId => ListingsService.getUserActiveListingsPattern userId
  | reviewsOfListing listingId =>
      ReviewsService.cachePattern ReviewsService.reviewsListingCachePrefix listingId
  | reviewsAboutUser userId =>
      ReviewsService.cachePattern ReviewsService.reviewsUserCachePrefix userId
  | planLists => SubscriptionPlansService.planListPattern

/-- The keys of what is deleted. -/
def Family : Invalidation → CacheKey → Prop
  | activeListingsOf userId, .userActiveListings owner _ _ => userId = owner
  | reviewsOfListing listingId, .listingReviews reviewed _ _ => listingId = reviewed
  | reviewsAboutUser userId, .userReviews reviewed _ _ _ => userId = reviewed
  | planLists, .planList _ _ => True
  | _, _ => False

theorem toList_pattern (invalidation : Invalidation) :
    invalidation.pattern.toList =
      terminated ':' (invalidation.head.toList :: invalidation.middle) ++ ['*'] := by
  cases invalidation <;>
    simp [pattern, ListingsService.getUserActiveListingsPattern,
      ReviewsService.cachePattern, ReviewsService.reviewsListingCachePrefix,
      ReviewsService.reviewsUserCachePrefix,
      SubscriptionPlansService.planListPattern, SubscriptionPlansService.plansListPrefix,
      head, middle, toString]

theorem freeOf_middle (invalidation : Invalidation) :
    FreeOf ':' (invalidation.head.toList :: invalidation.middle) := by
  cases invalidation <;> simp [FreeOf, head, middle, colon_not_mem_decimal]

theorem plain_words (invalidation : Invalidation) :
    ∀ character ∈ terminated ':' (invalidation.head.toList :: invalidation.middle),
      Plain character := by
  have digits (number : Nat) : ∀ character ∈ Nat.toDigits 10 number, Plain character :=
    fun _ present => plain_of_isDigit (isDigit_of_mem_decimal present)
  have head : ∀ character ∈ invalidation.head.toList, Plain character := by
    cases invalidation <;> simp only [Invalidation.head] <;> exact plain_of_all (by decide)
  have middle : ∀ word ∈ invalidation.middle, ∀ character ∈ word, Plain character := by
    cases invalidation <;> simp only [Invalidation.middle, List.forall_mem_cons]
    · exact ⟨digits _, plain_of_all (by decide), plain_of_all (by decide), by simp⟩
    · exact ⟨plain_of_all (by decide), digits _, by simp⟩
    · exact ⟨plain_of_all (by decide), digits _, by simp⟩
    · exact ⟨plain_of_all (by decide), plain_of_all (by decide), by simp⟩
  intro character present
  rcases eq_or_mem_of_mem_terminated present with rfl | ⟨word, among, present⟩
  · decide
  · rcases List.mem_cons.mp among with rfl | among
    · exact head character present
    · exact middle word among character present

/-- The words of a pattern stand in a key in a row if the key is of its family. -/
theorem occurs_iff (invalidation : Invalidation) (key : CacheKey) :
    Occurs invalidation.head.toList invalidation.middle (key.head.toList :: key.middle) ↔
      invalidation.Family key := by
  cases invalidation <;> cases key <;>
    simp [Occurs, head, middle, CacheKey.head, CacheKey.middle, Family, List.suffix_cons_iff,
      not_suffix_decimal, decimal_ne, decimal_inj, ListingsService.not_suffix_typesText]

end Invalidation

/-- What the key store puts before every key holds no first word of a pattern. -/
def HoldsNoFirstWord (space : String) : Prop :=
  ∀ word ∈ ["user", "reviews", "subscription_plans"], ¬ word.toList ++ [':'] <:+: space.toList

/-- A pattern covers the keys of its family and no other key. -/
theorem Invalidation.covers_iff {space : String} (free : HoldsNoFirstWord space)
    (invalidation : Invalidation) (key : CacheKey) :
    covers (parse none (normalizedPattern invalidation.pattern))
        (space ++ key.text).toList = true ↔ invalidation.Family key := by
  obtain ⟨freeHead, _⟩ := freeOf_cons.mp invalidation.freeOf_middle
  obtain ⟨freeFirst, _⟩ := freeOf_cons.mp key.freeOf_middle
  have absent : ¬ invalidation.head.toList ++ [':'] <:+: space.toList := by
    cases invalidation <;> exact free _ (by simp [Invalidation.head])
  have apart : key.head.toList <:+ invalidation.head.toList →
      invalidation.head.toList = key.head.toList := by
    cases invalidation <;> cases key <;>
      simp [Invalidation.head, CacheKey.head, List.suffix_cons_iff]
  rw [covers_normalizedPattern_iff invalidation.toList_pattern (by simp)
    invalidation.plain_words, String.toList_append, key.toList_text, terminated_cons,
    terminated_cons, List.append_assoc, List.cons_append,
    infix_append_iff_of_apart freeHead freeFirst absent apart, ← terminated_cons,
    ← List.cons_append, ← List.append_assoc, ← terminated_cons,
    terminated_infix_iff invalidation.freeOf_middle key.freeOf_middle key.colon_not_mem_last,
    invalidation.occurs_iff key]

section SameQueries

/-- Two searches that ask the database the same: by the same user and with the same set of
types, and with all other fields the same. -/
structure SameQuery (first second : SearchListingsDto) (firstUser secondUser : Option Nat) :
    Prop where
  user : firstUser = secondUser
  types : ∀ type, type ∈ first.types.getD [] ↔ type ∈ second.types.getD []
  status : first.status = second.status
  limit : first.limit = second.limit
  offset : first.offset = second.offset
  others : { first with types := second.types } = second

/-- The condition on the type reads the set of types only. -/
theorem types_all_eq {first second : Option (List ListingType)}
    (same : ∀ type, type ∈ first.getD [] ↔ type ∈ second.getD []) (type : ListingType) :
    (first.all fun types => types.isEmpty || types.contains type) =
      second.all fun types => types.isEmpty || types.contains type := by
  have asList (types : Option (List ListingType)) :
      ((types.all fun types => types.isEmpty || types.contains type) = true) ↔
        ((∀ wanted, wanted ∉ types.getD []) ∨ type ∈ types.getD []) := by
    cases types <;> simp [List.eq_nil_iff_forall_not_mem]
  rw [Bool.eq_iff_iff, asList, asList, same type]
  simp only [same]

/-- The same listings are found. -/
theorem SameQuery.buildSearchQuery_eq {first second : SearchListingsDto}
    {firstUser secondUser : Option Nat}
    (same : SameQuery first second firstUser secondUser) (environment : SearchEnvironment)
    (row : ListingRow) :
    ListingsService.buildSearchQuery environment first firstUser row =
      ListingsService.buildSearchQuery environment second secondUser row := by
  obtain ⟨rfl, types, -, -, -, others⟩ := same
  have typesSame := types_all_eq types (row .type)
  rw [← others]
  simp only [ListingsService.buildSearchQuery, ListingsService.applySearchFilters, typesSame]
  rfl

/-- A search with no filter but the types. -/
def SearchListingsDto.ofTypes (types : Option (List ListingType)) (limit offset : Nat)
    (positive : 1 ≤ limit) : SearchListingsDto where
  status := some .active
  title := none
  types := types
  minPrice := none
  maxPrice := none
  pricePeriod := none
  longitude := none
  latitude := none
  radius := none
  amenities := none
  limit := limit
  offset := offset
  positive := positive

/-- The searches that are cached, and their keys. -/
theorem cachePlace_cases {searchDto : SearchListingsDto} {userId : Option Nat} {key : String}
    {ttlSec : Int}
    (cached : ListingsService.cachePlace searchDto userId = some (key, ttlSec)) :
    ∃ limit offset positive, (∃ owner, userId = some owner ∧
        searchDto = .ofTypes none limit offset positive ∧
        key = (CacheKey.userActiveListings owner limit offset).text) ∨
      ∃ types, types ≠ [] ∧ userId = none ∧
        searchDto = .ofTypes (some types) limit offset positive ∧
        key = (CacheKey.typeListings types limit offset).text := by
  obtain ⟨status, title, types, minPrice, maxPrice, pricePeriod, longitude, latitude, radius,
    amenities, limit, offset, positive⟩ := searchDto
  refine ⟨limit, offset, positive, ?_⟩
  unfold ListingsService.cachePlace at cached
  split at cached
  · next own =>
      simp only [ListingsService.canCacheUserActiveListings, SearchListingsDto.hasNoFilters,
        Bool.and_eq_true, Option.isNone_iff_eq_none, beq_iff_eq] at own
      obtain ⟨⟨-, rfl⟩, ⟨⟨⟨⟨⟨⟨⟨⟨rfl, rfl⟩, rfl⟩, rfl⟩, rfl⟩, rfl⟩, rfl⟩, rfl⟩, rfl⟩⟩ := own
      obtain ⟨owner, rfl, place⟩ := Option.map_eq_some_iff.mp cached
      exact Or.inl ⟨owner, rfl, rfl, (congrArg Prod.fst place).symm⟩
  · split at cached
    · next shared =>
        simp only [ListingsService.canCacheTypeListings, SearchListingsDto.hasOnlyTypeFilter,
          Bool.and_eq_true, Option.isNone_iff_eq_none, beq_iff_eq] at shared
        obtain ⟨⟨rfl, rfl⟩, ⟨⟨⟨⟨⟨⟨⟨⟨some, rfl⟩, rfl⟩, rfl⟩, rfl⟩, rfl⟩, rfl⟩, rfl⟩, rfl⟩⟩ :=
          shared
        obtain ⟨types, rfl, place⟩ := Option.map_eq_some_iff.mp cached
        exact Or.inr ⟨types, by simpa using some, rfl, rfl, (congrArg Prod.fst place).symm⟩
    · cases cached

/-- The same types in a key are the same set of types. -/
theorem mem_iff_of_typesText_eq {first second : List ListingType} (filled : first ≠ [])
    (filled' : second ≠ [])
    (same : ListingsService.typesText first = ListingsService.typesText second)
    (type : ListingType) : type ∈ first ↔ type ∈ second := by
  have split {types : List ListingType} (filled : types ≠ []) :
      ScriptTexts.split '-' (ListingsService.typesText types) =
        (types.map ListingType.text).insertionSort fun first second => first ≤ second := by
    refine ScriptTexts.split_join (fun empty => filled ?_) fun part present dash => ?_
    · have lengths := congrArg List.length empty
      simpa using lengths
    · obtain ⟨type, _, rfl⟩ := List.mem_map.mp ((List.mem_insertionSort _).mp present)
      exact (type.mem_text dash).2.2 rfl
  have sorted := congrArg (ScriptTexts.split '-') same
  rw [split filled, split filled'] at sorted
  have among {types : List ListingType} : type ∈ types ↔ type.text ∈
      (types.map ListingType.text).insertionSort fun first second => first ≤ second := by
    rw [List.mem_insertionSort, List.mem_map_of_injective ListingType.text_injective]
  rw [among, among, sorted]

theorem sameQuery_of_cachePlace {first second : SearchListingsDto}
    {firstUser secondUser : Option Nat} {key : String} {firstTtl secondTtl : Int}
    (cachedFirst : ListingsService.cachePlace first firstUser = some (key, firstTtl))
    (cachedSecond : ListingsService.cachePlace second secondUser = some (key, secondTtl)) :
    SameQuery first second firstUser secondUser := by
  obtain ⟨limit, offset, positive, placeFirst⟩ := cachePlace_cases cachedFirst
  obtain ⟨limit', offset', positive', placeSecond⟩ := cachePlace_cases cachedSecond
  rcases placeFirst with ⟨owner, rfl, rfl, rfl⟩ | ⟨types, filled, rfl, rfl, rfl⟩ <;>
    rcases placeSecond with ⟨owner', rfl, rfl, text⟩ | ⟨types', filled', rfl, rfl, text⟩
  · obtain ⟨-, middle, last⟩ := CacheKey.words_of_text_eq text
    simp only [CacheKey.middle, CacheKey.last, List.cons.injEq, decimal_inj] at middle last
    obtain ⟨rfl, -, -, -, rfl, -⟩ := middle
    subst last
    exact ⟨rfl, fun _ => Iff.rfl, rfl, rfl, rfl, rfl⟩
  · obtain ⟨head, -⟩ := CacheKey.words_of_text_eq text
    simp only [CacheKey.head] at head
    exact absurd head (by decide)
  · obtain ⟨head, -⟩ := CacheKey.words_of_text_eq text
    simp only [CacheKey.head] at head
    exact absurd head (by decide)
  · obtain ⟨-, middle, last⟩ := CacheKey.words_of_text_eq text
    simp only [CacheKey.middle, CacheKey.last, List.cons.injEq, decimal_inj,
      String.toList_inj] at middle last
    obtain ⟨types, -, rfl, -⟩ := middle
    subst last
    exact ⟨rfl, mem_iff_of_typesText_eq filled filled' types, rfl, rfl, rfl, rfl⟩

end SameQueries

/-- Deleting by a pattern takes the family out of the cache and leaves all other keys. -/
theorem Invalidation.deleteMatching_eq {α : Type} {space : String}
    (free : HoldsNoFirstWord space) (invalidation : Invalidation)
    (pages : String → Cached α) (key : CacheKey) :
    (invalidation.Family key →
        deleteMatching invalidation.pattern pages (space ++ key.text) = none) ∧
      (¬ invalidation.Family key →
        deleteMatching invalidation.pattern pages (space ++ key.text) =
          pages (space ++ key.text)) := by
  have covered := invalidation.covers_iff free key
  exact ⟨fun family => if_pos (covered.mpr family),
    fun other => if_neg fun covers => other (covered.mp covers)⟩

/-- **Keys separate, and patterns hit exactly their family.**  Searches that are cached
under one key are one query.  Suppose that what the key store puts before every key holds
no first word of a pattern.  Then the pattern of an invalidation covers a stored key if
and only if the key is of its family. -/
theorem cache_keys_separate (space : String) (free : HoldsNoFirstWord space) :
    (∀ (first second : SearchListingsDto) (firstUser secondUser : Option Nat)
        (key : String) (firstTtl secondTtl : Int),
      ListingsService.cachePlace first firstUser = some (key, firstTtl) →
      ListingsService.cachePlace second secondUser = some (key, secondTtl) →
        SameQuery first second firstUser secondUser ∧
          ∀ environment row,
            ListingsService.buildSearchQuery environment first firstUser row =
              ListingsService.buildSearchQuery environment second secondUser row) ∧
      ∀ (invalidation : Invalidation) (key : CacheKey),
        covers (parse none (normalizedPattern invalidation.pattern))
            (space ++ key.text).toList = true ↔ invalidation.Family key := by
  constructor
  · intro first second firstUser secondUser key firstTtl secondTtl cachedFirst cachedSecond
    have same := sameQuery_of_cachePlace cachedFirst cachedSecond
    exact ⟨same, same.buildSearchQuery_eq⟩
  · exact fun invalidation key => invalidation.covers_iff free key

/-- Two spellings of one search, and the keys of two users whose ids end alike. -/
theorem cache_keys_separate_in_keyv :
    SameQuery (.ofTypes (some [.garage, .storage]) 20 0 (by decide))
        (.ofTypes (some [.storage, .garage]) 20 0 (by decide)) none none ∧
      covers (parse none (normalizedPattern (Invalidation.activeListingsOf 5).pattern))
        ("keyv::keyv:" ++ (CacheKey.userActiveListings 5 20 0).text).toList = true ∧
      ¬ covers (parse none (normalizedPattern (Invalidation.activeListingsOf 5).pattern))
        ("keyv::keyv:" ++ (CacheKey.userActiveListings 15 20 0).text).toList = true := by
  have free : HoldsNoFirstWord "keyv::keyv:" := by
    unfold HoldsNoFirstWord
    decide
  obtain ⟨separate, hits⟩ := cache_keys_separate "keyv::keyv:" free
  refine ⟨(separate _ _ none none "listings:GARAGE-STORAGE:limit:20:offset:0" 900 900
    (by decide +kernel) (by decide +kernel)).1, ?_, ?_⟩
  · exact (hits (.activeListingsOf 5) (.userActiveListings 5 20 0)).mpr rfl
  · intro covered
    have family := (hits (.activeListingsOf 5) (.userActiveListings 15 20 0)).mp covered
    simp [Invalidation.Family] at family

end SpareSpace
