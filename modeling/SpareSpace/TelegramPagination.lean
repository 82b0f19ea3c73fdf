import SpareSpace.Entities
import SpareSpace.ScriptTexts
import Mathlib.Algebra.Order.Floor.Div
import Mathlib.Tactic.Ring

/-!
# The pages of the Telegram bot

The bot shows the bookings and the listings of a user in pages.  The pages of a list
together are the list.  The buttons under a page carry a text with the entity, the page
to go to and an optional role, cut at its colons when the button is pressed; what is
pressed leads to the page before or after, and pressing forward from the first page
leads through every page once.
-/

namespace SpareSpace

open ScriptTexts

/-- What a button of a page carries; a page that is no number is `none`. -/
structure PaginationCallbackData where
  entity : String
  action : Option String
  page : Option Int
  extra : Option String
  deriving DecidableEq, Repr

namespace PaginationCallbackData

def fromString (data : String) : PaginationCallbackData :=
  let parts := split ':' data
  let extraParts := parts.drop 3
  { entity := parts.headD ""
    action := parts[1]?
    page := parts[2]?.bind parseInt
    extra := if extraParts.length > 0 then some (join ':' extraParts) else none }

def toString (data : PaginationCallbackData) : String :=
  let page := data.page.elim "NaN" ToString.toString
  let action := data.action.getD "undefined"
  let base := s!"{data.entity}:{action}:{page}"
  match data.extra with
  | some extra => if extra = "" then base else s!"{base}:{extra}"
  | none => base

end PaginationCallbackData

structure CallbackButton where
  text : String
  callbackData : String
  deriving DecidableEq, Repr

abbrev InlineKeyboard := List (List CallbackButton)

namespace TelegramPaginationService

/-- The row of buttons under a page. -/
def createPaginationKeyboard (currentPage totalPages : Int) (entity : String)
    (extra : Option String) : InlineKeyboard :=
  let prevPage := max 1 (currentPage - 1)
  let prevCallback :=
    if currentPage = 1 then
      "noop"
    else
      (PaginationCallbackData.mk entity (some "page") (some prevPage) extra).toString
  let nextPage := min totalPages (currentPage + 1)
  let nextCallback :=
    if currentPage = totalPages then
      "noop"
    else
      (PaginationCallbackData.mk entity (some "page") (some nextPage) extra).toString
  [[⟨if currentPage = 1 then " " else "◀️", prevCallback⟩,
    ⟨s!"{currentPage}/{totalPages}", "noop"⟩,
    ⟨if currentPage = totalPages then " " else "▶️", nextCallback⟩]]

/-- `Math.max(1, Math.ceil(totalItems / itemsPerPage))`. -/
def calculateTotalPages (itemsPerPage totalItems : Nat) : Nat :=
  max 1 (totalItems ⌈/⌉ itemsPerPage)

/-- Whether a page can be shown, with the message when it can not. -/
def validatePageRequest (requestedPage totalPages : Int) : Bool × Option String :=
  if requestedPage < 1 then
    (false, some "⚠️ Вы уже на первой странице")
  else if requestedPage > totalPages then
    (false, some "⚠️ Вы уже на последней странице")
  else
    (true, none)

end TelegramPaginationService

/-- What a request for a page is answered with. -/
inductive PageAnswer (Item : Type)
  | empty (text : String)
  | page (items : List Item) (page : Int) (total : Nat) (keyboard : InlineKeyboard)

section Handlers

open TelegramPaginationService

variable {Item : Type}

/-- A query with `take` and `skip` over the rows that it selects, in its order. -/
def findAndCount (rows : List Item) (limit : Nat) (offset : Int) :
    Except String (List Item × Nat) :=
  if offset < 0 then
    .error "OFFSET must not be negative"
  else
    .ok ((rows.drop offset.toNat).take limit, rows.length)

/-- `sendBookingsPage`, over the bookings of the user in this role. -/
def TelegramBookingsHandlerService.sendBookingsPage (itemsPerPage : Nat)
    (bookings : List Item) (role : UserRoleType) (page : Int) :
    Except String (PageAnswer Item) := do
  let result ← findAndCount bookings itemsPerPage ((page - 1) * itemsPerPage)
  let totalPages := calculateTotalPages itemsPerPage result.2
  if page < 1 then
    throw "⚠️ Вы уже на первой странице"
  if page > totalPages then
    throw "⚠️ Вы уже на последней странице"
  if result.2 = 0 then
    return .empty (if role = .landlord then "📭 Вы ничего не сдавали в аренду."
      else "📭 Вы ничего не арендовали.")
  let roleStr := if role = .landlord then "landlord" else "renter"
  return .page result.1 page result.2
    (createPaginationKeyboard page totalPages "bookings" (some roleStr))

/-- `sendListingsPage`, over the listings of the user. -/
def TelegramListingsHandlerService.sendListingsPage (itemsPerPage : Nat)
    (listings : List Item) (page : Int) : Except String (PageAnswer Item) := do
  let listingsCount := listings.length
  let totalPages := calculateTotalPages itemsPerPage listingsCount
  if page < 1 then
    throw "⚠️ Вы уже на первой странице"
  if page > totalPages ∧ totalPages > 0 then
    throw "⚠️ Вы уже на последней странице"
  if listingsCount = 0 then
    return .empty "📭 У вас пока нет объявлений"
  let result ← findAndCount listings itemsPerPage ((page - 1) * itemsPerPage)
  return .page result.1 page result.2
    (createPaginationKeyboard page totalPages "listings" none)

end Handlers

namespace PaginationCallbackData

private theorem split_colon {first : String} (plain : ':' ∉ first.toList) (rest : String) :
    split ':' (first ++ (":" ++ rest)) = first :: split ':' rest := by
  rw [← String.append_assoc]
  exact split_append_cons plain rest

/-- The text of a button is read as what the button carries. -/
theorem fromString_toString {entity action : String} (plainEntity : ':' ∉ entity.toList)
    (plainAction : ':' ∉ action.toList) (page : Nat) {extra : Option String}
    (filled : extra ≠ some "") :
    fromString (PaginationCallbackData.mk entity (some action) (some (page : Int))
      extra).toString = ⟨entity, some action, some page, extra⟩ := by
  have plainPage : ':' ∉ page.repr.toList := fun present =>
    absurd (isDigit_of_mem_repr present) (by decide)
  cases extra with
  | none =>
      have text : (PaginationCallbackData.mk entity (some action) (some (page : Int))
          none).toString = entity ++ (":" ++ (action ++ (":" ++ page.repr))) := by
        change entity ++ ":" ++ action ++ ":" ++ page.repr = _
        simp only [String.append_assoc]
      rw [fromString, text, split_colon plainEntity, split_colon plainAction,
        split_of_not_mem plainPage]
      simp [parseInt_repr]
  | some extra =>
      have text : (PaginationCallbackData.mk entity (some action) (some (page : Int))
          (some extra)).toString =
            entity ++ (":" ++ (action ++ (":" ++ (page.repr ++ (":" ++ extra))))) := by
        rw [toString]
        simp only
        rw [if_neg (fun empty => filled (congrArg some empty))]
        change entity ++ ":" ++ action ++ ":" ++ page.repr ++ ":" ++ extra = _
        simp only [String.append_assoc]
      rw [fromString, text, split_colon plainEntity, split_colon plainAction,
        split_colon plainPage]
      simp [parseInt_repr, join_split, List.length_pos_iff]

end PaginationCallbackData

section Windows

variable {Item : Type*}

/-- The pages of a list together are the list. -/
theorem flatMap_windows (items : List Item) {size pages : Nat}
    (covered : items.length ≤ pages * size) :
    (List.range pages).flatMap (fun page => (items.drop (page * size)).take size) =
      items := by
  induction pages generalizing items with
  | zero =>
      rw [Nat.zero_mul, Nat.le_zero, List.length_eq_zero_iff] at covered
      rw [covered]
      rfl
  | succ pages ih =>
      rw [List.range_succ_eq_map, List.flatMap_cons, List.flatMap_map]
      have rest := ih (items.drop size) (by rw [List.length_drop, Nat.succ_mul] at *; omega)
      simp only [List.drop_drop] at rest
      simp only [Nat.succ_mul, Nat.add_comm _ size, rest]
      simp

end Windows

namespace TelegramPaginationService

variable {itemsPerPage : Nat} {entity : String} {extra : Option String}

theorem one_le_calculateTotalPages (itemsPerPage totalItems : Nat) :
    1 ≤ calculateTotalPages itemsPerPage totalItems :=
  le_max_left _ _

theorem le_calculateTotalPages_mul (positive : 0 < itemsPerPage) (totalItems : Nat) :
    totalItems ≤ calculateTotalPages itemsPerPage totalItems * itemsPerPage := by
  have covered : totalItems ≤ itemsPerPage • (totalItems ⌈/⌉ itemsPerPage) :=
    le_smul_ceilDiv positive
  rw [smul_eq_mul, mul_comm] at covered
  exact covered.trans (Nat.mul_le_mul_right _ (le_max_right _ _))

/-- The window of a page. -/
def pageWindow {Item : Type*} (itemsPerPage : Nat) (items : List Item) (page : Nat) :
    List Item :=
  (items.drop ((page - 1) * itemsPerPage)).take itemsPerPage

/-- The windows of the pages partition the items. -/
theorem flatMap_pageWindow {Item : Type*} (positive : 0 < itemsPerPage)
    (items : List Item) :
    (List.range' 1 (calculateTotalPages itemsPerPage items.length)).flatMap
      (pageWindow itemsPerPage items) = items := by
  rw [List.range'_eq_map_range, List.flatMap_map]
  simp only [pageWindow, Nat.add_sub_cancel_left]
  exact flatMap_windows items (le_calculateTotalPages_mul positive items.length)

/-- The text of a button that leads to a page. -/
def pageCallback (entity : String) (extra : Option String) (page : Nat) : String :=
  (PaginationCallbackData.mk entity (some "page") (some (page : Int)) extra).toString

/-- The buttons under a page of those that there are. -/
theorem createPaginationKeyboard_eq {page totalPages : Nat} (first : 1 ≤ page)
    (last : page ≤ totalPages) :
    createPaginationKeyboard page totalPages entity extra =
      [[⟨if page = 1 then " " else "◀️",
          if page = 1 then "noop" else pageCallback entity extra (page - 1)⟩,
        ⟨s!"{(page : Int)}/{(totalPages : Int)}", "noop"⟩,
        ⟨if page = totalPages then " " else "▶️",
          if page = totalPages then "noop" else pageCallback entity extra (page + 1)⟩]] := by
  have atFirst : ((page : Int) = 1) = (page = 1) := by simp
  have atLast : ((page : Int) = totalPages) = (page = totalPages) := by simp
  have previous : (if page = 1 then "noop" else (PaginationCallbackData.mk entity
        (some "page") (some (max 1 ((page : Int) - 1))) extra).toString) =
      if page = 1 then "noop" else pageCallback entity extra (page - 1) := by
    split
    · rfl
    · rw [pageCallback, show max 1 ((page : Int) - 1) = ((page - 1 : Nat) : Int) by omega]
  have next : (if page = totalPages then "noop" else (PaginationCallbackData.mk entity
        (some "page") (some (min (totalPages : Int) (page + 1))) extra).toString) =
      if page = totalPages then "noop" else pageCallback entity extra (page + 1) := by
    split
    · rfl
    · rw [pageCallback,
        show min (totalPages : Int) (page + 1) = ((page + 1 : Nat) : Int) by omega]
  simp only [createPaginationKeyboard, atFirst, atLast, previous, next]

theorem fromString_pageCallback (plain : ':' ∉ entity.toList) (filled : extra ≠ some "")
    (page : Nat) :
    PaginationCallbackData.fromString (pageCallback entity extra page) =
      ⟨entity, some "page", some page, extra⟩ :=
  PaginationCallbackData.fromString_toString plain (by decide) page filled

/-- Only the buttons that lead nowhere are marked so. -/
theorem pageCallback_ne_noop (plain : ':' ∉ entity.toList) (filled : extra ≠ some "")
    (page : Nat) : pageCallback entity extra page ≠ "noop" := by
  intro same
  have carried := fromString_pageCallback plain filled page
  rw [same] at carried
  exact absurd (congrArg PaginationCallbackData.action carried)
    (show (PaginationCallbackData.fromString "noop").action ≠ some "page" by decide +kernel)

/-- The page that the forward button under a page leads to, if it leads anywhere. -/
def forwardPage (currentPage totalPages : Int) (entity : String) (extra : Option String) :
    Option Int :=
  match createPaginationKeyboard currentPage totalPages entity extra with
  | [[_, _, forward]] =>
      if forward.callbackData = "noop" then
        none
      else
        (PaginationCallbackData.fromString forward.callbackData).page
  | _ => none

/-- The pages that pressing forward leads through from a page, in a number of presses. -/
def visitedPages (totalPages : Int) (entity : String) (extra : Option String) :
    Nat → Int → List Int
  | 0, _ => []
  | presses + 1, page =>
      page :: match forwardPage page totalPages entity extra with
        | some next => visitedPages totalPages entity extra presses next
        | none => []

theorem forwardPage_eq (plain : ':' ∉ entity.toList) (filled : extra ≠ some "")
    {page totalPages : Nat} (first : 1 ≤ page) (last : page ≤ totalPages) :
    forwardPage page totalPages entity extra =
      if page = totalPages then none else some ((page + 1 : Nat) : Int) := by
  rw [forwardPage, createPaginationKeyboard_eq first last]
  by_cases isLast : page = totalPages
  · simp [isLast]
  · simp [isLast, pageCallback_ne_noop plain filled, fromString_pageCallback plain filled]

/-- From any page, pressing forward leads through the pages up to the last. -/
theorem visitedPages_eq (plain : ':' ∉ entity.toList) (filled : extra ≠ some "")
    {page left totalPages presses : Nat} (first : 1 ≤ page)
    (ends : page + left = totalPages + 1) (nonempty : 0 < left) (enough : left ≤ presses) :
    visitedPages totalPages entity extra presses page =
      (List.range' page left).map Nat.cast := by
  induction left generalizing page presses with
  | zero => contradiction
  | succ left ih =>
      obtain ⟨presses, rfl⟩ : ∃ more, presses = more + 1 := ⟨presses - 1, by omega⟩
      rw [visitedPages, forwardPage_eq plain filled first (by omega), List.range'_succ,
        List.map_cons]
      by_cases isLast : page = totalPages
      · obtain rfl : left = 0 := by omega
        simp [isLast]
      · rw [if_neg isLast]
        simp only
        rw [ih (by omega) (by omega) (by omega) (by omega)]

section Handlers

variable {Item : Type} {rows : List Item} {page : Nat}

theorem findAndCount_page (itemsPerPage : Nat) (first : 1 ≤ page) :
    findAndCount rows itemsPerPage (((page : Int) - 1) * itemsPerPage) =
      .ok (pageWindow itemsPerPage rows page, rows.length) := by
  have offset : ((page : Int) - 1) * itemsPerPage = (((page - 1) * itemsPerPage : Nat) : Int) := by
    rw [Nat.cast_mul, Nat.cast_sub first, Nat.cast_one]
  rw [findAndCount, offset, if_neg (by omega), Int.toNat_natCast, pageWindow]

/-- A request for one of the pages of a user's bookings shows the window of the page. -/
theorem sendBookingsPage_eq (role : UserRoleType) (nonempty : rows ≠ []) (first : 1 ≤ page)
    (last : page ≤ calculateTotalPages itemsPerPage rows.length) :
    TelegramBookingsHandlerService.sendBookingsPage itemsPerPage rows role page =
      .ok (.page (pageWindow itemsPerPage rows page) page rows.length
        (createPaginationKeyboard page (calculateTotalPages itemsPerPage rows.length)
          "bookings" (some (if role = .landlord then "landlord" else "renter")))) := by
  have notBefore : ¬ (page : Int) < 1 := by omega
  have notAfter : ¬ (page : Int) > calculateTotalPages itemsPerPage rows.length := by omega
  simp only [TelegramBookingsHandlerService.sendBookingsPage, findAndCount_page _ first]
  simp [notBefore, notAfter, nonempty, bind, Except.bind, pure, Except.pure]

theorem sendListingsPage_eq (nonempty : rows ≠ []) (first : 1 ≤ page)
    (last : page ≤ calculateTotalPages itemsPerPage rows.length) :
    TelegramListingsHandlerService.sendListingsPage itemsPerPage rows page =
      .ok (.page (pageWindow itemsPerPage rows page) page rows.length
        (createPaginationKeyboard page (calculateTotalPages itemsPerPage rows.length)
          "listings" none)) := by
  have notBefore : ¬ (page : Int) < 1 := by omega
  have notAfter : ¬ (page : Int) > calculateTotalPages itemsPerPage rows.length := by omega
  simp only [TelegramListingsHandlerService.sendListingsPage, findAndCount_page _ first]
  simp [notBefore, notAfter, nonempty, bind, Except.bind, pure, Except.pure]

theorem validatePageRequest_valid_iff (requestedPage totalPages : Int) :
    (validatePageRequest requestedPage totalPages).1 = true ↔
      1 ≤ requestedPage ∧ requestedPage ≤ totalPages := by
  unfold validatePageRequest
  split_ifs <;> simp <;> omega

/-- The listings are refused with the message of the page check. -/
theorem sendListingsPage_refused {requestedPage : Int} {message : String}
    (refused : validatePageRequest requestedPage
      (calculateTotalPages itemsPerPage rows.length) = (false, some message)) :
    TelegramListingsHandlerService.sendListingsPage itemsPerPage rows requestedPage =
      .error message := by
  have somePage := one_le_calculateTotalPages itemsPerPage rows.length
  unfold validatePageRequest at refused
  simp only [TelegramListingsHandlerService.sendListingsPage]
  split_ifs at refused with before after
  · rw [if_pos before]
    cases refused
    rfl
  · rw [if_neg before, if_pos ⟨after, somePage⟩]
    cases refused
    rfl
  · cases refused

end Handlers

/-- Each button under a page that leads anywhere leads to the page before or after. -/
theorem leads_to_neighbour (plain : ':' ∉ entity.toList) (filled : extra ≠ some "")
    {page totalPages : Nat} (first : 1 ≤ page) (last : page ≤ totalPages)
    {row : List CallbackButton} {button : CallbackButton}
    (rowMem : row ∈ createPaginationKeyboard page totalPages entity extra)
    (buttonMem : button ∈ row) (leads : button.callbackData ≠ "noop") :
    ∃ next : Nat, PaginationCallbackData.fromString button.callbackData =
        ⟨entity, some "page", some (next : Int), extra⟩ ∧
      1 ≤ next ∧ next ≤ totalPages ∧ (next + 1 = page ∨ next = page + 1) := by
  rw [createPaginationKeyboard_eq first last, List.mem_singleton] at rowMem
  subst rowMem
  simp only [List.mem_cons, List.not_mem_nil, or_false] at buttonMem
  rcases buttonMem with rfl | rfl | rfl
  · simp only at leads ⊢
    split at leads
    · exact absurd rfl leads
    · next notFirst =>
        rw [if_neg notFirst]
        exact ⟨page - 1, fromString_pageCallback plain filled _, by omega, by omega,
          by omega⟩
  · exact absurd rfl leads
  · simp only at leads ⊢
    split at leads
    · exact absurd rfl leads
    · next notLast =>
        rw [if_neg notLast]
        exact ⟨page + 1, fromString_pageCallback plain filled _, by omega, by omega,
          by omega⟩

/-- The windows of the pages partition the items, and both handlers show them; the buttons
under a page are read as the same entity, role and a neighbouring page; and pressing
forward from the first page leads through every page once and ends at the last. -/
theorem pages_cover_items_once (positive : 0 < itemsPerPage) (totalItems : Nat)
    (plain : ':' ∉ entity.toList) (filled : extra ≠ some "") :
    let totalPages := calculateTotalPages itemsPerPage totalItems
    ((List.range' 1 totalPages).flatMap
        (pageWindow itemsPerPage (List.range totalItems)) = List.range totalItems ∧
      ∀ (Item : Type) (rows : List Item) (page : Nat), rows.length = totalItems →
        rows ≠ [] → 1 ≤ page → page ≤ totalPages →
        (∀ role, ∃ keyboard,
          TelegramBookingsHandlerService.sendBookingsPage itemsPerPage rows role page =
            .ok (.page (pageWindow itemsPerPage rows page) page totalItems keyboard)) ∧
        ∃ keyboard,
          TelegramListingsHandlerService.sendListingsPage itemsPerPage rows page =
            .ok (.page (pageWindow itemsPerPage rows page) page totalItems keyboard)) ∧
    (∀ page : Nat, 1 ≤ page → page ≤ totalPages →
      ∀ row ∈ createPaginationKeyboard page totalPages entity extra, ∀ button ∈ row,
        button.callbackData ≠ "noop" →
          ∃ next : Nat, PaginationCallbackData.fromString button.callbackData =
              ⟨entity, some "page", some (next : Int), extra⟩ ∧
            1 ≤ next ∧ next ≤ totalPages ∧ (next + 1 = page ∨ next = page + 1)) ∧
    ∀ presses, totalPages ≤ presses →
      visitedPages totalPages entity extra presses 1 =
        (List.range' 1 totalPages).map Nat.cast := by
  intro totalPages
  refine ⟨⟨?_, ?_⟩, ?_, ?_⟩
  · simpa using flatMap_pageWindow positive (List.range totalItems)
  · rintro Item rows page rfl nonempty first last
    exact ⟨fun role => ⟨_, sendBookingsPage_eq role nonempty first last⟩,
      ⟨_, sendListingsPage_eq nonempty first last⟩⟩
  · intro page first last row rowMem button buttonMem leads
    exact leads_to_neighbour plain filled first last rowMem buttonMem leads
  · intro presses enough
    exact visitedPages_eq plain filled le_rfl (Nat.add_comm _ _)
      (one_le_calculateTotalPages _ _) enough

/-- Eleven items in pages of five, with a role. -/
theorem pages_cover_eleven_items :
    (List.range' 1 3).flatMap (pageWindow 5 (List.range 11)) = List.range 11 ∧
      ∀ presses, 3 ≤ presses →
        visitedPages 3 "bookings" (some "renter") presses 1 = [1, 2, 3] := by
  obtain ⟨⟨windows, _⟩, _, visited⟩ := @pages_cover_items_once 5 "bookings" (some "renter")
    (by decide) 11 (by decide) (by decide)
  exact ⟨windows, visited⟩

end TelegramPaginationService

end SpareSpace
