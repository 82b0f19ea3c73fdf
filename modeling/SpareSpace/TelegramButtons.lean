import SpareSpace.TelegramBot

/-!
# The buttons of the Telegram bot

A button carries a text, and what a press does is found by taking the text apart.  Here the
buttons are the things that they stand for, with what a press does said of each.  Whatever
updates come in, also forged ones, the texts of all buttons that the bot has shown are those
of such buttons, and pressing one does what is said of it; a booking is decided on only
under the notification that it was made.
-/

namespace SpareSpace

open BotSender Fallible PagedQueries ScriptTexts ServiceTraces TelegramBot
  TelegramPaginationService

inductive BotButton
  | noop
  | decide (approve : Bool) (bookingId : Nat)
  | chooseRole (landlord : Bool)
  | bookingsPage (landlord : Bool) (page : Nat)
  | listingsPage (page : Nat)
  deriving DecidableEq, Repr

namespace BotButton

def roleText (landlord : Bool) : String :=
  if landlord then "landlord" else "renter"

def asRole (landlord : Bool) : UserRoleType :=
  if landlord then .landlord else .renter

def verdict (approve : Bool) : String :=
  if approve then "approve" else "reject"

/-- The text that the button carries. -/
def callbackData : BotButton → String
  | noop => "noop"
  | decide approve bookingId => "booking:" ++ verdict approve ++ ":" ++ bookingId.repr
  | chooseRole landlord => "bookings:role:" ++ roleText landlord
  | bookingsPage landlord page => pageCallback "bookings" (some (roleText landlord)) page
  | listingsPage page => pageCallback "listings" none page

/-- The decision of a landlord. -/
def decision (environment : BotEnvironment) (userId bookingId : Nat) (approve : Bool) :
    Service LoadedBooking :=
  if approve then
    BookingsHandler.confirm environment.environment userId bookingId
  else
    BookingsHandler.reject environment.environment userId bookingId

/-- What the button does for a linked user. -/
def carryOut (environment : BotEnvironment) (chatId : Int) (messageId userId : Nat) :
    BotButton → BotHandler Unit
  | noop => pure ()
  | decide approve bookingId => do
      onBackend (botCall (decision environment userId bookingId approve))
      sendMessage chatId (.text (if approve then "✅ Бронирование подтверждено!"
        else "↩️ Бронирование отклонено!")) []
      editMessage chatId messageId none []
  | chooseRole landlord =>
      sendBookingsPage environment chatId messageId userId (asRole landlord) 1
  | bookingsPage landlord page =>
      sendBookingsPage environment chatId messageId userId (asRole landlord) page
  | listingsPage page => sendListingsPage environment chatId userId page (some messageId)

/-- What a press of the button does: a linked user's press is answered and carried out, and
an exception is answered with its message. -/
def press (environment : BotEnvironment) (pressed : ButtonPress) (chatId : Int)
    (messageId : Nat) (button : BotButton) : BotHandler Unit :=
  if button = noop then
    answerCallbackQuery pressed.id none false
  else
    match environment.findByTelegramId pressed.fromId with
    | none => do
        answerCallbackQuery pressed.id (some "❌ Сначала привяжите аккаунт") false
        sendBindingInstructions chatId
    | some userId =>
        tryCatch (do
          answerCallbackQuery pressed.id none false
          carryOut environment chatId messageId userId button)
          fun message => answerCallbackQuery pressed.id (some message) true

end BotButton

section Texts

/-- Whether a text starts so is decided by as many of its characters. -/
theorem startsWith_append {start first : String}
    (short : start.toList.length ≤ first.toList.length) (rest : String) :
    startsWith start (first ++ rest) = startsWith start first := by
  unfold startsWith
  rw [Bool.eq_iff_iff, List.isPrefixOf_iff_prefix, List.isPrefixOf_iff_prefix,
    String.toList_append]
  constructor
  · intro starts
    exact List.prefix_of_prefix_length_le starts (List.prefix_append _ _) short
  · intro starts
    exact starts.trans (List.prefix_append _ _)

theorem pageCallback_eq (entity : String) (extra : Option String) (page : Nat) :
    ∃ rest, pageCallback entity extra page = entity ++ ":page:" ++ rest := by
  have base : entity ++ ":" ++ "page" ++ ":" ++ page.repr = entity ++ ":page:" ++ page.repr := by
    simp only [String.append_assoc]
    rfl
  cases extra with
  | none => exact ⟨page.repr, base⟩
  | some extra =>
      by_cases blank : extra = ""
      · subst blank
        exact ⟨page.repr, base⟩
      · refine ⟨page.repr ++ ":" ++ extra, ?_⟩
        rw [pageCallback, PaginationCallbackData.toString]
        simp only
        rw [if_neg blank]
        change entity ++ ":" ++ "page" ++ ":" ++ page.repr ++ ":" ++ extra = _
        rw [base]
        simp only [String.append_assoc]

/-- What the text of a page's button starts with is seen from its entity. -/
theorem startsWith_pageCallback {start entity : String}
    (short : start.toList.length ≤ (entity ++ ":page:").toList.length)
    (extra : Option String) (page : Nat) :
    startsWith start (pageCallback entity extra page) =
      startsWith start (entity ++ ":page:") := by
  obtain ⟨rest, text⟩ := pageCallback_eq entity extra page
  rw [text, startsWith_append short]

theorem split_decision {action : String} (plain : ':' ∉ action.toList) (bookingId : Nat) :
    split ':' ("booking:" ++ action ++ ":" ++ bookingId.repr) =
      ["booking", action, bookingId.repr] := by
  have digits : ':' ∉ bookingId.repr.toList := fun present =>
    absurd (isDigit_of_mem_repr present) (by decide)
  have second := split_append_cons plain bookingId.repr
  have first := @split_append_cons ':' "booking" (by decide) (action ++ ":" ++ bookingId.repr)
  rw [split_of_not_mem digits] at second
  have text : "booking:" ++ action ++ ":" ++ bookingId.repr =
      "booking:" ++ (action ++ ":" ++ bookingId.repr) := by
    simp only [String.append_assoc]
  rw [text]
  exact first.trans (congrArg (List.cons "booking") second)

end Texts

section Presses

variable {number : String → Option Nat} (reads : ∀ row : Nat, number row.repr = some row)
  (environment : BotEnvironment) (chatId : Int) (messageId userId : Nat)

theorem startsWith_decision (approve : Bool) (bookingId : Nat) :
    startsWith "booking:" (BotButton.decide approve bookingId).callbackData = true := by
  rw [BotButton.callbackData, String.append_assoc, String.append_assoc,
    startsWith_append le_rfl]
  decide

include reads in
theorem handleBookingStatusUpdate_eq (approve : Bool) (bookingId : Nat) :
    handleBookingStatusUpdate number environment chatId messageId userId
        (some bookingId.repr) (BotButton.verdict approve) =
      BotButton.carryOut environment chatId messageId userId (.decide approve bookingId) := by
  have named : TelegramBookingsHandlerService.bookingIdOf number (some bookingId.repr) =
      pure bookingId := by
    rw [TelegramBookingsHandlerService.bookingIdOf, Option.bind_some, reads]
  cases approve with
  | true =>
      simp [handleBookingStatusUpdate, BotButton.carryOut, BotButton.decision,
        BotButton.verdict, TelegramBookingsHandlerService.handleBookingStatusUpdate, named]
  | false =>
      simp [handleBookingStatusUpdate, BotButton.carryOut, BotButton.decision,
        BotButton.verdict, TelegramBookingsHandlerService.handleBookingStatusUpdate, named]

include reads in
/-- What is carried by a button that acts is read as the button. -/
theorem handleData_callbackData (callbackId : String) {button : BotButton}
    (acts : button ≠ .noop) :
    handleData number environment chatId callbackId messageId userId button.callbackData =
      (do
        answerCallbackQuery callbackId none false
        button.carryOut environment chatId messageId userId) := by
  cases button with
  | noop => exact absurd rfl acts
  | decide approve bookingId =>
      have plain : ':' ∉ (BotButton.verdict approve).toList := by
        cases approve <;> decide
      have parts := split_decision plain bookingId
      rw [handleData, if_pos (startsWith_decision approve bookingId), BotButton.callbackData,
        parts, ← handleBookingStatusUpdate_eq reads]
      rfl
  | chooseRole landlord =>
      have plain : startsWith "booking:" (BotButton.chooseRole landlord).callbackData = false := by
        cases landlord <;> decide
      have chooses : startsWith "bookings:role:" (BotButton.chooseRole landlord).callbackData =
          true := by
        cases landlord <;> decide
      have role : roleOf (split ':' (BotButton.chooseRole landlord).callbackData)[2]? =
          BotButton.asRole landlord := by
        cases landlord <;> decide
      rw [handleData, if_neg (by rw [plain]; decide), if_pos chooses, role]
      rfl
  | bookingsPage landlord page =>
      have read := @fromString_pageCallback "bookings" (some (BotButton.roleText landlord))
        (by decide) (by cases landlord <;> decide) page
      have role : roleOf (some (BotButton.roleText landlord)) = BotButton.asRole landlord := by
        cases landlord <;> decide
      have starts {start : String} (short : start.toList.length ≤ 14) :=
        @startsWith_pageCallback start "bookings" short (some (BotButton.roleText landlord)) page
      rw [BotButton.callbackData, handleData, if_neg (by rw [starts (by decide)]; decide),
        if_neg (by rw [starts (by decide)]; decide),
        if_pos (by rw [starts (by decide), starts (by decide)]; decide)]
      simp only [read, role]
      rfl
  | listingsPage page =>
      have read := @fromString_pageCallback "listings" none (by decide) (by decide) page
      have starts {start : String} (short : start.toList.length ≤ 14) :=
        @startsWith_pageCallback start "listings" short none page
      rw [BotButton.callbackData, handleData, if_neg (by rw [starts (by decide)]; decide),
        if_neg (by rw [starts (by decide)]; decide),
        if_pos (by rw [starts (by decide), starts (by decide)]; decide)]
      simp only [read]
      rfl

/-- The other buttons carry none of the texts that lead nowhere. -/
theorem callbackData_ne {button : BotButton} (acts : button ≠ .noop) :
    button.callbackData ≠ "" ∧ button.callbackData ≠ "noop" := by
  obtain ⟨start, shown, blank, plain⟩ : ∃ start, startsWith start button.callbackData = true ∧
      startsWith start "" = false ∧ startsWith start "noop" = false := by
    cases button with
    | noop => exact absurd rfl acts
    | decide approve bookingId =>
        exact ⟨"booking:", startsWith_decision approve bookingId, by decide, by decide⟩
    | chooseRole landlord => exact ⟨"bookings:", by cases landlord <;> decide⟩
    | bookingsPage landlord page =>
        refine ⟨"bookings:", ?_, by decide, by decide⟩
        rw [BotButton.callbackData, startsWith_pageCallback (by decide)]
        decide
    | listingsPage page =>
        refine ⟨"listings:", ?_, by decide, by decide⟩
        rw [BotButton.callbackData, startsWith_pageCallback (by decide)]
        decide
  constructor
  · intro same
    rw [same, blank] at shown
    contradiction
  · intro same
    rw [same, plain] at shown
    contradiction

include reads in
/-- A press of what a button carries is taken as a press of the button. -/
theorem serve_press {pressed : ButtonPress} {button : BotButton} {chatId : Int}
    {messageId : Nat} (data : pressed.data = some button.callbackData)
    (chat : pressed.chatId = some chatId) (chatKnown : chatId ≠ 0)
    (message : pressed.messageId = some messageId) (messageKnown : messageId ≠ 0)
    (state : BotState) :
    BotEvent.serve number state (environment, .update (.callbackQuery pressed)) =
      run (button.press environment pressed chatId messageId) state := by
  have chatShown : pressed.chatId.filter (· ≠ 0) = some chatId := by simp [chat, chatKnown]
  have messageShown : pressed.messageId.filter (· ≠ 0) = some messageId := by
    simp [message, messageKnown]
  by_cases leadsNowhere : button = .noop
  · subst leadsNowhere
    have shown : pressed.data.filter (· ≠ "") = some "noop" := by
      rw [data]
      rfl
    simp only [BotEvent.serve, BotEvent.happen, handleUpdate, handleCallbackQuery, chatShown,
      messageShown, shown, BotButton.press, if_true]
    rfl
  · have acts := callbackData_ne leadsNowhere
    have shown : pressed.data.filter (· ≠ "") = some button.callbackData := by
      simp [data, acts.1]
    simp only [BotEvent.serve, BotEvent.happen, handleUpdate, handleCallbackQuery, chatShown,
      messageShown, shown, BotButton.press, if_neg acts.2, if_neg leadsNowhere]
    cases environment.findByTelegramId pressed.fromId with
    | none => rfl
    | some userId =>
        simp only [handleData_callbackData reads _ _ _ _ _ leadsNowhere]
        rw [run_tryCatch_pure]
        exact Prod.ext (tryCatch_returns (fun _ _ => rfl) state).symm rfl

end Presses

/-- Every button that the call shows carries what some button carries, and decides, if it
decides, on one of these bookings. -/
def Offered (decided : Nat → Prop) (call : BotSend) : Prop :=
  ∀ shown ∈ call.buttons, ∃ button : BotButton, shown.callbackData = button.callbackData ∧
    ∀ approve bookingId, button = .decide approve bookingId → decided bookingId

/-- What was sent after these calls offers only such buttons. -/
def Offers (decided : Nat → Prop) (before : List BotSend) (state : BotState) : Prop :=
  ∃ later, state.sent = before ++ later ∧ ∀ call ∈ later, Offered decided call

section Shown

variable {decided : Nat → Prop} {before : List BotSend} {κ : Type} {look : Backend → κ}
  {number : String → Option Nat} {environment : BotEnvironment} {chatId : Int}

/-- A call of the bot that shows no other buttons and keeps what is seen of the tables. -/
abbrev ShowsButtons (decided : Nat → Prop) (before : List BotSend) (look : Backend → κ)
    {α : Type} (call : BotHandler α) : Prop :=
  Preserves (Offers decided before) (fun state => look state.backend) call

theorem shows_send {call : BotSend} (offered : Offered decided call) :
    ShowsButtons decided before look (send call) := by
  apply Preserves.updates
  rintro state value next ⟨later, sent, offers⟩ ⟨⟩
  refine ⟨⟨later ++ [call], ?_, ?_⟩, rfl⟩
  · rw [← List.append_assoc, ← sent]
  · intro earlier present
    rcases List.mem_append.mp present with old | new
    · exact offers earlier old
    · rw [List.mem_singleton.mp new]
      exact offered

/-- A call of the sender without buttons. -/
theorem shows_plain {call : BotSend} (plain : call.buttons = []) :
    ShowsButtons decided before look (send call) := by
  apply shows_send
  intro shown present
  rw [plain] at present
  cases present

theorem shows_onBackend (blind : ∀ backend next, look backend = look next) {α : Type}
    (call : BotCall α) : ShowsButtons decided before look (onBackend call) :=
  fun _ offers => ⟨offers, blind _ _⟩

/-- The buttons under a page of those that there are. -/
theorem mem_keyboard {page totalPages : Nat} {entity : String} {extra : Option String}
    (first : 1 ≤ page) (last : page ≤ totalPages) {shown : CallbackButton}
    (present : shown ∈ (createPaginationKeyboard page totalPages entity extra).flatten) :
    shown.callbackData = "noop" ∨
      ∃ other, shown.callbackData = pageCallback entity extra other := by
  rw [createPaginationKeyboard_eq first last] at present
  simp only [List.flatten_cons, List.flatten_nil, List.append_nil, List.mem_cons,
    List.not_mem_nil, or_false] at present
  rcases present with rfl | rfl | rfl
  · simp only
    split
    · exact Or.inl rfl
    · exact Or.inr ⟨_, rfl⟩
  · exact Or.inl rfl
  · simp only
    split
    · exact Or.inl rfl
    · exact Or.inr ⟨_, rfl⟩

/-- A page of bookings that is shown is one of those that there are. -/
theorem keyboard_of_bookings {Item : Type} {itemsPerPage : Nat} {rows items : List Item}
    {role : UserRoleType} {asked page : Int} {total : Nat} {keyboard : InlineKeyboard}
    (answered : TelegramBookingsHandlerService.sendBookingsPage itemsPerPage rows role asked =
      .ok (.page items page total keyboard)) :
    ∃ current totalPages : Nat, 1 ≤ current ∧ current ≤ totalPages ∧
      keyboard = createPaginationKeyboard current totalPages "bookings"
        (some (if role = .landlord then "landlord" else "renter")) := by
  simp only [TelegramBookingsHandlerService.sendBookingsPage, bind, Except.bind, throw,
    throwThe, MonadExceptOf.throw, pure, Except.pure] at answered
  cases found : findAndCount rows itemsPerPage ((asked - 1) * itemsPerPage) with
  | error message =>
      rw [found] at answered
      cases answered
  | ok result =>
      rw [found] at answered
      simp only at answered
      by_cases before : asked < 1
      · rw [if_pos before] at answered
        cases answered
      · by_cases after : asked > calculateTotalPages itemsPerPage result.2
        · rw [if_neg before, if_pos after] at answered
          cases answered
        · rw [if_neg before, if_neg after] at answered
          by_cases none : result.2 = 0
          · rw [if_pos none] at answered
            cases answered
          · rw [if_neg none] at answered
            cases answered
            refine ⟨asked.toNat, calculateTotalPages itemsPerPage result.2, by omega, by omega,
              ?_⟩
            rw [Int.toNat_of_nonneg (by omega)]

/-- A page of listings that is shown is one of those that there are. -/
theorem keyboard_of_listings {Item : Type} {itemsPerPage : Nat} {rows items : List Item}
    {asked page : Int} {total : Nat} {keyboard : InlineKeyboard}
    (answered : TelegramListingsHandlerService.sendListingsPage itemsPerPage rows asked =
      .ok (.page items page total keyboard)) :
    ∃ current totalPages : Nat, 1 ≤ current ∧ current ≤ totalPages ∧
      keyboard = createPaginationKeyboard current totalPages "listings" none := by
  have somePage := one_le_calculateTotalPages itemsPerPage rows.length
  simp only [TelegramListingsHandlerService.sendListingsPage, bind, Except.bind, throw,
    throwThe, MonadExceptOf.throw, pure, Except.pure] at answered
  split_ifs at answered with before after
  · cases answered
  · cases found : findAndCount rows itemsPerPage ((asked - 1) * itemsPerPage) with
    | error message =>
        rw [found] at answered
        cases answered
    | ok result =>
        rw [found] at answered
        cases answered
        refine ⟨asked.toNat, calculateTotalPages itemsPerPage rows.length, by omega, by omega, ?_⟩
        rw [Int.toNat_of_nonneg (by omega)]

/-- The buttons under a page lead nowhere or to pages of the same list. -/
theorem offered_of_keyboard {page totalPages : Nat} {entity : String} {extra : Option String}
    {pageButton : Nat → BotButton} (first : 1 ≤ page) (last : page ≤ totalPages)
    (carries : ∀ other, pageCallback entity extra other = (pageButton other).callbackData)
    (shows : ∀ other approve bookingId, pageButton other ≠ .decide approve bookingId)
    {shown : CallbackButton}
    (present : shown ∈ (createPaginationKeyboard page totalPages entity extra).flatten) :
    ∃ button : BotButton, shown.callbackData = button.callbackData ∧
      ∀ approve bookingId, button = .decide approve bookingId → decided bookingId := by
  rcases mem_keyboard first last present with text | ⟨other, text⟩
  · refine ⟨.noop, text, ?_⟩
    rintro _ _ ⟨⟩
  · refine ⟨pageButton other, text.trans (carries other), ?_⟩
    intro approve bookingId decides
    exact absurd decides (shows other approve bookingId)

theorem shows_bookingsPage (messageId userId : Nat) (role : UserRoleType) (page : Int) :
    ShowsButtons decided before look
      (sendBookingsPage environment chatId messageId userId role page) := by
  apply Preserves.readBind
  intro state answer answered
  cases answer with
  | empty text => exact shows_plain rfl
  | page bookings page total keyboard =>
      obtain ⟨current, totalPages, first, last, rfl⟩ := keyboard_of_bookings answered
      apply shows_send
      intro shown present
      apply @offered_of_keyboard _ _ _ _ _ (.bookingsPage (role = .landlord)) first last _ _ _
        present
      · intro other
        cases role <;> rfl
      · rintro other approve bookingId ⟨⟩

theorem shows_listingsPage (userId : Nat) (page : Int) (messageId : Option Nat) :
    ShowsButtons decided before look
      (sendListingsPage environment chatId userId page messageId) := by
  apply Preserves.readBind
  intro state answer answered
  cases answer with
  | empty text =>
      cases messageId with
      | none => exact shows_plain rfl
      | some messageId => exact shows_plain rfl
  | page listings page total keyboard =>
      obtain ⟨current, totalPages, first, last, rfl⟩ := keyboard_of_listings answered
      have leads (other : Nat) (approve : Bool) (bookingId : Nat) :
          BotButton.listingsPage other ≠ .decide approve bookingId := by
        rintro ⟨⟩
      have offered {shown : CallbackButton} (present : shown ∈ (createPaginationKeyboard
          current totalPages "listings" none).flatten) :=
        @offered_of_keyboard decided _ _ _ _ .listingsPage first last (fun _ => rfl) leads _
          present
      cases messageId with
      | none => exact shows_send fun shown present => offered present
      | some messageId => exact shows_send fun shown present => offered present

/-- What is not the text of a decision. -/
theorem shows_pages (callbackId : String) (messageId userId : Nat) {data : String}
    (plain : startsWith "booking:" data = false) :
    ShowsButtons decided before look
      (handleData number environment chatId callbackId messageId userId data) := by
  have answers : ShowsButtons decided before look (answerCallbackQuery callbackId none false) :=
    shows_plain rfl
  rw [handleData, if_neg (by rw [plain]; decide)]
  apply Preserves.ite
  · apply answers.bind
    intro _
    apply shows_bookingsPage
  · apply Preserves.ite
    · apply Preserves.ite
      · apply answers.bind
        intro _
        cases (PaginationCallbackData.fromString data).page with
        | none => exact Preserves.ite (shows_plain rfl) (Preserves.throw _)
        | some page => apply shows_listingsPage
      · apply Preserves.ite
        · apply answers.bind
          intro _
          cases (PaginationCallbackData.fromString data).page with
          | none => exact Preserves.throw _
          | some page => apply shows_bookingsPage
        · exact Preserves.pure _
    · exact Preserves.pure _

theorem shows_data (blind : ∀ backend next, look backend = look next)
    (callbackId : String) (messageId userId : Nat) (data : String) :
    ShowsButtons decided before look
      (handleData number environment chatId callbackId messageId userId data) := by
  by_cases decides : startsWith "booking:" data
  · rw [handleData, if_pos decides]
    apply (shows_plain rfl).bind
    intro _
    apply (shows_onBackend blind _).bind
    intro _
    apply (shows_plain rfl).bind
    intro _
    exact shows_plain rfl
  · exact shows_pages _ _ _ (Bool.eq_false_iff.mpr decides)

theorem shows_callbackQuery (blind : ∀ backend next, look backend = look next)
    (pressed : ButtonPress) :
    ShowsButtons decided before look (handleCallbackQuery number environment pressed) := by
  apply Preserves.caught
  · split
    · apply Preserves.ite
      · exact shows_plain rfl
      · cases environment.findByTelegramId pressed.fromId with
        | none =>
            apply (shows_plain rfl).bind
            intro _
            exact shows_plain rfl
        | some userId => exact shows_data blind _ _ _ _
    · exact shows_plain rfl
  · intro message
    exact shows_plain rfl

theorem shows_report (report : BotReport) (userId : Nat) :
    ShowsButtons decided before look (handleReport environment chatId report userId) := by
  unfold handleReport
  cases environment.report report userId with
  | none => exact shows_plain rfl
  | some text => exact shows_plain rfl

theorem shows_wallet (blind : ∀ backend next, look backend = look next) (userId : Nat) :
    ShowsButtons decided before look (handleWallet environment chatId userId) := by
  apply Preserves.caught
  · apply (shows_onBackend blind _).bind
    intro wallet
    apply (Preserves.reads _).bind
    intro transactions
    exact shows_plain rfl
  · intro _
    exact shows_plain rfl

theorem shows_roles : ShowsButtons decided before look (handleBookings chatId) := by
  apply shows_send
  intro shown present
  change shown ∈ [_, _] at present
  rcases List.mem_pair.mp present with rfl | rfl
  · refine ⟨.chooseRole false, by decide, ?_⟩
    rintro _ _ ⟨⟩
  · refine ⟨.chooseRole true, by decide, ?_⟩
    rintro _ _ ⟨⟩

/-- Of the commands only the one for the wallet may change a table. -/
theorem shows_command (userId : Nat) (command : String)
    (blind : startsWith "/wallet" command = true →
      ∀ backend next, look backend = look next) :
    ShowsButtons decided before look (handleCommand environment chatId userId command) := by
  apply Preserves.ite
  · apply shows_report
  · apply Preserves.ite
    · apply Preserves.caught
      · apply shows_listingsPage
      · intro _
        exact shows_plain rfl
    · apply Preserves.ite
      · exact shows_roles
      · apply Preserves.ite
        · apply shows_report
        · split
          · next asks => exact shows_wallet (blind asks) userId
          · exact shows_plain rfl

theorem shows_replies (replies : List StartReply) :
    ShowsButtons decided before look (sendReplies chatId replies) := by
  induction replies with
  | nil => exact Preserves.pure _
  | cons reply rest ih =>
      apply (shows_plain rfl).bind
      intro _
      exact ih

theorem shows_message (message : TelegramMessage)
    (blind : ∀ userId, walletAsked environment message = some userId →
      ∀ backend next, look backend = look next) :
    ShowsButtons decided before look (handleMessage environment message) := by
  unfold handleMessage
  split
  · next sender text isSent spelled =>
      apply Preserves.ite
      · exact shows_plain rfl
      · apply Preserves.ite
        · apply shows_replies
        · apply Preserves.ite
          · exact shows_plain rfl
          · cases linked : environment.findByTelegramId sender.id with
            | none => exact shows_plain rfl
            | some userId =>
                apply shows_command
                intro asks
                apply blind userId
                simp only [walletAsked, isSent, spelled, asks, if_true, linked]
  · exact Preserves.pure _

theorem shows_notification (text : String) {signal : NotificationSignal}
    (covered : signal.type = .bookingNew → decided signal.referenceId) :
    ShowsButtons decided before look (sendNotification chatId text signal) := by
  unfold sendNotification
  split
  · next new =>
      apply shows_send
      intro shown present
      change shown ∈ [_, _] at present
      have decides {approve other bookingId} (same : BotButton.decide approve signal.referenceId =
          .decide other bookingId) : decided bookingId := by
        cases same
        exact covered new
      rcases List.mem_pair.mp present with rfl | rfl
      · exact ⟨.decide true signal.referenceId, rfl, fun _ _ same => decides same⟩
      · exact ⟨.decide false signal.referenceId, rfl, fun _ _ same => decides same⟩
  · exact shows_plain rfl

/-- The booking that an event lets a landlord decide on. -/
def BotEvent.asksFor : BotEvent → Option Nat
  | .notify _ _ signal => if signal.type = .bookingNew then some signal.referenceId else none
  | _ => none

theorem shows_event (blind : ∀ backend next, look backend = look next) {event : BotEvent}
    (covered : ∀ bookingId, event.asksFor = some bookingId → decided bookingId) :
    ShowsButtons decided before look (event.happen number environment) := by
  cases event with
  | update update =>
      apply Preserves.caught
      · cases update with
        | message message => exact shows_message message fun _ _ => blind
        | callbackQuery pressed => exact shows_callbackQuery blind pressed
        | other => exact Preserves.pure _
      · intro _
        exact Preserves.pure _
  | notify chatId text signal =>
      apply shows_notification
      intro new
      exact covered _ (if_pos new)
  | elsewhere after =>
      intro state offers
      exact ⟨offers, blind _ _⟩

/-- The buttons that any events made the bot show carry what buttons carry. -/
theorem offers_after {events : List (BotEnvironment × BotEvent)} {start : BotState}
    (offers : Offers decided before start)
    (covered : ∀ event ∈ events, ∀ bookingId, event.2.asksFor = some bookingId →
      decided bookingId) :
    Offers decided before (after (BotEvent.serve number) start events) := by
  let blind : Backend → Unit := fun _ => ()
  apply after_invariant (Offers decided before) _ offers covered
  intro state event asks shown
  have shows : ShowsButtons decided before blind (event.2.happen number event.1) :=
    shows_event (fun _ _ => rfl) asks
  exact (shows state shown).1

theorem shows_carryOut (blind : ∀ backend next, look backend = look next)
    (messageId userId : Nat) (button : BotButton) :
    ShowsButtons decided before look (button.carryOut environment chatId messageId userId) := by
  cases button with
  | noop => exact Preserves.pure _
  | decide approve bookingId =>
      apply (shows_onBackend blind _).bind
      intro _
      apply (shows_plain rfl).bind
      intro _
      exact shows_plain rfl
  | chooseRole landlord => apply shows_bookingsPage
  | bookingsPage landlord page => apply shows_bookingsPage
  | listingsPage page => apply shows_listingsPage

/-- A press of a button is answered before anything else is sent. -/
theorem press_answered (pressed : ButtonPress) (messageId : Nat) (button : BotButton)
    (state : BotState) :
    ∃ text later, (run (button.press environment pressed chatId messageId) state).2.sent =
      state.sent ++ .answerCallbackQuery pressed.id text false :: later := by
  unfold BotButton.press
  split
  · exact ⟨none, [], rfl⟩
  · cases environment.findByTelegramId pressed.fromId with
    | none => exact ⟨_, [_], List.append_assoc _ _ _⟩
    | some userId =>
        let answer := BotSend.answerCallbackQuery pressed.id none false
        let blind : Backend → Unit := fun _ => ()
        have rest : ShowsButtons (fun _ => True) (state.sent ++ [answer]) blind
            (tryCatch (button.carryOut environment chatId messageId userId) fun message =>
              answerCallbackQuery pressed.id (some message) true) := by
          apply Preserves.caught
          · exact @shows_carryOut _ _ _ blind _ _ (fun _ _ => rfl) messageId userId button
          · intro message
            exact @shows_plain _ _ _ blind _ rfl
        obtain ⟨later, sent, -⟩ :=
          (rest { state with sent := state.sent ++ [answer] } ⟨[], by simp, by simp⟩).1
        refine ⟨none, later, ?_⟩
        have answered : run (answerCallbackQuery pressed.id none false) state =
            (.ok (), { state with sent := state.sent ++ [answer] }) := rfl
        rw [run_tryCatch] at sent
        rw [run_tryCatch, run_bind_ok answered, sent, List.append_assoc]
        rfl

end Shown

/-- Whatever updates, notifications and changes of the tables there are: every button that
the bot shows carries what one of the buttons carries, one that decides on a booking is
shown because that booking was made, and a press of it, at any time and by anybody, is
taken as a press of this button and is answered. -/
theorem offered_buttons_understood (number : String → Option Nat)
    (reads : ∀ row : Nat, number row.repr = some row)
    (events : List (BotEnvironment × BotEvent)) (start : BotState) :
    ∃ sent, (after (BotEvent.serve number) start events).sent = start.sent ++ sent ∧
      ∀ call ∈ sent, ∀ shown ∈ call.buttons,
        ∃ button : BotButton, shown.callbackData = button.callbackData ∧
          (∀ approve bookingId, button = .decide approve bookingId →
            ∃ event ∈ events, event.2.asksFor = some bookingId) ∧
          ∀ (environment : BotEnvironment) (pressed : ButtonPress) (chatId : Int)
            (messageId : Nat) (state : BotState), pressed.data = some shown.callbackData →
            pressed.chatId = some chatId → chatId ≠ 0 →
            pressed.messageId = some messageId → messageId ≠ 0 →
            BotEvent.serve number state (environment, .update (.callbackQuery pressed)) =
                run (button.press environment pressed chatId messageId) state ∧
              ∃ text later,
                (run (button.press environment pressed chatId messageId) state).2.sent =
                  state.sent ++ .answerCallbackQuery pressed.id text false :: later := by
  have nothing : Offers (fun bookingId => ∃ event ∈ events,
      event.2.asksFor = some bookingId) start.sent start :=
    ⟨[], (List.append_nil _).symm, by simp⟩
  obtain ⟨sent, same, offers⟩ := @offers_after _ _ number events start nothing
    fun event present bookingId asks => ⟨event, present, asks⟩
  refine ⟨sent, same, ?_⟩
  intro call isSent shown present
  obtain ⟨button, carries, decides⟩ := offers call isSent shown present
  refine ⟨button, carries, decides, ?_⟩
  intro environment pressed chatId messageId state data chat chatKnown message messageKnown
  rw [carries] at data
  exact ⟨serve_press reads environment data chat chatKnown message messageKnown state,
    press_answered pressed messageId button state⟩

/-- Row ids are read from their decimal digits. -/
def rowIdOf (text : String) : Option Nat :=
  (parseInt text).map Int.toNat

theorem rowIdOf_repr (row : Nat) : rowIdOf row.repr = some row := by
  rw [rowIdOf, parseInt_repr, Option.map_some, Int.toNat_natCast]

/-- The landlord, whose Telegram account is 77, is told of the booking 1. -/
def newBookingNotice : BotEnvironment × BotEvent :=
  (⟨⟨.at 0, fun id => if id = 77 then some 1 else none⟩, 5, fun _ => 0, .stable _,
      fun _ => [], fun id => id, fun _ _ => none, fun _ => []⟩,
    .notify 5 "📬 *Новая заявка на бронирование!*" ⟨1, .bookingNew, 1, 1, ⟨0, 3600000⟩, 300, none⟩)

theorem offered_buttons_understood_sample :
    (∀ row : Nat, rowIdOf row.repr = some row) ∧
      ∃ sent, (after (BotEvent.serve rowIdOf) ⟨.sample, []⟩ [newBookingNotice]).sent = sent ∧
        ∀ call ∈ sent, ∀ shown ∈ call.buttons, ∃ button : BotButton,
          shown.callbackData = button.callbackData ∧
            ∀ approve bookingId, button = .decide approve bookingId → bookingId = 1 := by
  obtain ⟨sent, same, understood⟩ :=
    offered_buttons_understood rowIdOf rowIdOf_repr [newBookingNotice] ⟨.sample, []⟩
  refine ⟨rowIdOf_repr, sent, same, ?_⟩
  intro call isSent shown present
  obtain ⟨button, carries, decides, -⟩ := understood call isSent shown present
  refine ⟨button, carries, ?_⟩
  intro approve bookingId isDecision
  obtain ⟨event, inEvents, asks⟩ := decides approve bookingId isDecision
  rw [List.mem_singleton.mp inEvents] at asks
  exact (Option.some.inj asks).symm

/-- Two buttons are under the notification. -/
example : ((after (BotEvent.serve rowIdOf) ⟨.sample, []⟩ [newBookingNotice]).sent.flatMap
    BotSend.buttons).map CallbackButton.callbackData =
      ["booking:approve:1", "booking:reject:1"] := by
  decide

end SpareSpace
