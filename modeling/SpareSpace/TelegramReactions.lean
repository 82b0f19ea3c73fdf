import SpareSpace.TelegramButtons

/-!
# What the Telegram bot changes

Of all that reaches the bot only two things can change a table.  A press changes what the
entry point of presses changes, which reads the parts between the colons, and the command
for the wallet changes what a request for the wallet does.  So what is shown of the entry
points holds of the bot with all that it reads and sends.
-/

namespace SpareSpace

open BotSender Fallible ScriptTexts ServiceTraces TelegramBot

/-- A press as the entry point takes it. -/
def ButtonPress.query (pressed : ButtonPress) : TelegramCallbackQuery where
  fromId := pressed.fromId
  chatId := pressed.chatId
  messageId := pressed.messageId
  data := pressed.data.map (split ':')

/-- What an event does to the tables. -/
def BotEvent.reaction (zone : Zone) (number : String → Option Nat) (backend : Backend)
    (event : BotEnvironment × BotEvent) : Backend :=
  match event.2 with
  | .update (.message message) =>
      match walletAsked event.1 message with
      | some userId =>
          EntryPoint.happens zone number backend event.1.toCircumstances (.findWallet userId)
      | none => backend
  | .update (.callbackQuery pressed) =>
      EntryPoint.happens zone number backend event.1.toCircumstances
        (.callbackQuery pressed.query)
  | .elsewhere after => after
  | _ => backend

section Tables

variable {number : String → Option Nat} {environment : BotEnvironment} {chatId : Int}
  {state : BotState}

/-- A call of the bot that shows some buttons and leaves the tables. -/
theorem tables_of_shows {call : BotHandler Unit}
    (shows : ShowsButtons (fun _ => True) state.sent id call) :
    (run call state).2.backend = state.backend :=
  (shows state ⟨[], (List.append_nil _).symm, by simp⟩).2

/-- A decision changes what the booking service changes. -/
theorem tables_of_decision (messageId userId : Nat) (bookingId : Option String)
    (action : String) :
    (run (handleBookingStatusUpdate number environment chatId messageId userId bookingId
        action) state).2.backend =
      (run (TelegramBookingsHandlerService.handleBookingStatusUpdate number
        environment.toCircumstances userId bookingId action) state.backend).2 := by
  unfold handleBookingStatusUpdate
  rw [run_bind, onBackend, run_within]
  rcases run (TelegramBookingsHandlerService.handleBookingStatusUpdate number
    environment.toCircumstances userId bookingId action) state.backend with ⟨_ | _, after⟩
  · rfl
  · rfl

/-- What is answered to an exception leaves the tables. -/
theorem tables_of_caught (call : BotHandler Unit) (callbackId : String) :
    (run (tryCatch call fun message => answerCallbackQuery callbackId (some message) true)
      state).2.backend = (run call state).2.backend := by
  rw [run_tryCatch]
  rcases run call state with ⟨error | value, next⟩
  · rfl
  · rfl

theorem split_eq_blank_iff (text : String) : split ':' text = [""] ↔ text = "" := by
  constructor
  · intro blank
    rw [← join_split ':' text, blank]
    decide
  · rintro rfl
    decide

/-- A press is complete when none of its parts is missing, empty or zero. -/
theorem incomplete_iff (pressed : ButtonPress) :
    pressed.query.incomplete = false ↔ ∃ data chatId messageId,
      pressed.data.filter (· ≠ "") = some data ∧ pressed.chatId.filter (· ≠ 0) = some chatId ∧
        pressed.messageId.filter (· ≠ 0) = some messageId := by
  have known := split_eq_blank_iff
  cases data : pressed.data with
  | none => simp [TelegramCallbackQuery.incomplete, ButtonPress.query, data]
  | some data =>
      cases chat : pressed.chatId with
      | none => simp [TelegramCallbackQuery.incomplete, ButtonPress.query, chat]
      | some chatId =>
          cases message : pressed.messageId with
          | none => simp [TelegramCallbackQuery.incomplete, ButtonPress.query, message]
          | some messageId =>
              simp [TelegramCallbackQuery.incomplete, ButtonPress.query, data, chat, message,
                Option.filter_some, known, and_assoc]

/-- What the data of a linked user's press does to the tables. -/
theorem tables_of_data (callbackId : String) (messageId userId : Nat) (data : String) :
    (run (handleData number environment chatId callbackId messageId userId data)
        state).2.backend =
      (run (match some (split ':' data) with
        | some ("booking" :: action :: rest) =>
            TelegramBookingsHandlerService.handleBookingStatusUpdate number
              environment.toCircumstances userId rest.head? action
        | _ => pure ()) state.backend).2 := by
  have plainEntity : ':' ∉ "booking".toList := by decide
  have starts := startsWith_iff_split plainEntity data
  by_cases decides : startsWith "booking:" data
  · obtain ⟨action, rest, parts⟩ := starts.mp decides
    rw [handleData, if_pos decides, parts]
    have third : ("booking" :: action :: rest)[2]? = rest.head? := by
      cases rest with
      | nil => rfl
      | cons first later => rfl
    simp only [third]
    exact tables_of_decision messageId userId rest.head? action
  · rw [tables_of_shows (shows_pages callbackId messageId userId (Bool.eq_false_iff.mpr decides))]
    split
    · next action rest parts =>
        exact absurd (starts.mpr ⟨action, rest, Option.some.inj parts⟩) decides
    · rfl

/-- A press changes the tables as the entry point of presses does. -/
theorem tables_of_press (pressed : ButtonPress) :
    (run (handleCallbackQuery number environment pressed) state).2.backend =
      (run (TelegramService.handleCallbackQuery number environment.toCircumstances
        pressed.query) state.backend).2 := by
  rw [handleCallbackQuery, tables_of_caught]
  by_cases complete : pressed.query.incomplete = false
  · obtain ⟨data, chatId, messageId, hasData, hasChat, hasMessage⟩ :=
      (incomplete_iff pressed).mp complete
    have carried : pressed.query.data = some (split ':' data) := by
      rw [ButtonPress.query, (Option.filter_eq_some_iff.mp hasData).1]
      rfl
    rw [TelegramService.handleCallbackQuery, if_neg (by rw [complete]; decide), carried]
    simp only [hasData, hasChat, hasMessage]
    by_cases leadsNowhere : data = "noop"
    · subst leadsNowhere
      have whole : split ':' "noop" = ["noop"] := by decide
      rw [if_pos rfl, whole]
      cases environment.findByTelegramId pressed.query.fromId with
      | none => rfl
      | some userId => rfl
    · rw [if_neg leadsNowhere]
      have fromId : pressed.query.fromId = pressed.fromId := rfl
      rw [fromId]
      cases environment.findByTelegramId pressed.fromId with
      | none => rfl
      | some userId => exact tables_of_data pressed.id messageId userId data
  · have incomplete : pressed.query.incomplete = true := by simpa using complete
    rw [TelegramService.handleCallbackQuery, if_pos incomplete]
    split
    · next data chatId messageId hasData hasChat hasMessage =>
        exact absurd ((incomplete_iff pressed).mpr
          ⟨data, chatId, messageId, hasData, hasChat, hasMessage⟩) complete
    · rfl

/-- The command for the wallet opens one as a request does. -/
theorem tables_of_wallet (userId : Nat) :
    (run (handleWallet environment chatId userId) state).2.backend =
      (run (WalletsService.findWalletByUser environment.environment userId)
        state.backend).2 := by
  unfold handleWallet
  rw [run_tryCatch, run_bind, onBackend, run_within, run_adapt]
  rcases run (WalletsService.findWalletByUser environment.environment userId)
    state.backend with ⟨_ | _, after⟩
  · rfl
  · rfl

/-- A text that starts with one word does not start with another of which neither starts
with the other. -/
theorem not_startsWith_of_startsWith {first second text : String}
    (apart : startsWith first second = false ∧ startsWith second first = false)
    (starts : startsWith first text = true) : startsWith second text = false := by
  rw [Bool.eq_false_iff]
  intro other
  rcases List.prefix_or_prefix_of_prefix (List.isPrefixOf_iff_prefix.mp starts)
    (List.isPrefixOf_iff_prefix.mp other) with inside | outside
  · exact absurd (List.isPrefixOf_iff_prefix.mpr inside) (Bool.eq_false_iff.mp apart.1)
  · exact absurd (List.isPrefixOf_iff_prefix.mpr outside) (Bool.eq_false_iff.mp apart.2)

/-- A command for the wallet is no other command. -/
theorem handleCommand_wallet (userId : Nat) {command : String}
    (asks : startsWith "/wallet" command = true) :
    handleCommand environment chatId userId command =
      handleWallet environment chatId userId := by
  have other (second : String) (apart : startsWith "/wallet" second = false ∧
      startsWith second "/wallet" = false) : startsWith second command = false :=
    not_startsWith_of_startsWith apart asks
  simp only [handleCommand, other "/profile" (by decide), other "/listings" (by decide),
    other "/bookings" (by decide), other "/subscription" (by decide), asks,
    Bool.false_eq_true, if_false, if_true]

theorem tables_of_message (message : TelegramMessage) :
    (run (handleMessage environment message) state).2.backend =
      match walletAsked environment message with
      | some userId =>
          (run (WalletsService.findWalletByUser environment.environment userId)
            state.backend).2
      | none => state.backend := by
  cases asked : walletAsked environment message with
  | none =>
      apply tables_of_shows
      apply shows_message
      intro userId named
      rw [asked] at named
      contradiction
  | some userId =>
      simp only [walletAsked] at asked
      split at asked
      · next sender text isSent spelled =>
          split at asked
          · next starts =>
              have slash : startsWith "/" (trim text) = true := by
                rw [startsWith, List.isPrefixOf_iff_prefix] at starts ⊢
                exact List.IsPrefix.trans (by decide) starts
              have other (second : String) (apart : startsWith "/wallet" second = false ∧
                  startsWith second "/wallet" = false) :
                  startsWith second (trim text) = false :=
                not_startsWith_of_startsWith apart starts
              simp only [handleMessage, isSent, spelled, slash, other "/start" (by decide),
                other "/help" (by decide), asked, Bool.true_eq_false, Bool.false_eq_true,
                if_false, handleCommand_wallet userId starts]
              exact tables_of_wallet userId
          · contradiction
      · contradiction

theorem tables_of_serve (zone : Zone) (event : BotEnvironment × BotEvent) :
    (BotEvent.serve number state event).2.backend =
      BotEvent.reaction zone number state.backend event := by
  obtain ⟨environment, event⟩ := event
  cases event with
  | update update =>
      cases update with
      | message message =>
          change (run (tryCatch (handleMessage environment message) fun _ => pure ())
            state).2.backend = _
          rw [run_tryCatch_pure, tables_of_message]
          rfl
      | callbackQuery pressed =>
          change (run (tryCatch (handleCallbackQuery number environment pressed) fun _ =>
            pure ()) state).2.backend = _
          rw [run_tryCatch_pure]
          exact tables_of_press pressed
      | other => rfl
  | notify chatId text signal =>
      exact tables_of_shows (shows_notification text fun _ => trivial)
  | elsewhere after => rfl

end Tables

end SpareSpace
