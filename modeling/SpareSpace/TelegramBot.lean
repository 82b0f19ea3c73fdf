import SpareSpace.BookingLists
import SpareSpace.EntryPoints
import SpareSpace.RelatedCalls
import SpareSpace.TelegramLinks
import SpareSpace.WalletStatement

/-!
# The Telegram bot

Commands and presses of buttons reach the bot as updates; notifications make it write of its
own accord.  What it sends is kept in the order of sending: whether Telegram carries a call
out is only logged.  Of the texts that are laid out from rows the rows are kept.
-/

namespace SpareSpace

open Fallible PagedQueries ScriptTexts

/-- What two commands only show. -/
inductive BotReport
  | profile
  | subscription
  deriving DecidableEq, Repr

inductive BotText
  | text (text : String)
  | start (reply : StartReply)
  | report (report : BotReport) (text : String)
  | wallet (statement : WalletStatement)
  | bookings (bookings : List Booking) (page : Int) (total : Nat) (role : UserRoleType)
  | listings (listings : List Listing) (page : Int) (total : Nat)
  deriving DecidableEq, Repr

/-- A call of the sender; a message without buttons has the empty keyboard. -/
inductive BotSend
  | sendMessage (chatId : Int) (text : BotText) (keyboard : InlineKeyboard)
  | editMessage (chatId : Int) (messageId : Nat) (text : Option BotText)
      (keyboard : InlineKeyboard)
  | answerCallbackQuery (callbackQueryId : String) (text : Option String) (showAlert : Bool)
  deriving DecidableEq, Repr

/-- The buttons that a call of the sender shows. -/
def BotSend.buttons : BotSend → List CallbackButton
  | sendMessage _ _ keyboard | editMessage _ _ _ keyboard => keyboard.flatten
  | answerCallbackQuery _ _ _ => []

structure BotState where
  backend : Backend
  sent : List BotSend

/-- A call of the bot, of whose exceptions only the message is used. -/
abbrev BotHandler := Fallible String BotState

/-- What the bot finds outside the tables of the bookings: the listings of a user as the
listings service counts and orders them, the times of the transactions, the texts of the
reports, none when a service has thrown, and the replies of a start command. -/
structure BotEnvironment extends Circumstances where
  itemsPerPage : Nat
  updatedAt : Booking → Int
  latestFirst : Descending updatedAt
  listingsOf : Nat → List Listing
  createdAt : Nat → Int
  report : BotReport → Nat → Option String
  start : StartCommand → List StartReply

namespace BotSender

def send (call : BotSend) : BotHandler Unit :=
  updates fun state => .ok ((), { state with sent := state.sent ++ [call] })

def sendMessage (chatId : Int) (text : BotText) (keyboard : InlineKeyboard) : BotHandler Unit :=
  send (.sendMessage chatId text keyboard)

def editMessage (chatId : Int) (messageId : Nat) (text : Option BotText)
    (keyboard : InlineKeyboard) : BotHandler Unit :=
  send (.editMessage chatId messageId text keyboard)

def answerCallbackQuery (callbackQueryId : String) (text : Option String)
    (showAlert : Bool) : BotHandler Unit :=
  send (.answerCallbackQuery callbackQueryId text showAlert)

end BotSender

structure TelegramUser where
  id : Int
  username : Option String
  deriving DecidableEq, Repr

structure TelegramMessage where
  sender : Option TelegramUser
  chatId : Int
  text : Option String
  deriving DecidableEq, Repr

/-- A press of a button, as Telegram reports it. -/
structure ButtonPress where
  id : String
  fromId : Int
  chatId : Option Int
  messageId : Option Nat
  data : Option String
  deriving DecidableEq, Repr

inductive TelegramWebhookUpdate
  | message (message : TelegramMessage)
  | callbackQuery (callbackQuery : ButtonPress)
  | other
  deriving DecidableEq, Repr

namespace TelegramBot

open BotSender

/-- A call of the other services. -/
def onBackend {α : Type} (call : BotCall α) : BotHandler α :=
  within BotState.backend (fun backend state => { state with backend := backend }) call

def sendBindingInstructions (chatId : Int) : BotHandler Unit :=
  sendMessage chatId (.start .bindingInstructions) []

def sendHelpMessage (chatId : Int) : BotHandler Unit :=
  sendMessage chatId (.text ("🆘 *Доступные команды:*\n\n" ++
    "🔹 /start - Начало работы с ботом\n" ++
    "👤 /profile - Просмотр профиля\n" ++
    "🏠 /listings - Мои объявления\n" ++
    "📅 /bookings - Мои бронирования\n" ++
    "🎫 /subscription - Информация о подписке\n" ++
    "💰 /wallet - Баланс и транзакции\n" ++
    "🆘 /help - Эта справка")) []

/-- The buttons under `/bookings`. -/
def roleKeyboard : InlineKeyboard :=
  [[⟨"📤 Я арендатор", "bookings:role:renter"⟩,
    ⟨"📥 Я арендодатель", "bookings:role:landlord"⟩]]

/-- The buttons under the notification of a new booking. -/
def decisionKeyboard (bookingId : Nat) : InlineKeyboard :=
  [[⟨"✅ Принять", "booking:approve:" ++ bookingId.repr⟩,
    ⟨"❌ Отклонить", "booking:reject:" ++ bookingId.repr⟩]]

/-- What a report says when its service throws. -/
def reportFailure : BotReport → String
  | .profile => "❌ He удалось загрузить профиль"
  | .subscription => "❌ Не удалось загрузить информацию о подписке"

/-- A page takes the place of the message under which a button was pressed. -/
def sendOrEdit (chatId : Int) (messageId : Option Nat) (text : BotText)
    (keyboard : InlineKeyboard) : BotHandler Unit :=
  match messageId with
  | some messageId => editMessage chatId messageId (some text) keyboard
  | none => sendMessage chatId text keyboard

section Handlers

variable (number : String → Option Nat) (environment : BotEnvironment) (chatId : Int)

/-- `handle` of the services for the profile and the subscription. -/
def handleReport (report : BotReport) (userId : Nat) : BotHandler Unit :=
  match environment.report report userId with
  | some text => sendMessage chatId (.report report text) []
  | none => sendMessage chatId (.text (reportFailure report)) []

/-- `handle` of the service for the wallet, which opens one for a user without. -/
def handleWallet (userId : Nat) : BotHandler Unit :=
  tryCatch
    (do
      let wallet ← onBackend (ExceptT.adapt HttpException.message
        (WalletsService.findWalletByUser environment.environment userId))
      let transactions ← reads fun state =>
        .ok (WalletsService.findTransactionsByUser environment.createdAt
          state.backend.ledger userId 5 0 none).1
      sendMessage chatId (.wallet (TelegramWalletHandlerService.buildWalletMessage
        environment.createdAt wallet transactions)) [])
    fun _ =>
      sendMessage chatId (.text "❌ Не удалось загрузить информацию о кошельке") []

def handleBookings : BotHandler Unit :=
  sendMessage chatId
    (.text "📅 *Мои бронирования*\n\nВыберите категорию бронирований:") roleKeyboard

/-- The bookings of a user in a role, latest first. -/
def bookingsAs (backend : Backend) (userId : Nat) (role : UserRoleType) : List Booking :=
  environment.latestFirst.order (backend.bookings.rows.filter
    (BookingsService.selects backend userId ⟨none, some role, environment.itemsPerPage, 0⟩))

def sendBookingsPage (messageId userId : Nat) (role : UserRoleType) (page : Int) :
    BotHandler Unit := do
  let answer ← reads fun state =>
    TelegramBookingsHandlerService.sendBookingsPage environment.itemsPerPage
      (bookingsAs environment state.backend userId role) role page
  match answer with
  | .empty text => editMessage chatId messageId (some (.text text)) []
  | .page bookings page total keyboard =>
      editMessage chatId messageId (some (.bookings bookings page total role)) keyboard

def sendListingsPage (userId : Nat) (page : Int) (messageId : Option Nat) :
    BotHandler Unit := do
  let answer ← lift
    (TelegramListingsHandlerService.sendListingsPage environment.itemsPerPage
      (environment.listingsOf userId) page)
  match answer with
  | .empty text => sendOrEdit chatId messageId (.text text) []
  | .page listings page total keyboard =>
      sendOrEdit chatId messageId (.listings listings page total) keyboard

def handleListings (userId : Nat) : BotHandler Unit :=
  tryCatch (sendListingsPage environment chatId userId 1 none) fun _ =>
    sendMessage chatId (.text "❌ Не удалось загрузить объявления") []

def handleBookingStatusUpdate (messageId userId : Nat) (bookingId : Option String)
    (action : String) : BotHandler Unit := do
  onBackend (TelegramBookingsHandlerService.handleBookingStatusUpdate number
    environment.toCircumstances userId bookingId action)
  sendMessage chatId
    (.text (if action = "approve" then "✅ Бронирование подтверждено!"
      else "↩️ Бронирование отклонено!")) []
  editMessage chatId messageId none []

/-- What a query throws that is given an offset that is no number. -/
def skipRefused : String :=
  "Provided \"skip\" value is not a number. Please provide a numeric value."

/-- `role === 'landlord'`, of a button that names a role. -/
def roleOf (role : Option String) : UserRoleType :=
  if role = some "landlord" then .landlord else .renter

/-- The reaction to the button of a linked user. -/
def handleData (callbackId : String) (messageId userId : Nat) (data : String) :
    BotHandler Unit :=
  if startsWith "booking:" data then do
    answerCallbackQuery callbackId none false
    let parts := split ':' data
    handleBookingStatusUpdate number environment chatId messageId userId parts[2]?
      (parts.getD 1 "")
  else if startsWith "bookings:role:" data then do
    answerCallbackQuery callbackId none false
    sendBookingsPage environment chatId messageId userId (roleOf (split ':' data)[2]?) 1
  else if startsWith "listings:" data || startsWith "bookings:" data then
    let callbackData := PaginationCallbackData.fromString data
    if callbackData.entity = "listings" then do
      answerCallbackQuery callbackId none false
      -- a page that is no number is on no side of a bound
      match callbackData.page with
      | some page => sendListingsPage environment chatId userId page (some messageId)
      | none =>
          if environment.listingsOf userId = [] then
            sendOrEdit chatId (some messageId) (.text "📭 У вас пока нет объявлений") []
          else
            throw skipRefused
    else if callbackData.entity = "bookings" then do
      answerCallbackQuery callbackId none false
      match callbackData.page with
      | some page =>
          sendBookingsPage environment chatId messageId userId (roleOf callbackData.extra) page
      | none => throw skipRefused
    else
      pure ()
  else
    pure ()

end Handlers

variable (number : String → Option Nat) (environment : BotEnvironment)

/-- A text, a chat or a message that is missing, empty or zero is falsy. -/
def handleCallbackQuery (callbackQuery : ButtonPress) : BotHandler Unit :=
  tryCatch
    (match callbackQuery.data.filter (· ≠ ""), callbackQuery.chatId.filter (· ≠ 0),
        callbackQuery.messageId.filter (· ≠ 0) with
    | some data, some chatId, some messageId =>
        if data = "noop" then
          answerCallbackQuery callbackQuery.id none false
        else
          match environment.findByTelegramId callbackQuery.fromId with
          | none => do
              answerCallbackQuery callbackQuery.id (some "❌ Сначала привяжите аккаунт") false
              sendBindingInstructions chatId
          | some userId =>
              handleData number environment chatId callbackQuery.id messageId userId data
    | _, _, _ =>
        answerCallbackQuery callbackQuery.id (some "⚠️ Ошибка обработки запроса") false)
    fun message => answerCallbackQuery callbackQuery.id (some message) true

/-- The commands that need a linked account. -/
def handleCommand (chatId : Int) (userId : Nat) (command : String) : BotHandler Unit :=
  if startsWith "/profile" command then
    handleReport environment chatId .profile userId
  else if startsWith "/listings" command then
    handleListings environment chatId userId
  else if startsWith "/bookings" command then
    handleBookings chatId
  else if startsWith "/subscription" command then
    handleReport environment chatId .subscription userId
  else if startsWith "/wallet" command then
    handleWallet environment chatId userId
  else
    sendHelpMessage chatId

def sendReplies (chatId : Int) : List StartReply → BotHandler Unit
  | [] => pure ()
  | reply :: rest => do
      sendMessage chatId (.start reply) []
      sendReplies chatId rest

def handleMessage (message : TelegramMessage) : BotHandler Unit :=
  match message.sender, message.text.filter (· ≠ "") with
  | some sender, some text =>
      let command := trim text
      let chatId := message.chatId
      if startsWith "/" command = false then
        sendMessage chatId (.text "Команда должна начинаться с \"/\"") []
      else if startsWith "/start" command then
        sendReplies chatId
          (environment.start ⟨sender.id, chatId, (words command)[1]?, sender.username⟩)
      else if startsWith "/help" command then
        sendHelpMessage chatId
      else
        match environment.findByTelegramId sender.id with
        | none => sendBindingInstructions chatId
        | some userId => handleCommand environment chatId userId command
  | _, _ => pure ()

/-- The linked user whose wallet a message asks for. -/
def walletAsked (message : TelegramMessage) : Option Nat :=
  match message.sender, message.text.filter (· ≠ "") with
  | some sender, some text =>
      if startsWith "/wallet" (trim text) then
        environment.findByTelegramId sender.id
      else
        none
  | _, _ => none

/-- What is thrown is logged. -/
def handleUpdate (update : TelegramWebhookUpdate) : BotHandler Unit :=
  tryCatch
    (match update with
    | .message message => handleMessage environment message
    | .callbackQuery callbackQuery => handleCallbackQuery number environment callbackQuery
    | .other => pure ())
    fun _ => pure ()

/-- `sendNotification`, with its text; the payload of a booking's signal carries the id of
the booking. -/
def sendNotification (chatId : Int) (text : String) (signal : NotificationSignal) :
    BotHandler Unit :=
  if signal.type = .bookingNew then
    sendMessage chatId (.text text) (decisionKeyboard signal.referenceId)
  else
    sendMessage chatId (.text text) []

end TelegramBot

/-- What happens beside the bot may change the tables in any way. -/
inductive BotEvent
  | update (update : TelegramWebhookUpdate)
  | notify (chatId : Int) (text : String) (signal : NotificationSignal)
  | elsewhere (after : Backend)

namespace BotEvent

def happen (number : String → Option Nat) (environment : BotEnvironment) :
    BotEvent → BotHandler Unit
  | update received => TelegramBot.handleUpdate number environment received
  | notify chatId text signal => TelegramBot.sendNotification chatId text signal
  | elsewhere after => updates fun state => .ok ((), { state with backend := after })

/-- The state that an event leaves. -/
def serve (number : String → Option Nat) (state : BotState)
    (event : BotEnvironment × BotEvent) : Except String Unit × BotState :=
  run (event.2.happen number event.1) state

end BotEvent

end SpareSpace
