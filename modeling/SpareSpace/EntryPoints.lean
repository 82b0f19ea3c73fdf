import SpareSpace.BookingOutcomes
import SpareSpace.TransitionRuns

/-!
# The entry points to bookings and wallets

Money moves when an authenticated user calls a wallet or booking endpoint,
when somebody presses a button under a message of the Telegram bot, or when a
job of a booking queue runs.  A press is attributed to the user whose account
is linked to the Telegram account that pressed.
-/

namespace SpareSpace

open Fallible

/-- The message of a caught exception. -/
def HttpException.message : HttpException → String
  | badRequest message | unauthorized message | notFound message
  | conflict message | database message => message

/-- A press of a button.  The button's text is kept as its parts between the
colons, which determine it. -/
structure TelegramCallbackQuery where
  fromId : Int
  chatId : Option Int
  messageId : Option Nat
  data : Option (List String)
  deriving DecidableEq, Repr

namespace TelegramCallbackQuery

/-- `!data || !chatId || !messageId`: zero and the empty text are falsy. -/
def incomplete (query : TelegramCallbackQuery) : Bool :=
  query.data.getD [""] == [""] || query.chatId.getD 0 == 0 ||
    query.messageId.getD 0 == 0

end TelegramCallbackQuery

/-- What an entry finds outside the tables: the environment of the services
and the user with each `telegramId`. -/
structure Circumstances where
  environment : Environment
  findByTelegramId : Int → Option Nat

/-- A service call of the bot, of whose exceptions only the text is shown. -/
abbrev BotCall := Fallible String Backend

def botCall {α : Type} (call : Service α) : BotCall Unit :=
  ExceptT.adapt HttpException.message (do
    let _ ← call
    return ())

theorem run_botCall {α : Type} (call : Service α) (backend : Backend) :
    (run (botCall call) backend).2 = (run call backend).2 := by
  have bound := run_bind call (fun _ => (pure () : Service Unit)) backend
  have adapted : (run (botCall call) backend).2 =
      (run (call >>= fun _ => (pure () : Service Unit)) backend).2 := rfl
  rw [adapted, bound]
  rcases run call backend with ⟨_ | _, _⟩ <;> rfl

section Telegram

variable (number : String → Option Nat) (circumstances : Circumstances)

namespace TelegramBookingsHandlerService

/-- `Number(text)` is an argument: the row id it names, if it names one. -/
def bookingIdOf (text : Option String) : BotCall Nat :=
  match text.bind number with
  | some bookingId => pure bookingId
  | none => throw "invalid input syntax for type bigint"

def handleBookingStatusUpdate (userId : Nat) (bookingId : Option String)
    (action : String) : BotCall Unit :=
  if action = "approve" then do
    let bookingId ← bookingIdOf number bookingId
    botCall (BookingsHandler.confirm circumstances.environment userId bookingId)
  else if action = "reject" then do
    let bookingId ← bookingIdOf number bookingId
    botCall (BookingsHandler.reject circumstances.environment userId bookingId)
  else
    throw "⚠️ Неизвестный тип обновления стаутса бронирования"

end TelegramBookingsHandlerService

/-- The bot's reaction to a press; the pages of listings and bookings that
other buttons ask for are only read. -/
def TelegramService.handleCallbackQuery (query : TelegramCallbackQuery) :
    BotCall Unit :=
  if query.incomplete then
    pure ()
  else
    match circumstances.findByTelegramId query.fromId with
    | none => pure ()
    | some userId =>
        match query.data with
        | some ("booking" :: action :: rest) =>
            TelegramBookingsHandlerService.handleBookingStatusUpdate number
              circumstances userId rest.head? action
        | _ => pure ()

end Telegram

/-- What reaches the services from outside. -/
inductive EntryPoint
  | findWallet (userId : Nat)
  | deposit (userId : Nat) (amount : Int)
  | withdraw (userId : Nat) (amount : Int)
  | request (userId : Nat) (made : BookingRequest)
  | callbackQuery (query : TelegramCallbackQuery)
  | startJob (bookingId : Nat) (faults : StartFaults)
  | completionJob (bookingId : Nat) (faults : CompletionFaults)
  deriving DecidableEq

namespace EntryPoint

/-- The user who issues a request; jobs are issued by nobody. -/
def issuer (circumstances : Circumstances) : EntryPoint → Option Nat
  | findWallet userId | deposit userId _ | withdraw userId _
  | request userId _ => some userId
  | callbackQuery query => circumstances.findByTelegramId query.fromId
  | startJob _ _ | completionJob _ _ => none

/-- The state an entry leaves, whether it returns or throws. -/
def happens (zone : Zone) (number : String → Option Nat) (backend : Backend)
    (circumstances : Circumstances) : EntryPoint → Backend
  | findWallet userId =>
      (run (WalletsService.findWalletByUser circumstances.environment userId)
        backend).2
  | deposit userId amount =>
      (run (WalletsService.transact circumstances.environment
        (WalletsService.deposit userId amount)) backend).2
  | withdraw userId amount =>
      (run (WalletsService.transact circumstances.environment
        (WalletsService.withdraw userId amount)) backend).2
  | request userId made =>
      (run (made.handle zone circumstances.environment userId) backend).2
  | callbackQuery query =>
      (run (TelegramService.handleCallbackQuery number circumstances query)
        backend).2
  | startJob bookingId faults =>
      (run (BookingStartProcessor.process circumstances.environment faults
        bookingId) backend).2
  | completionJob bookingId faults =>
      (run (BookingCompletionProcessor.process circumstances.environment faults
        bookingId) backend).2

/-- One entry after another. -/
def step (zone : Zone) (number : String → Option Nat) (backend : Backend)
    (label : Circumstances × EntryPoint) : Option Backend :=
  some (label.2.happens zone number backend label.1)

end EntryPoint

end SpareSpace
