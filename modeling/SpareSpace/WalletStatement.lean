import SpareSpace.WalletsService
import Mathlib.Algebra.BigOperators.Ring.List

/-!
# The wallet statement of the Telegram bot

The bot answers a request for the wallet with its balance and its five latest
transactions.  The wallet service decides by the operation how a transaction moves the
balance; the message builder decides again, by the type, which sign it prints.  The two
differ for refunds.
-/

namespace SpareSpace

namespace WalletsService

/-- The conditions of `findTransactionsByUser` on a row. -/
def transactionWhere (userId : Nat) (type : Option TransactionType)
    (transaction : Transaction) : Bool :=
  transaction.userId == userId && type.all (transaction.type == ·)

/-- A page of a user's transactions, latest first, with the number of all of them.  The
column `createdAt`, which no wallet operation reads, is given by the row's id. -/
def findTransactionsByUser (createdAt : Nat → Int) (ledger : Ledger)
    (userId limit offset : Nat) (type : Option TransactionType) :
    List Transaction × Nat :=
  let rows := ledger.transactions.rows.filter (transactionWhere userId type)
  let sorted := rows.mergeSort fun first second =>
    createdAt second.id ≤ createdAt first.id
  ((sorted.drop offset).take limit, rows.length)

end WalletsService

/-- The text of a number that is given in hundredths. -/
def decimalText (hundredths : Int) : String :=
  let cents := hundredths.natAbs % 100
  let fraction :=
    if cents = 0 then ""
    else if cents % 10 = 0 then s!".{cents / 10}"
    else s!".{cents / 10}{cents % 10}"
  (if hundredths < 0 then "-" else "") ++ s!"{hundredths.natAbs / 100}" ++ fraction

/-- The part of the statement about one transaction. -/
structure StatementLine where
  emoji : String
  typeText : String
  sign : Char
  amount : Int
  description : String
  createdAt : Int
  deriving DecidableEq, Repr

/-- What the wallet message shows. -/
structure WalletStatement where
  balance : Int
  lines : List StatementLine
  deriving DecidableEq, Repr

namespace StatementLine

/-- The signed amount that the line shows. -/
def signedAmount (line : StatementLine) : Int :=
  if line.sign = '+' then line.amount else -line.amount

def text (dateText : Int → String) (line : StatementLine) (index : Nat) : String :=
  s!"{index + 1}. {line.emoji} {line.typeText}: {line.sign}{decimalText line.amount} ₽\n" ++
    (if line.description = "" then "" else s!" - {line.description}") ++
    s!"\n   🗓 {dateText line.createdAt}\n\n"

end StatementLine

namespace WalletStatement

/-- The sum of the signed amounts that the statement shows. -/
def shownSum (statement : WalletStatement) : Int :=
  (statement.lines.map StatementLine.signedAmount).sum

/-- The message, with dates written by `dateText`. -/
def text (dateText : Int → String) (statement : WalletStatement) : String :=
  "💰 *Ваш кошелёк*\n\n" ++
    s!"📊 *Баланс:* {decimalText statement.balance} ₽\n\n" ++
    if statement.lines = [] then
      "📭 *Последние операции:* нет транзакций"
    else
      "💳 *Последние операции:*\n" ++
        String.join (statement.lines.zipIdx.map fun entry =>
          entry.1.text dateText entry.2)

end WalletStatement

namespace TelegramWalletHandlerService

def getTransactionEmoji : TransactionType → String
  | .deposit => "🟢"
  | .bookingPayout => "🟢"
  | .withdrawal => "🔴"
  | .bookingPayment => "🔴"
  | .commission => "🟡"
  | .refund => "⚪"

/-- The name of a type; a refund has none in the map and shows the enumeration's value. -/
def getTypeText : TransactionType → String
  | .deposit => "Зачисление из банка"
  | .bookingPayout => "Зачисление за завершённую аренду"
  | .withdrawal => "Вывод в банк"
  | .bookingPayment => "Оплата бронирования"
  | .commission => "Комиссия"
  | .refund => "REFUND"

def sign (type : TransactionType) : Char :=
  if type = .deposit ∨ type = .bookingPayout then '+' else '-'

def statementLine (createdAt : Nat → Int) (transaction : Transaction) : StatementLine where
  emoji := getTransactionEmoji transaction.type
  typeText := getTypeText transaction.type
  sign := sign transaction.type
  amount := transaction.amount
  description := transaction.description
  createdAt := createdAt transaction.id

def buildWalletMessage (createdAt : Nat → Int) (wallet : Wallet)
    (transactions : List Transaction) : WalletStatement where
  balance := wallet.balance
  lines := transactions.map (statementLine createdAt)

/-- The tables after a request for the wallet, and what it answers. -/
def handle (createdAt : Nat → Int) (ledger : Ledger) (userId : Nat) :
    Ledger × WalletStatement :=
  let (opened, wallet) := ledger.findWalletByUser userId
  let (transactions, _) :=
    WalletsService.findTransactionsByUser createdAt opened userId 5 0 none
  (opened, buildWalletMessage createdAt wallet transactions)

end TelegramWalletHandlerService

namespace WalletOperation

/-- The operations of the wallet service. -/
inductive Offered : WalletOperation → Prop
  | deposit (userId : Nat) (amount : Int) :
      Offered (WalletsService.deposit userId amount)
  | withdraw (userId : Nat) (amount : Int) :
      Offered (WalletsService.withdraw userId amount)
  | processBookingPayment (userId bookingId : Nat) (amount : Int) :
      Offered (WalletsService.processBookingPayment userId bookingId amount)
  | processBookingPayout (userId bookingId : Nat) (amount : Int) :
      Offered (WalletsService.processBookingPayout userId bookingId amount)
  | processRefund (userId bookingId : Nat) (amount : Int) :
      Offered (WalletsService.processRefund userId bookingId amount)

/-- The amount that an operation gives back to its user as a refund. -/
def refunded (operation : WalletOperation) : Int :=
  if operation.type = .refund then operation.amount else 0

/-- What the statement shows of a transaction with this type and amount. -/
def shown (type : TransactionType) (amount : Int) : Int :=
  if TelegramWalletHandlerService.sign type = '+' then amount else -amount

/-- The statement takes off the balance what a refund adds to it, and agrees with the
wallet service elsewhere. -/
theorem Offered.delta_eq {operation : WalletOperation} (offered : operation.Offered) :
    operation.delta = shown operation.type operation.amount + 2 * operation.refunded := by
  cases offered with
  | processRefund userId bookingId amount =>
      simp [delta, shown, refunded, TelegramWalletHandlerService.sign,
        WalletsService.processRefund]
      omega
  | deposit | withdraw | processBookingPayment | processBookingPayout =>
      simp [delta, shown, refunded, TelegramWalletHandlerService.sign,
        WalletsService.deposit, WalletsService.withdraw,
        WalletsService.processBookingPayment, WalletsService.processBookingPayout]

end WalletOperation

namespace Ledger

/-- Wallet operations one after the other, up to the first that throws. -/
def performAll (ledger : Ledger) (history : List WalletOperation) :
    Except HttpException Ledger :=
  history.foldlM (fun ledger operation =>
    ledger.perform (ledger.findWallet operation.userId) operation) ledger

variable {ledger after : Ledger}

theorem perform_ok {found : Option Wallet} {operation : WalletOperation}
    (performed : ledger.perform found operation = .ok after) :
    after = ledger.posted found operation := by
  rw [perform_eq] at performed
  split at performed
  · contradiction
  · exact (Except.ok.inj performed).symm

theorem performAll_cons {operation : WalletOperation} {history : List WalletOperation}
    (performed : ledger.performAll (operation :: history) = .ok after) :
    (ledger.posted (ledger.findWallet operation.userId) operation).performAll history =
      .ok after := by
  rw [performAll, List.foldlM_cons] at performed
  cases first : ledger.perform (ledger.findWallet operation.userId) operation with
  | error exception =>
      rw [first] at performed
      cases performed
  | ok posted =>
      rw [first] at performed
      exact perform_ok first ▸ performed

theorem isSome_findWallet_iff {userId : Nat} :
    (ledger.findWallet userId).isSome ↔
      ∃ row ∈ ledger.wallets.rows, row.userId = userId := by
  simp [findWallet, List.find?_isSome]

/-- After a posting the wallets of its user and those stored before are stored. -/
theorem isSome_findWallet_posted {operation : WalletOperation} {userId : Nat} :
    ((ledger.posted (ledger.findWallet operation.userId) operation).findWallet
        userId).isSome ↔
      operation.userId = userId ∨ (ledger.findWallet userId).isSome := by
  simp only [isSome_findWallet_iff]
  cases found : ledger.findWallet operation.userId with
  | none =>
      constructor
      · rintro ⟨row, present, owner⟩
        rcases mem_posted_none.mp present with rfl | rfl | old
        · exact Or.inl owner
        · exact Or.inl owner
        · exact Or.inr ⟨row, old, owner⟩
      · rintro (same | ⟨row, old, owner⟩)
        · exact ⟨_, mem_posted_none.mpr (Or.inl rfl), same⟩
        · exact ⟨row, mem_posted_none.mpr (Or.inr (Or.inr old)), owner⟩
  | some wallet =>
      obtain ⟨stored, owned⟩ := ledger.locks_findWallet operation.userId wallet found
      constructor
      · rintro ⟨row, present, owner⟩
        rcases mem_posted_some.mp present with rfl | ⟨old, _⟩
        · exact Or.inl (owned.symm.trans owner)
        · exact Or.inr ⟨row, old, owner⟩
      · rintro (same | ⟨row, old, owner⟩)
        · exact ⟨_, mem_posted_some.mpr (Or.inl rfl), owned.trans same⟩
        · by_cases written : row.id = wallet.id
          · obtain rfl := ledger.wallets.eq_of_key_eq old stored written
            exact ⟨_, mem_posted_some.mpr (Or.inl rfl), owner⟩
          · exact ⟨row, mem_posted_some.mpr (Or.inr ⟨old, written⟩), owner⟩

/-- The operations of a history that move the balance which is read for a user: those
of the user, but for the first when it has to open the wallet. -/
def moving (ledger : Ledger) (history : List WalletOperation) (userId : Nat) :
    List WalletOperation :=
  let own := history.filter (·.userId == userId)
  if (ledger.findWallet userId).isSome then own else own.tail

/-- What a successful history does to the balance that is read for a user. -/
theorem walletBalance_performAll {history : List WalletOperation}
    (performed : ledger.performAll history = .ok after) (userId : Nat) :
    after.walletBalance userId = ledger.walletBalance userId +
      ((ledger.moving history userId).map WalletOperation.delta).sum := by
  induction history generalizing ledger with
  | nil =>
      cases performed
      simp [moving]
  | cons operation history ih =>
      rw [ih (performAll_cons performed), walletBalance_posted]
      simp only [moving, isSome_findWallet_posted, List.filter_cons]
      by_cases own : operation.userId = userId
      · by_cases stored : (ledger.findWallet userId).isSome
        · simp [own, stored, add_assoc]
        · simp [own, stored]
      · simp [own]

/-- What the statement's sum depends on in a row of the ledger. -/
def rowPosting (transaction : Transaction) : Nat × TransactionType × Int :=
  (transaction.userId, transaction.type, transaction.amount)

/-- A successful history appends one row for each operation, in order. -/
theorem rowPostings_performAll {history : List WalletOperation}
    (performed : ledger.performAll history = .ok after) :
    after.transactions.rows.map rowPosting = ledger.transactions.rows.map rowPosting ++
      history.map fun operation =>
        (operation.userId, operation.type, operation.amount) := by
  induction history generalizing ledger with
  | nil =>
      cases performed
      simp
  | cons operation history ih =>
      rw [ih (performAll_cons performed), posted_transactions]
      simp [KeyedTable.insert, rowPosting, WalletOperation.entry]

end Ledger

namespace WalletsService

variable {createdAt : Nat → Int} {ledger : Ledger}

/-- A page from the start with room for all rows lists them all. -/
theorem findTransactionsByUser_perm {userId limit : Nat} {type : Option TransactionType}
    (room : (ledger.transactions.rows.filter (transactionWhere userId type)).length ≤
      limit) :
    (findTransactionsByUser createdAt ledger userId limit 0 type).1.Perm
      (ledger.transactions.rows.filter (transactionWhere userId type)) := by
  simp only [findTransactionsByUser, List.drop_zero]
  rw [List.take_of_length_le (by rwa [List.length_mergeSort])]
  exact List.mergeSort_perm _ _

theorem transactionWhere_none (userId : Nat) :
    transactionWhere userId none = fun transaction => transaction.userId == userId := by
  funext transaction
  simp [transactionWhere]

theorem findWalletByUser_balance (userId : Nat) :
    (ledger.findWalletByUser userId).2.balance = ledger.walletBalance userId :=
  Ledger.getLockedWallet_balance userId

end WalletsService

/-- Nothing has been posted for the user yet, and the user's wallet, if there is one,
is one empty row. -/
structure Ledger.FreshFor (ledger : Ledger) (userId : Nat) : Prop where
  wallet : (ledger.wallets.rows.filter (·.userId == userId)).length ≤ 1
  empty : ∀ row ∈ ledger.wallets.rows, row.userId = userId → row.balance = 0
  transactions : ∀ row ∈ ledger.transactions.rows, row.userId ≠ userId

theorem Ledger.FreshFor.walletBalance {ledger : Ledger} {userId : Nat}
    (fresh : ledger.FreshFor userId) : ledger.walletBalance userId = 0 := by
  unfold Ledger.walletBalance
  cases found : ledger.findWallet userId with
  | none => rfl
  | some wallet =>
      obtain ⟨stored, owner⟩ := ledger.locks_findWallet userId wallet found
      exact fresh.empty wallet stored owner

theorem Ledger.freshFor_empty (userId : Nat) : Ledger.empty.FreshFor userId :=
  ⟨Nat.zero_le _, nofun, nofun⟩

/-- A user who has asked for the wallet and done nothing else has an empty one. -/
theorem Ledger.freshFor_findWalletByUser (userId : Nat) :
    (Ledger.empty.findWalletByUser userId).1.FreshFor userId where
  wallet := by simp [findWalletByUser, findWallet, getLockedWallet, Ledger.empty,
    KeyedTable.empty, KeyedTable.insert, newWallet, walletRow]
  empty row present _ := by
    rcases mem_findWalletByUser present with old | rfl
    · exact absurd old List.not_mem_nil
    · rfl
  transactions := nofun

namespace TelegramWalletHandlerService

variable {createdAt : Nat → Int} {start ledger : Ledger} {history : List WalletOperation}

/-- After a successful history with at most five operations of a user, the statement
sums what is shown of each of them. -/
theorem shownSum_handle (userId : Nat) (fresh : start.FreshFor userId)
    (performed : start.performAll history = .ok ledger)
    (few : (history.filter (·.userId == userId)).length ≤ 5) :
    (handle createdAt ledger userId).2.shownSum =
      ((history.filter (·.userId == userId)).map fun operation =>
        WalletOperation.shown operation.type operation.amount).sum := by
  let ownPosting : Nat × TransactionType × Int → Bool := fun posting => posting.1 == userId
  have before : (start.transactions.rows.map Ledger.rowPosting).filter ownPosting = [] := by
    simpa [ownPosting, Ledger.rowPosting] using fresh.transactions
  have rows : (ledger.transactions.rows.filter
        (WalletsService.transactionWhere userId none)).map Ledger.rowPosting =
      (history.filter (·.userId == userId)).map fun operation =>
        (operation.userId, operation.type, operation.amount) := by
    have postings := congrArg (List.filter ownPosting)
      (Ledger.rowPostings_performAll performed)
    rw [List.filter_append, before, List.nil_append] at postings
    simpa [List.filter_map, ownPosting, Function.comp_def, Ledger.rowPosting,
      WalletsService.transactionWhere_none] using postings
  have count := congrArg List.length rows
  simp only [List.length_map] at count
  have page : (WalletsService.findTransactionsByUser createdAt
      (ledger.findWalletByUser userId).1 userId 5 0 none).1.Perm _ :=
    WalletsService.findTransactionsByUser_perm (count.trans_le few)
  have sums := congrArg (fun postings => (postings.map fun posting =>
    WalletOperation.shown posting.2.1 posting.2.2).sum) rows
  simp only [List.map_map] at sums
  rw [handle, WalletStatement.shownSum]
  simp only [buildWalletMessage, List.map_map]
  rw [(page.map _).sum_eq]
  exact sums

theorem balance_handle (userId : Nat) (fresh : start.FreshFor userId)
    (performed : start.performAll history = .ok ledger) :
    (handle createdAt ledger userId).2.balance =
      ((start.moving history userId).map WalletOperation.delta).sum := by
  have kept := Ledger.walletBalance_performAll performed userId
  rw [fresh.walletBalance, zero_add] at kept
  exact (WalletsService.findWalletByUser_balance userId).trans kept

/-- The statement of a user adds up after every short history from these tables. -/
def StatementsAddUp (start : Ledger) : Prop :=
  ∀ (createdAt : Nat → Int) (history : List WalletOperation) (ledger : Ledger)
    (userId : Nat),
    (∀ operation ∈ history, operation.Offered) →
    start.performAll history = .ok ledger →
    (history.filter (·.userId == userId)).length ≤ 5 →
    (handle createdAt ledger userId).2.shownSum =
      (handle createdAt ledger userId).2.balance

end TelegramWalletHandlerService

end SpareSpace
