import SpareSpace.Entities
import Mathlib.Data.List.Find
import Mathlib.Tactic.Linarith
import Mathlib.Tactic.Ring

/-!
# The wallet service

Every wallet operation is one database transaction: it locks the user's wallet
row, opens a wallet when there is none, checks a debit against the balance,
writes the new balance and appends a row to the transaction table.  A
transaction that throws is rolled back and leaves both tables as they were.
One that opens the wallet leaves two rows of the user: the new balance goes
into a second row.
-/

namespace SpareSpace

/-- The tables the wallet service writes. -/
structure Ledger where
  wallets : KeyedTable Wallet Wallet.id
  transactions : KeyedTable Transaction Transaction.id

def Ledger.empty : Ledger :=
  ⟨KeyedTable.empty, KeyedTable.empty⟩

/-- What distinguishes the five wallet operations: the ledger entry they
write, and for a debit the message they throw when the balance is short.  The
columns hold the amount in hundredths; `excess` says that the number passed to
the service lies above it, as a difference of floating-point numbers may. -/
structure WalletOperation where
  type : TransactionType
  userId : Nat
  bookingId : Option Nat
  amount : Int
  excess : Bool
  insufficient : Option String
  description : String
  deriving DecidableEq, Repr

namespace WalletsService

def deposit (userId : Nat) (amount : Int) : WalletOperation where
  type := .deposit
  userId := userId
  bookingId := none
  amount := amount
  excess := false
  insufficient := none
  description := "Development deposit"

def withdraw (userId : Nat) (amount : Int) : WalletOperation where
  type := .withdrawal
  userId := userId
  bookingId := none
  amount := amount
  excess := false
  insufficient := some "Insufficient balance"
  description := "Development withdrawal"

def processBookingPayment (userId bookingId : Nat) (amount : Int) :
    WalletOperation where
  type := .bookingPayment
  userId := userId
  bookingId := some bookingId
  amount := amount
  excess := false
  insufficient := some "Insufficient funds for booking"
  description := s!"Payment for booking #{bookingId}"

def processBookingPayout (userId bookingId : Nat) (amount : Int) :
    WalletOperation where
  type := .bookingPayout
  userId := userId
  bookingId := some bookingId
  amount := amount
  excess := false
  insufficient := none
  description := s!"Payout for booking #{bookingId}"

def processRefund (userId bookingId : Nat) (amount : Int) :
    WalletOperation where
  type := .refund
  userId := userId
  bookingId := some bookingId
  amount := amount
  excess := false
  insufficient := none
  description := s!"Refund for cancelled/rejected booking #{bookingId}"

end WalletsService

/-- How a transaction of each type moves its user's balance. -/
def TransactionType.sign : TransactionType → Int
  | .deposit | .bookingPayout | .refund => 1
  | .withdrawal | .bookingPayment => -1
  | .commission => 0

def Transaction.signed (transaction : Transaction) : Int :=
  transaction.type.sign * transaction.amount

namespace WalletOperation

/-- The change of balance: a debit has a message for missing funds. -/
def delta (operation : WalletOperation) : Int :=
  match operation.insufficient with
  | some _ => -operation.amount
  | none => operation.amount

/-- The change of balance agrees with the sign of the ledger entry. -/
def Balanced (operation : WalletOperation) : Prop :=
  operation.delta = operation.type.sign * operation.amount

theorem balanced_deposit (userId : Nat) (amount : Int) :
    (WalletsService.deposit userId amount).Balanced := by
  simp [Balanced, delta, WalletsService.deposit, TransactionType.sign]

theorem balanced_withdraw (userId : Nat) (amount : Int) :
    (WalletsService.withdraw userId amount).Balanced := by
  simp [Balanced, delta, WalletsService.withdraw, TransactionType.sign]

theorem balanced_processBookingPayment (userId bookingId : Nat) (amount : Int) :
    (WalletsService.processBookingPayment userId bookingId amount).Balanced := by
  simp [Balanced, delta, WalletsService.processBookingPayment,
    TransactionType.sign]

theorem balanced_processBookingPayout (userId bookingId : Nat) (amount : Int) :
    (WalletsService.processBookingPayout userId bookingId amount).Balanced := by
  simp [Balanced, delta, WalletsService.processBookingPayout,
    TransactionType.sign]

theorem balanced_processRefund (userId bookingId : Nat) (amount : Int) :
    (WalletsService.processRefund userId bookingId amount).Balanced := by
  simp [Balanced, delta, WalletsService.processRefund, TransactionType.sign]

/-- The comparison of a balance with the number that the service is given. -/
def exceeds (operation : WalletOperation) (balance : Int) : Bool :=
  decide (balance < operation.amount) || operation.excess && balance == operation.amount

/-- A balance that is not exceeded covers the amount. -/
theorem le_of_not_exceeds {operation : WalletOperation} {balance : Int}
    (covers : ¬ operation.exceeds balance = true) : operation.amount ≤ balance := by
  simp only [exceeds, Bool.or_eq_true, decide_eq_true_eq, not_or, not_lt] at covers
  exact covers.1

/-- The operation moves money between a wallet and a booking. -/
def Internal (operation : WalletOperation) : Prop :=
  operation.type ≠ .deposit ∧ operation.type ≠ .withdrawal

/-- The ledger row the operation writes. -/
def entry (operation : WalletOperation) (id : Nat) : Transaction where
  id := id
  userId := operation.userId
  bookingId := operation.bookingId
  type := operation.type
  amount := operation.amount
  status := .success
  description := operation.description

theorem entry_id (operation : WalletOperation) (id : Nat) :
    (operation.entry id).id = id :=
  rfl

end WalletOperation

namespace Ledger

variable (ledger : Ledger)

/-- The row that saving a wallet without a stored row inserts. -/
def walletRow (userId : Nat) (balance : Int) (id : Nat) : Wallet :=
  ⟨id, userId, balance⟩

theorem walletRow_id (userId : Nat) (balance : Int) (id : Nat) :
    (walletRow userId balance id).id = id :=
  rfl

/-- A wallet as `manager.create` makes it. -/
def newWallet (userId id : Nat) : Wallet :=
  walletRow userId 0 id

theorem newWallet_id (userId id : Nat) : (newWallet userId id).id = id :=
  rfl

/-- The wallet row `findOne` returns for a user.  The query has no order; of two
rows of a user the older is taken here. -/
def findWallet (userId : Nat) : Option Wallet :=
  ledger.wallets.rows.find? fun wallet => wallet.userId == userId

/-- `getLockedWallet` after its `findOne`: the row found, or a new row with
balance zero. -/
def getLockedWallet (found : Option Wallet) (userId : Nat) :
    KeyedTable Wallet Wallet.id × Wallet :=
  match found with
  | some wallet => (ledger.wallets, wallet)
  | none =>
      (ledger.wallets.insert (newWallet userId) (newWallet_id userId),
        newWallet userId ledger.wallets.nextId)

/-- The balance the operation starts from. -/
def balanceFrom (found : Option Wallet) : Int :=
  match found with
  | some wallet => wallet.balance
  | none => 0

/-- `manager.save` of the wallet that `getLockedWallet` returned, with its new
balance.  A wallet that was read is written over its row.  One that was just
inserted has got its `bigint` key back as a text, while rows are read with
numbers for keys: the save finds no row of that key, and inserts another. -/
def saveLocked (found : Option Wallet) (userId : Nat) (balance : Int) :
    KeyedTable Wallet Wallet.id :=
  let (wallets, wallet) := ledger.getLockedWallet found userId
  match found with
  | some _ => wallets.save { wallet with balance := balance }
  | none => wallets.insert (walletRow userId balance) (walletRow_id userId balance)

/-- The tables after the operation has written the new balance and its
transaction. -/
def posted (found : Option Wallet) (operation : WalletOperation) : Ledger :=
  let (_, wallet) := ledger.getLockedWallet found operation.userId
  { wallets := ledger.saveLocked found operation.userId
      (wallet.balance + operation.delta)
    transactions := ledger.transactions.insert operation.entry operation.entry_id }

/-- A wallet transaction, from the row its locking read returned. -/
def perform (found : Option Wallet) (operation : WalletOperation) :
    Except HttpException Ledger :=
  let (_, wallet) := ledger.getLockedWallet found operation.userId
  match operation.insufficient with
  | some message =>
      if operation.exceeds wallet.balance then
        .error (.badRequest message)
      else
        .ok (ledger.posted found operation)
  | none => .ok (ledger.posted found operation)

/-- The operation is a debit of more than the balance. -/
def Short (found : Option Wallet) (operation : WalletOperation) : Prop :=
  operation.insufficient.isSome ∧ operation.exceeds (balanceFrom found) = true

instance (found : Option Wallet) (operation : WalletOperation) :
    Decidable (Short found operation) :=
  inferInstanceAs (Decidable (_ ∧ _))

variable {ledger} {found : Option Wallet} {operation : WalletOperation}

/-- A transaction that opens a wallet takes nothing out of it. -/
theorem delta_nonneg_of_opening (funds : ¬ Short none operation)
    (credit : operation.insufficient = none → 0 ≤ operation.amount) :
    0 ≤ operation.delta := by
  unfold WalletOperation.delta
  cases debit : operation.insufficient with
  | none => exact credit debit
  | some message =>
      have covered : operation.amount ≤ 0 := WalletOperation.le_of_not_exceeds
        fun exceeds => funds ⟨by simp [debit], exceeds⟩
      exact neg_nonneg.mpr covered

@[simp]
theorem getLockedWallet_balance (userId : Nat) :
    (ledger.getLockedWallet found userId).2.balance = balanceFrom found := by
  cases found <;> rfl

/-- A wallet transaction throws exactly when a debit is short of funds, and
otherwise posts its entry. -/
theorem perform_eq :
    ledger.perform found operation =
      if Short found operation then
        .error (.badRequest (operation.insufficient.getD ""))
      else
        .ok (ledger.posted found operation) := by
  simp only [perform, Short]
  split
  · next message debit =>
      simp only [getLockedWallet_balance, debit, Option.isSome_some, true_and,
        Option.getD_some]
  · next credit => simp [credit]

@[simp]
theorem posted_transactions :
    (ledger.posted found operation).transactions =
      ledger.transactions.insert operation.entry operation.entry_id :=
  rfl

/-- The row a locking read may return for a user. -/
def Locks (ledger : Ledger) (userId : Nat) (found : Option Wallet) : Prop :=
  ∀ wallet, found = some wallet →
    wallet ∈ ledger.wallets.rows ∧ wallet.userId = userId

theorem locks_findWallet (userId : Nat) :
    ledger.Locks userId (ledger.findWallet userId) := by
  intro wallet located
  exact ⟨List.mem_of_find?_eq_some located, by simpa using List.find?_some located⟩

theorem locks_none (userId : Nat) : ledger.Locks userId none := by
  intro wallet located
  contradiction

private theorem total_save_balance (wallets : KeyedTable Wallet Wallet.id)
    (wallet : Wallet) (rate : Nat → Int) (change : Int)
    (rowMem : wallet ∈ wallets.rows) :
    (wallets.save { wallet with balance := wallet.balance + change }).total
        (fun row => rate row.userId * row.balance) =
      wallets.total (fun row => rate row.userId * row.balance) +
        rate wallet.userId * change := by
  have located : wallets.find?
      (Wallet.id { wallet with balance := wallet.balance + change }) =
        some wallet :=
    wallets.find?_key_of_mem rowMem
  rw [wallets.total_save_of_find? _ located]
  ring

/-- Any rate-weighted sum of balances grows by the user's rate times the
operation's change of balance. -/
theorem total_posted (rate : Nat → Int)
    (locks : ledger.Locks operation.userId found) :
    (ledger.posted found operation).wallets.total
        (fun row => rate row.userId * row.balance) =
      ledger.wallets.total (fun row => rate row.userId * row.balance) +
        rate operation.userId * operation.delta := by
  cases found with
  | some wallet =>
      obtain ⟨rowMem, owner⟩ := locks wallet rfl
      simp only [posted, saveLocked, getLockedWallet]
      rw [total_save_balance ledger.wallets wallet rate operation.delta rowMem, owner]
  | none =>
      simp only [posted, saveLocked, getLockedWallet, KeyedTable.total_insert]
      simp [newWallet, walletRow]

/-- The sum of the balances of a user's wallet rows. -/
def balanceOf (ledger : Ledger) (userId : Nat) : Int :=
  ledger.wallets.total fun row => if row.userId = userId then row.balance else 0

theorem balanceOf_posted (userId : Nat)
    (locks : ledger.Locks operation.userId found) :
    (ledger.posted found operation).balanceOf userId =
      ledger.balanceOf userId +
        if operation.userId = userId then operation.delta else 0 := by
  simpa [balanceOf, ite_mul] using
    total_posted (fun owner => if owner = userId then 1 else 0) locks

/-- The rows after a posting to a row: it with its new balance, and the
others. -/
theorem mem_posted_some {row wallet : Wallet} :
    row ∈ (ledger.posted (some wallet) operation).wallets.rows ↔
      row = { wallet with balance := wallet.balance + operation.delta } ∨
        (row ∈ ledger.wallets.rows ∧ row.id ≠ wallet.id) :=
  ledger.wallets.mem_save_iff

/-- The rows after a posting that opened a wallet: the row with the new balance,
the empty one, and those before. -/
theorem mem_posted_none {row : Wallet} :
    row ∈ (ledger.posted none operation).wallets.rows ↔
      row = walletRow operation.userId operation.delta
          (ledger.wallets.nextId + 1) ∨
        row = newWallet operation.userId ledger.wallets.nextId ∨
          row ∈ ledger.wallets.rows := by
  simp only [posted, saveLocked, getLockedWallet, KeyedTable.mem_insert_iff,
    newWallet, walletRow, zero_add]
  constructor
  · rintro ((old | opened) | written)
    · exact Or.inr (Or.inr old)
    · exact Or.inr (Or.inl opened)
    · exact Or.inl written
  · rintro (written | opened | old)
    · exact Or.inr written
    · exact Or.inl (Or.inr opened)
    · exact Or.inl (Or.inl old)

/-- The rows after a posting: those of its user with the new balance or the one it
started from, and the others as they were. -/
theorem mem_posted_wallets {row : Wallet}
    (locks : ledger.Locks operation.userId found)
    (rowMem : row ∈ (ledger.posted found operation).wallets.rows) :
    (row.userId = operation.userId ∧
        (row.balance = balanceFrom found + operation.delta ∨
          row.balance = balanceFrom found)) ∨
      row ∈ ledger.wallets.rows := by
  cases found with
  | some wallet =>
      rcases mem_posted_some.mp rowMem with rfl | ⟨old, _⟩
      · exact Or.inl ⟨(locks wallet rfl).2, Or.inl rfl⟩
      · exact Or.inr old
  | none =>
      rcases mem_posted_none.mp rowMem with rfl | rfl | old
      · exact Or.inl ⟨rfl, Or.inl (zero_add _).symm⟩
      · exact Or.inl ⟨rfl, Or.inr rfl⟩
      · exact Or.inr old

/-- The new balance is written to a row. -/
theorem exists_posted_balance :
    ∃ row ∈ (ledger.posted found operation).wallets.rows,
      row.balance = balanceFrom found + operation.delta := by
  cases found with
  | some wallet => exact ⟨_, mem_posted_some.mpr (Or.inl rfl), rfl⟩
  | none => exact ⟨_, mem_posted_none.mpr (Or.inl rfl), (zero_add _).symm⟩

/-- The balance that a wallet transaction of a user starts from. -/
def walletBalance (ledger : Ledger) (userId : Nat) : Int :=
  balanceFrom (ledger.findWallet userId)

/-- A write of the row that is read for its owner changes the balance of that owner. -/
theorem balance_credited {wallets : KeyedTable Wallet Wallet.id} {wallet : Wallet}
    {ownerId : Nat}
    (own : wallets.rows.find? (fun row => row.userId == ownerId) = some wallet)
    (change : Int) (userId : Nat) :
    balanceFrom ((wallets.save { wallet with balance := wallet.balance + change }).rows.find?
        fun row => row.userId == userId) =
      balanceFrom (wallets.rows.find? fun row => row.userId == userId) +
        if ownerId = userId then change else 0 := by
  have stored := List.mem_of_find?_eq_some own
  have owned : wallet.userId = ownerId := by simpa using List.find?_some own
  rw [wallets.rows_save_of_isSome (by simp [wallets.find?_key_of_mem stored]), List.find?_map]
  -- The write keeps the owner of every row.
  have owners : wallets.rows.find? ((fun row => row.userId == userId) ∘ fun row =>
        if row.id = wallet.id then
          { wallet with balance := wallet.balance + change }
        else
          row) = wallets.rows.find? fun row => row.userId == userId := by
    refine List.find?_congr fun row rowMem => ?_
    simp only [Function.comp_apply]
    split
    · next same => rw [wallets.eq_of_key_eq rowMem stored same]
    · rfl
  rw [owners]
  split
  · next same =>
      subst same
      simp [own, balanceFrom]
  · next other =>
      cases found : wallets.rows.find? (fun row => row.userId == userId) with
      | none => simp
      | some row =>
          have different : row.id ≠ wallet.id := fun same => by
            have equal := wallets.eq_of_key_eq (List.mem_of_find?_eq_some found) stored same
            have named : row.userId = userId := by simpa using List.find?_some found
            rw [equal, owned] at named
            exact other named
          simp [different]

/-- Rows appended behind those of a table are read when the table has none of the
user. -/
theorem find?_insert_wallet {wallets : KeyedTable Wallet Wallet.id}
    (ownerId : Nat) (balance : Int) (userId : Nat) :
    (wallets.insert (walletRow ownerId balance)
        (walletRow_id ownerId balance)).rows.find? (fun row => row.userId == userId) =
      (wallets.rows.find? fun row => row.userId == userId).or
        (if ownerId = userId then some (walletRow ownerId balance wallets.nextId)
          else none) := by
  simp only [KeyedTable.insert, List.find?_append, walletRow]
  congr 1
  by_cases same : ownerId = userId <;> simp [same]

/-- Opening an empty wallet changes no balance. -/
theorem balanceFrom_opened (ownerId userId : Nat) :
    balanceFrom ((ledger.wallets.insert (newWallet ownerId)
        (newWallet_id ownerId)).rows.find? fun row => row.userId == userId) =
      ledger.walletBalance userId := by
  have appended := @find?_insert_wallet ledger.wallets ownerId 0 userId
  refine (congrArg balanceFrom appended).trans ?_
  simp only [walletBalance, findWallet]
  cases ledger.wallets.rows.find? (fun row => row.userId == userId) with
  | some wallet => rfl
  | none =>
      simp only [Option.none_or]
      split <;> rfl

/-- A posting to a stored wallet changes the balance of its user by what it moves; one
that opens the wallet leaves the balance that is read at zero. -/
theorem walletBalance_posted (userId : Nat) :
    (ledger.posted (ledger.findWallet operation.userId) operation).walletBalance userId =
      ledger.walletBalance userId +
        if operation.userId = userId ∧ (ledger.findWallet userId).isSome then
          operation.delta
        else 0 := by
  cases found : ledger.findWallet operation.userId with
  | some wallet =>
      have credited := balance_credited found operation.delta userId
      have owner : operation.userId = userId → (ledger.findWallet userId).isSome :=
        fun same => same ▸ Option.isSome_iff_exists.mpr ⟨wallet, found⟩
      simp only [and_iff_left_of_imp owner]
      exact credited
  | none =>
      have absent : ¬ (operation.userId = userId ∧ (ledger.findWallet userId).isSome) := by
        rintro ⟨same, stored⟩
        rw [← same, found] at stored
        contradiction
      rw [if_neg absent, add_zero,
        ← @balanceFrom_opened ledger operation.userId userId]
      have appended := @find?_insert_wallet
        (ledger.wallets.insert (newWallet operation.userId)
          (newWallet_id operation.userId)) operation.userId (0 + operation.delta) userId
      refine (congrArg balanceFrom appended).trans ?_
      -- The empty row stands before the row with the new balance.
      have opened := @find?_insert_wallet ledger.wallets operation.userId 0 userId
      by_cases same : operation.userId = userId
      · rw [if_pos same] at opened
        have stands : (ledger.wallets.insert (newWallet operation.userId)
            (newWallet_id operation.userId)).rows.find?
              (fun row => row.userId == userId) ≠ none := by
          refine fun none => absurd (opened.symm.trans none) ?_
          simp
        obtain ⟨row, read⟩ := Option.ne_none_iff_exists'.mp stands
        rw [read]
        rfl
      · rw [if_neg same, Option.or_none]

end Ledger

/-- The tables after `findWalletByUser`, and the wallet it returns: the row found, or
a new one saved once. -/
def Ledger.findWalletByUser (ledger : Ledger) (userId : Nat) : Ledger × Wallet :=
  let (wallets, wallet) := ledger.getLockedWallet (ledger.findWallet userId) userId
  ({ ledger with wallets := wallets }, wallet)

namespace Ledger

variable {ledger : Ledger}

/-- An opened wallet is empty: no rate-weighted sum of balances changes. -/
theorem total_findWalletByUser (rate : Nat → Int) (userId : Nat) :
    (ledger.findWalletByUser userId).1.wallets.total
        (fun row => rate row.userId * row.balance) =
      ledger.wallets.total (fun row => rate row.userId * row.balance) := by
  unfold findWalletByUser
  cases ledger.findWallet userId with
  | some wallet => rfl
  | none =>
      simp only [getLockedWallet, KeyedTable.total_insert]
      simp [newWallet, walletRow]

theorem balanceOf_findWalletByUser (opener userId : Nat) :
    (ledger.findWalletByUser opener).1.balanceOf userId = ledger.balanceOf userId := by
  simpa [balanceOf, ite_mul] using
    total_findWalletByUser (fun owner => if owner = userId then 1 else 0) opener

/-- The rows after `findWalletByUser` are those before and perhaps an empty one. -/
theorem mem_findWalletByUser {userId : Nat} {row : Wallet}
    (present : row ∈ (ledger.findWalletByUser userId).1.wallets.rows) :
    row ∈ ledger.wallets.rows ∨ row = newWallet userId ledger.wallets.nextId := by
  unfold findWalletByUser at present
  cases found : ledger.findWallet userId with
  | some wallet =>
      rw [found] at present
      exact Or.inl present
  | none =>
      rw [found] at present
      exact (ledger.wallets.mem_insert_iff _ (newWallet_id userId)).mp present

theorem walletBalance_findWalletByUser (opener userId : Nat) :
    (ledger.findWalletByUser opener).1.walletBalance userId =
      ledger.walletBalance userId := by
  unfold findWalletByUser
  cases ledger.findWallet opener with
  | some wallet => rfl
  | none => exact balanceFrom_opened opener userId

end Ledger

end SpareSpace
