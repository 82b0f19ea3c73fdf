import SpareSpace.InterleavedCalls
import SpareSpace.WalletsService

/-!
# Wallet calls and the ledger they keep

The five wallet transactions and `findWalletByUser` as interleaved calls.  A
transaction whose locking read finds a row runs on without interference until
it commits.  One that finds no row locks nothing: it inserts a row of its own
and commits in a later step.  Whatever the interleaving, the balances stay
non-negative and add up, for each user, to the user's transactions.
-/

namespace SpareSpace

open InterleavedCalls TransitionRuns

/-- The wallet transactions callers may ask for; no amount is negative. -/
inductive WalletRequest
  | deposit (userId amount : Nat)
  | withdraw (userId amount : Nat)
  | processBookingPayment (userId bookingId amount : Nat)
  | processBookingPayout (userId bookingId amount : Nat)
  | processRefund (userId bookingId amount : Nat)
  deriving DecidableEq, Repr

namespace WalletRequest

def operation : WalletRequest → WalletOperation
  | deposit userId amount => WalletsService.deposit userId amount
  | withdraw userId amount => WalletsService.withdraw userId amount
  | processBookingPayment userId bookingId amount =>
      WalletsService.processBookingPayment userId bookingId amount
  | processBookingPayout userId bookingId amount =>
      WalletsService.processBookingPayout userId bookingId amount
  | processRefund userId bookingId amount =>
      WalletsService.processRefund userId bookingId amount

theorem amount_nonneg (request : WalletRequest) :
    0 ≤ request.operation.amount := by
  cases request <;> exact Int.natCast_nonneg _

theorem balanced (request : WalletRequest) : request.operation.Balanced := by
  cases request with
  | deposit => exact WalletOperation.balanced_deposit _ _
  | withdraw => exact WalletOperation.balanced_withdraw _ _
  | processBookingPayment =>
      exact WalletOperation.balanced_processBookingPayment _ _ _
  | processBookingPayout =>
      exact WalletOperation.balanced_processBookingPayout _ _ _
  | processRefund => exact WalletOperation.balanced_processRefund _ _ _

/-- An operation that is not short of funds leaves a non-negative balance. -/
theorem balance_nonneg (request : WalletRequest) {found : Option Wallet}
    (before : 0 ≤ Ledger.balanceFrom found)
    (funds : ¬ Ledger.Short found request.operation) :
    0 ≤ Ledger.balanceFrom found + request.operation.delta := by
  have amount := request.amount_nonneg
  unfold Ledger.Short at funds
  unfold WalletOperation.delta
  cases debit : request.operation.insufficient with
  | none =>
      simp only
      omega
  | some message =>
      simp only [debit, Option.isSome_some, true_and] at funds ⊢
      have covered := WalletOperation.le_of_not_exceeds funds
      omega

end WalletRequest

/-- The program points of `findWalletByUser` and of the transactions. -/
inductive WalletCall
  | findOneBy (userId : Nat)
  | saveNew (userId : Nat)
  | getLocked (request : WalletRequest)
  | createLocked (request : WalletRequest)
  | returned
  | threw (error : HttpException)
  deriving DecidableEq

/-- Which of a user's rows a locking read returns, and whether the database
refuses the call's writes. -/
structure WalletInput where
  walletId : Nat
  aborts : Bool

namespace WalletCall

def begins : WalletCall → Bool
  | findOneBy _ | getLocked _ => true
  | _ => false

/-- The rest of a transaction from the row its locking read returned. -/
def commit (ledger : Ledger) (aborts : Bool) (found : Option Wallet)
    (request : WalletRequest) : Ledger × WalletCall :=
  match ledger.perform found request.operation with
  | .error error => (ledger, threw error)
  | .ok after =>
      if aborts then
        (ledger, threw (.database "transaction aborted"))
      else
        (after, returned)

/-- One atomic step of a call. -/
def next (input : WalletInput) (ledger : Ledger) :
    WalletCall → Option (Ledger × WalletCall)
  | findOneBy userId =>
      match ledger.findWallet userId with
      | some _ => some (ledger, returned)
      | none => some (ledger, saveNew userId)
  | saveNew userId =>
      if input.aborts then
        some (ledger, threw (.database "save failed"))
      else
        some ({ ledger with
          wallets := ledger.wallets.insert (Ledger.newWallet userId)
            (Ledger.newWallet_id userId) }, returned)
  | getLocked request =>
      match ledger.findWallet request.operation.userId with
      | none => some (ledger, createLocked request)
      | some _ =>
          match ledger.wallets.find? input.walletId with
          | some wallet =>
              if wallet.userId = request.operation.userId then
                some (commit ledger input.aborts (some wallet) request)
              else
                none
          | none => none
  | createLocked request => some (commit ledger input.aborts none request)
  | returned | threw _ => none

end WalletCall

/-- All wallet calls interleaved over one ledger. -/
def walletSystem : System Ledger WalletCall WalletInput where
  starts := WalletCall.begins
  next := WalletCall.next

/-- No wallets, no transactions and no calls. -/
def walletStart : Config Ledger WalletCall :=
  ⟨.empty, []⟩

namespace WalletCall

variable {input : WalletInput} {ledger after : Ledger} {call moved : WalletCall}

theorem commit_cases (ledger : Ledger) (aborts : Bool)
    (found : Option Wallet) (request : WalletRequest) :
    (∃ error, commit ledger aborts found request = (ledger, threw error)) ∨
      (¬ Ledger.Short found request.operation ∧
        commit ledger aborts found request =
          (ledger.posted found request.operation, returned)) := by
  unfold commit
  rw [Ledger.perform_eq]
  by_cases short : Ledger.Short found request.operation
  · exact Or.inl ⟨_, by rw [if_pos short]⟩
  · rw [if_neg short]
    cases aborts with
    | true => exact Or.inl ⟨_, rfl⟩
    | false => exact Or.inr ⟨short, rfl⟩

/-- What a call has done to the ledger in the step by which it returns. -/
inductive Writes (ledger : Ledger) : WalletCall → Ledger → Prop
  | nothing {userId : Nat} : Writes ledger (findOneBy userId) ledger
  | row {userId : Nat} :
      Writes ledger (saveNew userId) { ledger with
        wallets := ledger.wallets.insert (Ledger.newWallet userId)
          (Ledger.newWallet_id userId) }
  | posting {request : WalletRequest} {wallet : Wallet}
      (locks : ledger.Locks request.operation.userId (some wallet))
      (funds : ¬ Ledger.Short (some wallet) request.operation) :
      Writes ledger (getLocked request)
        (ledger.posted (some wallet) request.operation)
  | opening {request : WalletRequest}
      (funds : ¬ Ledger.Short none request.operation) :
      Writes ledger (createLocked request)
        (ledger.posted none request.operation)

/-- A step by which a call does not return leaves the ledger unchanged; a step
by which it returns makes the call's writes. -/
theorem next_cases (moves : next input ledger call = some (after, moved)) :
    (moved ≠ returned ∧ after = ledger) ∨
      (moved = returned ∧ Writes ledger call after) := by
  cases call with
  | findOneBy userId =>
      simp only [next] at moves
      split at moves
      · obtain ⟨rfl, rfl⟩ := Prod.mk.inj (Option.some.inj moves)
        exact Or.inr ⟨rfl, .nothing⟩
      · obtain ⟨rfl, rfl⟩ := Prod.mk.inj (Option.some.inj moves)
        exact Or.inl ⟨by simp, rfl⟩
  | saveNew userId =>
      simp only [next] at moves
      split at moves
      · obtain ⟨rfl, rfl⟩ := Prod.mk.inj (Option.some.inj moves)
        exact Or.inl ⟨by simp, rfl⟩
      · obtain ⟨rfl, rfl⟩ := Prod.mk.inj (Option.some.inj moves)
        exact Or.inr ⟨rfl, .row⟩
  | getLocked request =>
      simp only [next] at moves
      split at moves
      · obtain ⟨rfl, rfl⟩ := Prod.mk.inj (Option.some.inj moves)
        exact Or.inl ⟨by simp, rfl⟩
      · split at moves
        · next wallet located =>
            split at moves
            · next owner =>
                have locks : ledger.Locks request.operation.userId
                    (some wallet) := by
                  rintro _ ⟨⟩
                  exact ⟨ledger.wallets.mem_of_find? located, owner⟩
                rcases commit_cases ledger input.aborts (some wallet)
                  request with ⟨error, failed⟩ | ⟨funds, posted⟩
                · rw [failed] at moves
                  obtain ⟨rfl, rfl⟩ := Prod.mk.inj (Option.some.inj moves)
                  exact Or.inl ⟨by simp, rfl⟩
                · rw [posted] at moves
                  obtain ⟨rfl, rfl⟩ := Prod.mk.inj (Option.some.inj moves)
                  exact Or.inr ⟨rfl, .posting locks funds⟩
            · contradiction
        · contradiction
  | createLocked request =>
      simp only [next] at moves
      rcases commit_cases ledger input.aborts none request with
        ⟨error, failed⟩ | ⟨funds, posted⟩
      · rw [failed] at moves
        obtain ⟨rfl, rfl⟩ := Prod.mk.inj (Option.some.inj moves)
        exact Or.inl ⟨by simp, rfl⟩
      · rw [posted] at moves
        obtain ⟨rfl, rfl⟩ := Prod.mk.inj (Option.some.inj moves)
        exact Or.inr ⟨rfl, .opening funds⟩
  | returned => contradiction
  | threw error => contradiction

theorem commit_of_aborts {found : Option Wallet} {request : WalletRequest} :
    (commit ledger true found request).1 = ledger := by
  unfold commit
  split <;> rfl

/-- A call whose writes the database refuses changes nothing. -/
theorem next_of_aborts (moves : next input ledger call = some (after, moved))
    (aborts : input.aborts = true) : after = ledger := by
  cases call with
  | findOneBy userId =>
      simp only [next] at moves
      split at moves <;> exact (Prod.mk.inj (Option.some.inj moves)).1.symm
  | saveNew userId =>
      rw [next, if_pos aborts] at moves
      exact (Prod.mk.inj (Option.some.inj moves)).1.symm
  | getLocked request =>
      simp only [next, aborts] at moves
      split at moves
      · exact (Prod.mk.inj (Option.some.inj moves)).1.symm
      · split at moves
        · split at moves
          · exact (congrArg Prod.fst (Option.some.inj moves)).symm.trans
              commit_of_aborts
          · contradiction
        · contradiction
  | createLocked request =>
      simp only [next, aborts] at moves
      exact (congrArg Prod.fst (Option.some.inj moves)).symm.trans
        commit_of_aborts
  | returned => contradiction
  | threw error => contradiction

end WalletCall

namespace Ledger

/-- The total of a user's ledger entries of one type. -/
def totalFor (ledger : Ledger) (userId : Nat) (type : TransactionType) : Int :=
  ledger.transactions.total fun row =>
    if row.userId = userId ∧ row.type = type then row.amount else 0

/-- The signed total of a user's ledger entries. -/
def netOf (ledger : Ledger) (userId : Nat) : Int :=
  ledger.transactions.total fun row =>
    if row.userId = userId then row.signed else 0

theorem netOf_eq (ledger : Ledger) (userId : Nat) :
    ledger.netOf userId =
      ledger.totalFor userId .deposit + ledger.totalFor userId .bookingPayout +
          ledger.totalFor userId .refund -
        ledger.totalFor userId .withdrawal -
          ledger.totalFor userId .bookingPayment := by
  unfold netOf totalFor KeyedTable.total
  induction ledger.transactions.rows with
  | nil => rfl
  | cons row rest ih =>
      simp only [List.map_cons, List.sum_cons, ih]
      by_cases owner : row.userId = userId
      · cases type : row.type <;>
          simp only [owner, type, Transaction.signed, TransactionType.sign,
            true_and, if_true, reduceCtorEq, if_false] <;> ring
      · simp [owner]

/-- The invariant of the wallet service: no balance is negative, and a user's
balances add up to the user's transactions. -/
structure Kept (ledger : Ledger) : Prop where
  nonneg : ∀ wallet ∈ ledger.wallets.rows, 0 ≤ wallet.balance
  accounted : ∀ userId, ledger.balanceOf userId = ledger.netOf userId

theorem kept_empty : Ledger.empty.Kept :=
  ⟨nofun, fun _ => rfl⟩

variable {ledger : Ledger}

/-- A new row with balance zero changes no sum. -/
theorem Kept.insert (kept : ledger.Kept) (userId : Nat) :
    Kept { ledger with
      wallets := ledger.wallets.insert (newWallet userId)
        (newWallet_id userId) } where
  nonneg wallet present := by
    rcases (ledger.wallets.mem_insert_iff _ (newWallet_id userId)).mp present
      with old | rfl
    · exact kept.nonneg wallet old
    · exact le_rfl
  accounted other := by
    have opened : (if (newWallet userId ledger.wallets.nextId).userId = other
        then (newWallet userId ledger.wallets.nextId).balance else 0) = 0 := by
      split <;> rfl
    have unchanged := ledger.wallets.total_insert
      (fun row => if row.userId = other then row.balance else 0)
      (newWallet userId) (newWallet_id userId)
    simp only [opened, add_zero] at unchanged
    exact unchanged.trans (kept.accounted other)

/-- A posting that is not short of funds adds its amount to both sums. -/
theorem Kept.posted (kept : ledger.Kept) {request : WalletRequest}
    {found : Option Wallet}
    (locks : ledger.Locks request.operation.userId found)
    (funds : ¬ Short found request.operation) :
    (ledger.posted found request.operation).Kept where
  nonneg wallet present := by
    have before : 0 ≤ balanceFrom found := by
      cases found with
      | none => exact le_rfl
      | some wallet => exact kept.nonneg wallet (locks wallet rfl).1
    rcases mem_posted_wallets locks present with ⟨_, written | opened⟩ | old
    · rw [written]
      exact request.balance_nonneg before funds
    · exact opened ▸ before
    · exact kept.nonneg wallet old
  accounted other := by
    rw [balanceOf_posted other locks, kept.accounted other]
    simp only [netOf, posted_transactions, KeyedTable.total_insert]
    rw [request.balanced]
    rfl

end Ledger

namespace WalletCall

/-- A step keeps the ledger's invariant, whichever call takes it. -/
theorem kept_next {input : WalletInput} {ledger after : Ledger}
    {call moved : WalletCall} (kept : ledger.Kept)
    (moves : next input ledger call = some (after, moved)) : after.Kept := by
  rcases next_cases moves with ⟨_, rfl⟩ | ⟨_, writes⟩
  · exact kept
  · cases writes with
    | nothing => exact kept
    | row => exact kept.insert _
    | posting locks funds => exact kept.posted locks funds
    | opening funds => exact kept.posted (Ledger.locks_none _) funds

end WalletCall

theorem kept_of_reachable {config : Config Ledger WalletCall}
    (reached : Reachable walletSystem.step walletStart config) :
    config.store.Kept := by
  refine store_invariant walletSystem Ledger.Kept Ledger.kept_empty ?_ reached
  intro config index input call store moved _ _ moves kept
  exact WalletCall.kept_next kept moves

/-- In every reachable state of any interleaving the balances are
non-negative and add up, for every user, to the user's transactions, and a
step by which a call does not return leaves the ledger unchanged. -/
theorem wallet_ledger_kept {config : Config Ledger WalletCall}
    (reached : Reachable walletSystem.step walletStart config) :
    (∀ wallet ∈ config.store.wallets.rows, 0 ≤ wallet.balance) ∧
    (∀ userId, config.store.balanceOf userId =
      config.store.totalFor userId .deposit +
          config.store.totalFor userId .bookingPayout +
          config.store.totalFor userId .refund -
        config.store.totalFor userId .withdrawal -
          config.store.totalFor userId .bookingPayment) ∧
    (∀ index input after, walletSystem.step config (.act index input) =
        some after → after.calls[index]? ≠ some .returned →
      after.store = config.store) := by
  have kept := kept_of_reachable reached
  refine ⟨kept.nonneg, fun userId => ?_, ?_⟩
  · rw [kept.accounted, Ledger.netOf_eq]
  · intro index input after taken pending
    obtain ⟨call, store, moved, found, moves, rfl⟩ := System.step_act taken
    have inside : index < config.calls.length :=
      (List.getElem?_eq_some_iff.mp found).1
    rcases WalletCall.next_cases moves with ⟨_, same⟩ | ⟨rfl, _⟩
    · exact same
    · exact absurd (by simp [inside]) pending

/-- A deposit of 300 by user 2, and a withdrawal of 500 that is rejected. -/
def walletSample : Config Ledger WalletCall :=
  (execute walletSystem.step walletStart
    [.spawn (.getLocked (.deposit 2 300)), .spawn (.getLocked (.withdraw 2 500)),
      .act 0 ⟨0, false⟩, .act 0 ⟨0, false⟩, .act 1 ⟨1, false⟩]).getD walletStart

theorem wallet_ledger_kept_sample :
    (∀ wallet ∈ walletSample.store.wallets.rows, 0 ≤ wallet.balance) ∧
    (∀ userId, walletSample.store.balanceOf userId =
      walletSample.store.totalFor userId .deposit +
          walletSample.store.totalFor userId .bookingPayout +
          walletSample.store.totalFor userId .refund -
        walletSample.store.totalFor userId .withdrawal -
          walletSample.store.totalFor userId .bookingPayment) ∧
    (∀ index input after, walletSystem.step walletSample (.act index input) =
        some after → after.calls[index]? ≠ some .returned →
      after.store = walletSample.store) :=
  wallet_ledger_kept (reachable_of_execute _ _
    [.spawn (.getLocked (.deposit 2 300)), .spawn (.getLocked (.withdraw 2 500)),
      .act 0 ⟨0, false⟩, .act 0 ⟨0, false⟩, .act 1 ⟨1, false⟩] rfl)

end SpareSpace
