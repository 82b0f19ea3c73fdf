import SpareSpace.NamedRows
import SpareSpace.WalletCalls

/-!
# One wallet per user

Both `findWalletByUser` and a wallet transaction open a wallet for a user
after a read that found none.  The transaction inserts twice, and nothing
stops two requests for the wallet from inserting one after the other.  A user
has at most one row in every run in which transactions do not open wallets
and a wallet is saved only while no other request is about to save one for
the user.
-/

namespace SpareSpace

open InterleavedCalls TransitionRuns

namespace Ledger

variable {ledger : Ledger}

/-- At most one wallet row for each user. -/
def OneEach (ledger : Ledger) : Prop :=
  ∀ first ∈ ledger.wallets.rows, ∀ second ∈ ledger.wallets.rows,
    first.userId = second.userId → first = second

theorem findWallet_eq_none {userId : Nat} :
    ledger.findWallet userId = none ↔
      ∀ wallet ∈ ledger.wallets.rows, wallet.userId ≠ userId := by
  simp [findWallet]

/-- The owner is the name that a wallet row carries. -/
theorem oneEach_iff : ledger.OneEach ↔
    NamedRows.OneEach (fun wallet => some wallet.userId) ledger.wallets.rows := by
  constructor
  · intro oneEach first firstMem second secondMem shared firstOwner secondOwner
    exact oneEach first firstMem second secondMem
      (Option.some.inj (firstOwner.trans secondOwner.symm))
  · intro oneEach first firstMem second secondMem same
    exact oneEach first firstMem second secondMem _ rfl (congrArg some same.symm)

/-- The rows with one more row for a user who had none. -/
theorem OneEach.add (oneEach : ledger.OneEach) {after : Ledger} (wallet : Wallet)
    (missing : ledger.findWallet wallet.userId = none)
    (rows : ∀ row ∈ after.wallets.rows, row = wallet ∨ row ∈ ledger.wallets.rows) :
    after.OneEach := by
  rw [findWallet_eq_none] at missing
  rw [oneEach_iff] at oneEach ⊢
  refine NamedRows.OneEach.add oneEach (fun row present => (rows row present).symm) ?_
  intro row present userId owner other
  exact missing row present (Option.some.inj (other.trans owner.symm))

/-- The rows with one row changed to another of the same key and user. -/
theorem OneEach.change (oneEach : ledger.OneEach) {after : Ledger}
    {wallet : Wallet} (changed : Wallet)
    (present : wallet ∈ ledger.wallets.rows)
    (owner : changed.userId = wallet.userId)
    (rows : ∀ row ∈ after.wallets.rows, row = changed ∨
      (row ∈ ledger.wallets.rows ∧ row.id ≠ wallet.id)) : after.OneEach := by
  rw [oneEach_iff] at oneEach ⊢
  refine NamedRows.OneEach.write oneEach rows ?_
  intro row rowMem different userId named other
  have owned : some wallet.userId = some userId :=
    (congrArg some owner.symm).trans named
  have same := oneEach row rowMem wallet present userId other owned
  exact different (congrArg Wallet.id same)

end Ledger

namespace WalletCall

/-- The call is a request for the wallet that found none, and saves one next. -/
def opens (userId : Nat) : WalletCall → Bool
  | saveNew owner => owner == userId
  | _ => false

/-- The call is a transaction that found no wallet and is not short of funds: it
writes two rows next, unless the database refuses them. -/
def opensTwice : WalletCall → Bool
  | createLocked request => !decide (Ledger.Short none request.operation)
  | _ => false

/-- No transaction opens a wallet, and a request for the wallet saves one only while
no other is about to save one for the same user. -/
def OpensAlone (config : Config Ledger WalletCall) :
    Move WalletCall WalletInput → Prop
  | .spawn _ => True
  | .act index input => input.aborts = false →
      ∀ call, config.calls[index]? = some call → call.opensTwice = false ∧
        ∀ userId, call.opens userId = true →
          ∀ j other, j ≠ index → config.calls[j]? = some other →
            other.opens userId = false

variable {input : WalletInput} {ledger after : Ledger} {call moved : WalletCall}

theorem commit_opens (ledger : Ledger) (aborts : Bool) (found : Option Wallet)
    (request : WalletRequest) (userId : Nat) :
    (commit ledger aborts found request).2.opens userId = false := by
  rcases commit_cases ledger aborts found request with
    ⟨error, failed⟩ | ⟨_, posted⟩
  · rw [failed]
    rfl
  · rw [posted]
    rfl

/-- A call comes to open a wallet by a read that found none. -/
theorem findWallet_of_opens {userId : Nat}
    (moves : next input ledger call = some (after, moved))
    (opens : moved.opens userId = true) : ledger.findWallet userId = none := by
  cases call with
  | findOneBy owner =>
      simp only [next] at moves
      split at moves
      · obtain ⟨_, rfl⟩ := Prod.mk.inj (Option.some.inj moves)
        contradiction
      · next absent =>
          obtain ⟨_, rfl⟩ := Prod.mk.inj (Option.some.inj moves)
          simp only [WalletCall.opens, beq_iff_eq] at opens
          exact opens ▸ absent
  | saveNew owner =>
      simp only [next] at moves
      split at moves <;>
        (obtain ⟨_, rfl⟩ := Prod.mk.inj (Option.some.inj moves); contradiction)
  | getLocked request =>
      simp only [next] at moves
      split at moves
      · obtain ⟨_, rfl⟩ := Prod.mk.inj (Option.some.inj moves)
        contradiction
      · split at moves
        · split at moves
          · next wallet _ _ =>
              have closed := commit_opens ledger input.aborts (some wallet)
                request userId
              rw [Option.some.inj moves, opens] at closed
              contradiction
          · contradiction
        · contradiction
  | createLocked request =>
      have closed := commit_opens ledger input.aborts none request userId
      rw [Option.some.inj moves, opens] at closed
      contradiction
  | returned => contradiction
  | threw error => contradiction

/-- A write keeps one row for each user if a request that opens a wallet finds
its user without one, and no transaction opens one. -/
theorem Writes.oneEach (writes : Writes ledger call after)
    (oneEach : ledger.OneEach) (once : call.opensTwice = false)
    (missing : ∀ userId, call.opens userId = true →
      ledger.findWallet userId = none) : after.OneEach := by
  cases writes with
  | nothing => exact oneEach
  | @row userId =>
      exact oneEach.add (Ledger.newWallet userId ledger.wallets.nextId)
        (missing userId (by simp [WalletCall.opens]))
        fun row present => ((ledger.wallets.mem_insert_iff _
          (Ledger.newWallet_id userId)).mp present).symm
  | @posting request wallet locks _ =>
      exact oneEach.change
        { wallet with balance := wallet.balance + request.operation.delta }
        (locks wallet rfl).1 rfl fun row present =>
          Ledger.mem_posted_some.mp present
  | opening funds => simp [opensTwice, funds] at once

/-- A call that does not open a wallet for a user leaves the user without
one. -/
theorem Writes.findWallet (writes : Writes ledger call after) {userId : Nat}
    (closed : call.opens userId = false) (once : call.opensTwice = false)
    (missing : ledger.findWallet userId = none) :
    after.findWallet userId = none := by
  rw [Ledger.findWallet_eq_none] at missing ⊢
  cases writes with
  | nothing => exact missing
  | @row owner =>
      intro row present
      rcases (ledger.wallets.mem_insert_iff _
        (Ledger.newWallet_id owner)).mp present with old | rfl
      · exact missing row old
      · simpa [WalletCall.opens, Ledger.newWallet, Ledger.walletRow] using closed
  | @posting request wallet locks _ =>
      intro row present
      rcases Ledger.mem_posted_some.mp present with rfl | ⟨old, _⟩
      · exact missing wallet (locks wallet rfl).1
      · exact missing row old
  | opening funds => simp [opensTwice, funds] at once

end WalletCall

/-- In every run in which only requests for the wallet open one, one at a time for
each user, every state has at most one wallet row for each user. -/
theorem one_wallet_per_user {config : Config Ledger WalletCall}
    (run : Run walletSystem.step WalletCall.OpensAlone walletStart config) :
    ∀ first ∈ config.store.wallets.rows,
      ∀ second ∈ config.store.wallets.rows,
        first.userId = second.userId → first = second := by
  have oneEachStart : walletStart.store.OneEach := by
    intro first present
    exact absurd present List.not_mem_nil
  refine (InterleavedCalls.invariant walletSystem Ledger.OneEach
    (fun ledger call => ∀ userId, call.opens userId = true →
      ledger.findWallet userId = none) oneEachStart nofun ?_ ?_ run).1
  · rintro ledger call _ starts userId opens
    cases call <;> contradiction
  · intro config index input call after moved alone found moves oneEach own
    have mine := own call (mem_of_index found)
    rcases WalletCall.next_cases moves with ⟨_, rfl⟩ | ⟨rfl, writes⟩
    · exact ⟨oneEach, fun userId => WalletCall.findWallet_of_opens moves,
        fun j other _ stood => own other (mem_of_index stood)⟩
    · cases refused : input.aborts with
      | true =>
          obtain rfl := WalletCall.next_of_aborts moves refused
          exact ⟨oneEach, nofun, fun j other _ stood => own other (mem_of_index stood)⟩
      | false =>
          obtain ⟨once, others⟩ := alone refused call found
          refine ⟨writes.oneEach oneEach once mine, nofun, ?_⟩
          intro j other different stood userId opens
          refine writes.findWallet ?_ once (own other (mem_of_index stood) userId opens)
          by_contra opensToo
          rw [Bool.not_eq_false] at opensToo
          have closed := others userId opensToo j other different stood
          rw [opens] at closed
          contradiction

/-- Two users ask for their wallets at once and both deposit. -/
private def walletMoves : List (Move WalletCall WalletInput) :=
  [.spawn (.findOneBy 2), .spawn (.findOneBy 3), .act 0 ⟨0, false⟩,
    .act 1 ⟨0, false⟩, .act 0 ⟨0, false⟩, .act 1 ⟨0, false⟩,
    .spawn (.getLocked (.deposit 2 300)), .spawn (.getLocked (.deposit 3 500)),
    .act 2 ⟨1, false⟩, .act 3 ⟨2, false⟩]

/-- A check under which a call opens wallets alone. -/
private def opensAlone (config : Config Ledger WalletCall) :
    Move WalletCall WalletInput → Bool
  | .spawn _ => true
  | .act index _ =>
      (config.calls[index]?).all fun call => !call.opensTwice &&
        match call with
        | .saveNew owner => (config.calls.eraseIdx index).all (!·.opens owner)
        | _ => true

private theorem opensAlone_of_check (config : Config Ledger WalletCall)
    (move : Move WalletCall WalletInput) (checked : opensAlone config move = true) :
    WalletCall.OpensAlone config move := by
  cases move with
  | spawn call => trivial
  | act index input =>
      intro _ call found
      simp only [opensAlone, found, Option.all_some, Bool.and_eq_true,
        Bool.not_eq_true'] at checked
      refine ⟨checked.1, fun userId opens j other different stood => ?_⟩
      cases call with
      | saveNew owner =>
          obtain rfl : owner = userId := by simpa [WalletCall.opens] using opens
          have elsewhere : other ∈ config.calls.eraseIdx index :=
            List.mem_eraseIdx_iff_getElem?.mpr ⟨j, different, stood⟩
          simpa using List.all_eq_true.mp checked.2 other elsewhere
      | _ => contradiction

/-- Two users who asked for their wallets at once have deposited at once. -/
theorem one_wallet_per_user_sample :
    ∃ config, Run walletSystem.step WalletCall.OpensAlone walletStart config ∧
      config.store.wallets.rows = [⟨1, 2, 300⟩, ⟨2, 3, 500⟩] ∧
        ∀ first ∈ config.store.wallets.rows,
          ∀ second ∈ config.store.wallets.rows,
            first.userId = second.userId → first = second := by
  obtain ⟨config, executed, rows⟩ : ∃ config,
      executeChecked walletSystem.step opensAlone walletStart walletMoves = some config ∧
        config.store.wallets.rows = [⟨1, 2, 300⟩, ⟨2, 3, 500⟩] :=
    ⟨_, rfl, rfl⟩
  have run : Run walletSystem.step WalletCall.OpensAlone walletStart config :=
    Run.start.executeChecked opensAlone opensAlone_of_check walletMoves executed
  exact ⟨config, run, rows, one_wallet_per_user run⟩

/-- The first deposit of a user inserts an empty row and one with the amount. -/
theorem two_wallets_of_one_user :
    ¬ ∀ config, Reachable walletSystem.step walletStart config →
      ∀ first ∈ config.store.wallets.rows,
        ∀ second ∈ config.store.wallets.rows,
          first.userId = second.userId → first = second := by
  intro unique
  have reached := reachable_of_execute walletSystem.step walletStart
    [.spawn (.getLocked (.deposit 2 300)), .act 0 ⟨0, false⟩, .act 0 ⟨0, false⟩] rfl
  have same := unique _ reached ⟨1, 2, 0⟩ (by decide) ⟨2, 2, 300⟩ (by decide) rfl
  exact absurd same (by decide)

/-- Two requests for the wallet that both find none both save one, too. -/
example : (execute walletSystem.step walletStart
    [.spawn (.findOneBy 2), .spawn (.findOneBy 2), .act 0 ⟨0, false⟩,
      .act 1 ⟨0, false⟩, .act 0 ⟨0, false⟩, .act 1 ⟨0, false⟩]).map
        (fun config => config.store.wallets.rows) = some [⟨1, 2, 0⟩, ⟨2, 2, 0⟩] :=
  rfl

end SpareSpace
