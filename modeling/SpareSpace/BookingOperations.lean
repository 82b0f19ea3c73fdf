import SpareSpace.BookingOutcomes
import SpareSpace.TransitionRuns

/-!
# Operations one after another

The requests, the job runs and the wallet and listing operations as the labels
of two transition systems without interference.  In the first every operation
returns without an exception.  In the second a request may throw, and a job
runs only when it is in its queue and its time has come.
-/

namespace SpareSpace

open Fallible

inductive Operation
  | findWallet (userId : Nat)
  | deposit (userId : Nat) (amount : Int)
  | withdraw (userId : Nat) (amount : Int)
  | request (userId : Nat) (made : BookingRequest)
  | startJob (bookingId : Nat)
  | completionJob (bookingId : Nat)
  | editListing (listing : Listing)
  deriving DecidableEq

namespace Operation

/-- The service call of an operation; jobs run without failing calls. -/
def call (zone : Zone) (environment : Environment) : Operation → Service Unit
  | findWallet userId => do
      let _ ← WalletsService.findWalletByUser environment userId
      return ()
  | deposit userId amount =>
      WalletsService.transact environment (WalletsService.deposit userId amount)
  | withdraw userId amount =>
      WalletsService.transact environment (WalletsService.withdraw userId amount)
  | request userId made => do
      let _ ← made.handle zone environment userId
      return ()
  | startJob bookingId =>
      BookingStartProcessor.process environment .none bookingId
  | completionJob bookingId =>
      BookingCompletionProcessor.process environment .none bookingId
  | editListing listing =>
      Fallible.updates fun backend => .ok ((), backend.saveListing listing)

/-- A call whose result is not looked at leaves the state it leaves. -/
theorem run_dropped {α : Type} (service : Service α) (backend : Backend) :
    (run (do let _ ← service; return ()) backend).2 = (run service backend).2 := by
  rw [run_bind]
  rcases run service backend with ⟨_ | _, _⟩ <;> rfl

/-- An operation that returns without an exception. -/
def returns (zone : Zone) (backend : Backend)
    (label : Environment × Operation) : Option Backend :=
  match run (label.2.call zone label.1) backend with
  | (.ok _, after) => some after
  | (.error _, _) => none

theorem returns_some_iff {zone : Zone} {environment : Environment}
    {operation : Operation} {backend after : Backend} :
    returns zone backend (environment, operation) = some after ↔
      run (operation.call zone environment) backend = (.ok (), after) := by
  unfold returns
  rcases run (operation.call zone environment) backend with ⟨_ | _, _⟩ <;>
    simp

/-- The queue that has a waiting job for a booking whose time has come. -/
def ready (queue : JobQueue) (now : Int) (bookingId : Nat) : Bool :=
  queue.any fun job => job.bookingId == bookingId && decide (job.runAt ≤ now)

/-- The state after a job of the start queue has run: it leaves the queue
when it returns and waits for its next attempt when it throws. -/
def runStartJob (environment : Environment) (bookingId : Nat)
    (backend : Backend) : Backend :=
  match run (BookingStartProcessor.process environment .none bookingId)
      backend with
  | (.ok _, after) =>
      after.withStartQueue (after.startQueue.remove bookingId)
  | (.error _, after) => after

def runCompletionJob (environment : Environment) (bookingId : Nat)
    (backend : Backend) : Backend :=
  match run (BookingCompletionProcessor.process environment .none bookingId)
      backend with
  | (.ok _, after) =>
      after.withCompletionQueue (after.completionQueue.remove bookingId)
  | (.error _, after) => after

/-- An operation that returns or throws, with jobs taken from their queues. -/
def happens (zone : Zone) (backend : Backend)
    (label : Environment × Operation) : Option Backend :=
  match label.2 with
  | startJob bookingId =>
      if ready backend.startQueue label.1.now bookingId then
        some (runStartJob label.1 bookingId backend)
      else
        none
  | completionJob bookingId =>
      if ready backend.completionQueue label.1.now bookingId then
        some (runCompletionJob label.1 bookingId backend)
      else
        none
  | operation => some (run (operation.call zone label.1) backend).2

section Jobs

variable {zone : Zone} {environment : Environment} {backend after : Backend}
  {bookingId : Nat}

theorem happens_startJob
    (taken : happens zone backend (environment, .startJob bookingId) = some after) :
    ready backend.startQueue environment.now bookingId = true ∧
      after = runStartJob environment bookingId backend := by
  simp only [happens] at taken
  split at taken
  · next isReady => exact ⟨isReady, (Option.some.inj taken).symm⟩
  · contradiction

theorem happens_completionJob
    (taken : happens zone backend (environment, .completionJob bookingId) = some after) :
    ready backend.completionQueue environment.now bookingId = true ∧
      after = runCompletionJob environment bookingId backend := by
  simp only [happens] at taken
  split at taken
  · next isReady => exact ⟨isReady, (Option.some.inj taken).symm⟩
  · contradiction

end Jobs

end Operation

end SpareSpace
