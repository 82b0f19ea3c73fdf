import SpareSpace.FallibleState
import SpareSpace.InterleavedCalls

/-!
# Calls that compute a service without interference

A program of atomic steps and a sequential service describe the same call when
the program, run with no other call in between, ends as the service does.
The file builds this relation from the last program point back to the first.
-/

namespace InterleavedCalls

open Fallible

variable {Store Call Input ε α β : Type}

namespace System

/-- Run a call alone for a number of steps, or until it ends. -/
def runAlone (system : System Store Call Input) (input : Input) :
    Nat → Store → Call → Store × Call
  | 0, store, call => (store, call)
  | steps + 1, store, call =>
      match system.next input store call with
      | none => (store, call)
      | some (after, moved) => system.runAlone input steps after moved

/-- Where one service call takes a call: on with its value, or to the failure
with its exception. -/
def outcome (rest : α → Call) (failed : ε → Call)
    (result : Except ε α × Store) : Store × Call :=
  match result with
  | (.ok value, store) => (store, rest value)
  | (.error error, store) => (store, failed error)

/-- How a call has ended when the service has returned or thrown. -/
def EndsAs (finished : Call → Prop) (failed : ε → Call) (call : Call) :
    Except ε α → Prop
  | .ok _ => finished call
  | .error error => call = failed error

variable (system : System Store Call Input) (input : Input)
  (finished : Call → Prop) (failed : ε → Call)

/-- The next step of a call makes one service call and goes on with its
value, or fails with its exception. -/
def Performs (call : Call) (first : Fallible ε Store α) (rest : α → Call) :
    Prop :=
  ∀ store, system.next input store call =
    some (outcome rest failed (run first store))

/-- Run alone from a store, a call leaves the store the service leaves and
ends as the service does. -/
def ComputesFrom (store : Store) (call : Call)
    (service : Fallible ε Store α) : Prop :=
  ∃ steps ended,
    system.runAlone input steps store call = ((run service store).2, ended) ∧
      EndsAs finished failed ended (run service store).1

/-- Run alone from any store, a call ends as the service does. -/
def Computes (call : Call) (service : Fallible ε Store α) : Prop :=
  ∀ store, system.ComputesFrom input finished failed store call service

variable {system input finished failed} {call : Call}

theorem computes_pure (value : α) (ended : finished call) :
    system.Computes input finished failed call (pure value) :=
  fun store => ⟨0, call, by rw [runAlone, run_pure], ended⟩

/-- A call that performs the first part of a sequence and computes the rest
computes the sequence. -/
theorem Performs.computes_bind {first : Fallible ε Store α}
    {service : α → Fallible ε Store β} {rest : α → Call}
    (performs : system.Performs input failed call first rest)
    (later : ∀ value store after, run first store = (.ok value, after) →
      system.Computes input finished failed (rest value) (service value)) :
    system.Computes input finished failed call (first >>= service) := by
  intro store
  have moves := performs store
  unfold ComputesFrom
  rw [run_bind]
  rcases ran : run first store with ⟨error | value, after⟩
  · rw [ran] at moves
    exact ⟨1, failed error, by simp [runAlone, moves, outcome], rfl⟩
  · rw [ran] at moves
    obtain ⟨steps, ended, arrives, ends⟩ := later value store after ran after
    exact ⟨steps + 1, ended, by simp [runAlone, moves, outcome, arrives], ends⟩

/-- A call whose last step performs the service computes it. -/
theorem Performs.computes {service : Fallible ε Store α} {rest : α → Call}
    (performs : system.Performs input failed call service rest)
    (ended : ∀ value, finished (rest value)) :
    system.Computes input finished failed call service := by
  intro store
  have moves := performs store
  unfold ComputesFrom
  rcases ran : run service store with ⟨error | value, after⟩
  · rw [ran] at moves
    exact ⟨1, failed error, by simp [runAlone, moves, outcome], rfl⟩
  · rw [ran] at moves
    exact ⟨1, rest value, by simp [runAlone, moves, outcome], ended value⟩

end System

end InterleavedCalls
