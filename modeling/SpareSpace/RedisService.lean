import SpareSpace.FallibleState
import Mathlib.Logic.Basic

/-!
# The cache service

A cached value carries the time after which the store no longer returns it.
A key is given by the place of the store its value is kept in; reading through
the cache looks the key up, and on a miss computes the value and keeps it,
unless there is none.  Times are time values in milliseconds.
-/

namespace SpareSpace

open Fallible

structure CacheEntry (α : Type) where
  value : α
  expiresAt : Int
  deriving DecidableEq, Repr

/-- What the store keeps under one key. -/
abbrev Cached (α : Type) := Option (CacheEntry α)

/-- The place of a store where the value of one key is kept. -/
structure Slot (σ α : Type) where
  read : σ → Cached α
  write : Cached α → σ → σ

namespace RedisService

variable {ε σ α : Type}

/-- `keyv.get`: an entry whose time is over is not returned. -/
def get (now : Int) (cached : Cached α) : Option α :=
  match cached with
  | some entry => if now ≤ entry.expiresAt then some entry.value else none
  | none => none

/-- The entry written by `keyv.set`. -/
def entry (now ttlSec : Int) (value : α) : Cached α :=
  some ⟨value, now + ttlSec * 1000⟩

def getOrSet (slot : Slot σ α) (now ttlSec : Int)
    (callback : Fallible ε σ (Option α)) : Fallible ε σ (Option α) := do
  match ← reads fun store => .ok (get now (slot.read store)) with
  | some value => return some value
  | none =>
      match ← callback with
      | some value =>
          updates fun store =>
            .ok ((), slot.write (entry now ttlSec value) store)
          return some value
      | none => return none

/-- `getOrSet` with a callback that always has a value or throws. -/
def getOrSetValue (slot : Slot σ α) (now ttlSec : Int)
    (callback : Fallible ε σ α) : Fallible ε σ α := do
  match ← reads fun store => .ok (get now (slot.read store)) with
  | some value => return value
  | none =>
      let value ← callback
      updates fun store => .ok ((), slot.write (entry now ttlSec value) store)
      return value

theorem eq_of_get {now : Int} {cached : Cached α} {value : α}
    (hit : get now cached = some value) :
    ∃ expiresAt, cached = some ⟨value, expiresAt⟩ ∧ now ≤ expiresAt := by
  cases cached with
  | none => contradiction
  | some entry =>
      simp only [get] at hit
      split at hit
      · next live => exact ⟨entry.expiresAt, by rw [← Option.some.inj hit], live⟩
      · contradiction

/-- An entry that is returned at some time was returned before. -/
theorem get_of_get {earlier now : Int} {cached : Cached α} {value : α}
    (passed : earlier ≤ now) (hit : get now cached = some value) :
    get earlier cached = some value := by
  obtain ⟨expiresAt, rfl, live⟩ := eq_of_get hit
  simp only [get, if_pos (Int.le_trans passed live)]

variable {slot : Slot σ α} {now ttlSec : Int} {store : σ}

/-- Reading through the cache, for a computation that only reads: the value
kept, or the value computed, which is then kept. -/
theorem run_getOrSet {compute : σ → Option α} :
    run (getOrSet slot now ttlSec
        (reads fun store => .ok (compute store) : Fallible ε σ (Option α)))
        store =
      match get now (slot.read store), compute store with
      | some value, _ => (.ok (some value), store)
      | none, some value =>
          (.ok (some value), slot.write (entry now ttlSec value) store)
      | none, none => (.ok none, store) := by
  unfold getOrSet
  rw [run_bind, run_reads]
  cases get now (slot.read store) with
  | some value => rfl
  | none =>
      simp only
      rw [run_bind, run_reads]
      cases compute store <;> rfl

/-- Reading a value that can always be computed: a hit leaves the store, and a
miss keeps the computed value. -/
theorem getOrSet_cases (ε : Type) (slot : Slot σ α) (now ttlSec : Int)
    (store : σ) (compute : σ → Option α) {fresh : α}
    (computes : compute store = some fresh) :
    ∃ value after,
      run (getOrSet slot now ttlSec
          (reads fun store => .ok (compute store) : Fallible ε σ (Option α)))
          store = (.ok (some value), after) ∧
        ((get now (slot.read store) = some value ∧ after = store) ∨
          (value = fresh ∧
            after = slot.write (entry now ttlSec fresh) store)) := by
  rw [run_getOrSet, computes]
  cases hit : get now (slot.read store) with
  | some value => exact ⟨value, store, rfl, Or.inl ⟨rfl, rfl⟩⟩
  | none => exact ⟨fresh, _, rfl, Or.inr ⟨rfl, rfl⟩⟩

/-- The value that a read of a value that can always be computed returns. -/
theorem run_getOrSet_getD (ε : Type) (slot : Slot σ α) (now ttlSec : Int)
    (store : σ) (compute : σ → Option α) {fresh : α}
    (computes : compute store = some fresh) :
    ∃ after,
      run (getOrSet slot now ttlSec
          (reads fun store => .ok (compute store) : Fallible ε σ (Option α)))
          store =
        (.ok (some ((get now (slot.read store)).getD fresh)), after) ∧
      (after = store ∨ after = slot.write (entry now ttlSec fresh) store) := by
  rw [run_getOrSet, computes]
  cases get now (slot.read store) with
  | some value => exact ⟨store, rfl, Or.inl rfl⟩
  | none => exact ⟨_, rfl, Or.inr rfl⟩

section Value

variable {callback : Fallible ε σ α} {value : α} {next : σ}

theorem run_getOrSetValue_hit (hit : get now (slot.read store) = some value) :
    run (getOrSetValue slot now ttlSec callback) store = (.ok value, store) := by
  unfold getOrSetValue
  rw [run_bind, run_reads, hit]
  rfl

theorem run_getOrSetValue_miss (miss : get now (slot.read store) = none)
    (ran : run callback store = (.ok value, next)) :
    run (getOrSetValue slot now ttlSec callback) store =
      (.ok value, slot.write (entry now ttlSec value) next) := by
  unfold getOrSetValue
  rw [run_bind, run_reads, miss]
  simp only
  rw [run_bind_ok ran]
  rfl

theorem run_getOrSetValue_throw {error : ε}
    (miss : get now (slot.read store) = none)
    (ran : run callback store = (.error error, next)) :
    run (getOrSetValue slot now ttlSec callback) store = (.error error, next) := by
  unfold getOrSetValue
  rw [run_bind, run_reads, miss]
  simp only
  rw [run_bind, ran]

/-- Reading through the cache where a value kept is the value computed: the answer is what
the computation says, and at most this value is kept. -/
theorem run_getOrSetValue_reads (slot : Slot σ α) (now ttlSec : Int)
    (compute : σ → Except ε α) {store : σ}
    (right : ∀ value, get now (slot.read store) = some value → compute store = .ok value) :
    ∃ after, run (getOrSetValue slot now ttlSec (reads compute)) store =
        (compute store, after) ∧
      (after = store ∨ ∃ value, compute store = .ok value ∧
        after = slot.write (entry now ttlSec value) store) := by
  cases hit : get now (slot.read store) with
  | some value =>
      rw [right value hit, run_getOrSetValue_hit hit]
      exact ⟨store, rfl, Or.inl rfl⟩
  | none =>
      cases computed : compute store with
      | error error =>
          refine ⟨store, run_getOrSetValue_throw hit ?_, Or.inl rfl⟩
          rw [run_reads, computed]
      | ok value =>
          refine ⟨_, run_getOrSetValue_miss hit ?_, Or.inr ⟨value, rfl, rfl⟩⟩
          rw [run_reads, computed]

end Value

end RedisService

end SpareSpace
