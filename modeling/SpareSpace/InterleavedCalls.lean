import SpareSpace.TransitionRuns
import Mathlib.Algebra.Group.Basic
import Mathlib.Algebra.BigOperators.Group.List.Basic
import Mathlib.Data.List.Perm.Basic
import Mathlib.Tactic.Abel

/-!
# Interleaved calls over one store

Any number of calls share one store.  Each call is a small program given by
its program points; one step takes one call from one point to the next and
reads or writes the store atomically.  Calls arrive at any time, and between
two steps of one call any steps of the others may happen.

The file proves the invariant rule for such systems: a property of the store
and an assertion attached to every call in flight survive a run when each
step keeps the store's property, establishes the moving call's next assertion
and does not interfere with the assertions of the others.
-/

namespace InterleavedCalls

open TransitionRuns

variable {Store Call Input : Type*}

/-- A store together with the calls made so far, finished ones included. -/
structure Config (Store Call : Type*) where
  store : Store
  calls : List Call

/-- One event of a run: a call arrives, or the call at an index takes its next
step, for which it reads some input from outside the store. -/
inductive Move (Call Input : Type*)
  | spawn (call : Call)
  | act (index : Nat) (input : Input)

/-- The program points at which calls may arrive, and their atomic steps. -/
structure System (Store Call Input : Type*) where
  starts : Call → Bool
  next : Input → Store → Call → Option (Store × Call)

/-- One event of the interleaved system. -/
def System.step (system : System Store Call Input)
    (config : Config Store Call) :
    Move Call Input → Option (Config Store Call)
  | .spawn call =>
      if system.starts call then
        some ⟨config.store, config.calls ++ [call]⟩
      else
        none
  | .act index input =>
      match config.calls[index]? with
      | none => none
      | some call =>
          match system.next input config.store call with
          | none => none
          | some (store, moved) =>
              some ⟨store, config.calls.set index moved⟩

namespace System

variable {system : System Store Call Input} {config after : Config Store Call}

theorem step_spawn {call : Call}
    (taken : system.step config (.spawn call) = some after) :
    system.starts call = true ∧
      after = ⟨config.store, config.calls ++ [call]⟩ := by
  simp only [step] at taken
  split at taken
  · next arrives => exact ⟨arrives, (Option.some.inj taken).symm⟩
  · contradiction

/-- What a step of the call at an index does: it moves that call and leaves
the others where they are. -/
theorem step_act {index : Nat} {input : Input}
    (taken : system.step config (.act index input) = some after) :
    ∃ call store moved,
      config.calls[index]? = some call ∧
        system.next input config.store call = some (store, moved) ∧
          after = ⟨store, config.calls.set index moved⟩ := by
  simp only [step] at taken
  cases found : config.calls[index]? with
  | none => simp [found] at taken
  | some call =>
      simp only [found] at taken
      cases moves : system.next input config.store call with
      | none => simp [moves] at taken
      | some result =>
          obtain ⟨store, moved⟩ := result
          simp only [moves, Option.some.injEq] at taken
          exact ⟨call, store, moved, rfl, moves, taken.symm⟩

end System

theorem mem_of_index {calls : List Call} {index : Nat} {call : Call}
    (found : calls[index]? = some call) : call ∈ calls :=
  List.mem_of_getElem? found

/-- The calls beside the one at an index. -/
def Config.others (config : Config Store Call) (index : Nat) : List Call :=
  config.calls.eraseIdx index

theorem Config.mem_others {config : Config Store Call} {index j : Nat} {other : Call}
    (different : j ≠ index) (stood : config.calls[j]? = some other) :
    other ∈ config.others index :=
  List.mem_eraseIdx_iff_getElem?.mpr ⟨j, different, stood⟩

/-- A call met after one call has moved is the moved call or another one that
stood there before. -/
theorem mem_set_cases {calls : List Call} {index : Nat}
    {moved other : Call} (present : other ∈ calls.set index moved) :
    other = moved ∨ ∃ j, j ≠ index ∧ calls[j]? = some other := by
  obtain ⟨j, found⟩ := List.mem_iff_getElem?.mp present
  rw [List.getElem?_set] at found
  by_cases same : index = j
  · subst same
    by_cases inside : index < calls.length
    · left
      simpa [inside] using found.symm
    · simp [inside] at found
  · right
    exact ⟨j, Ne.symm same, by simpa [same] using found⟩

/-- What holds of all calls and of the moved one holds afterwards. -/
theorem forall_set {calls : List Call} {index : Nat} {moved : Call}
    {holds : Call → Prop} (all : ∀ call ∈ calls, holds call)
    (mine : holds moved) : ∀ call ∈ calls.set index moved, holds call := by
  intro other present
  rcases mem_set_cases present with rfl | ⟨j, _, stood⟩
  · exact mine
  · exact all other (mem_of_index stood)

section Others

variable {calls : List Call} {index : Nat} {call moved : Call}
  {property : Call → Prop}

/-- Some call other than the one at an index has a property. -/
def Another (calls : List Call) (index : Nat) (property : Call → Prop) : Prop :=
  ∃ j other, j ≠ index ∧ calls[j]? = some other ∧ property other

theorem another_of_mem_others {config : Config Store Call} {other : Call}
    (present : other ∈ config.others index) (holds : property other) :
    Another config.calls index property := by
  obtain ⟨j, different, stood⟩ := List.mem_eraseIdx_iff_getElem?.mp present
  exact ⟨j, other, different, stood, holds⟩

theorem Another.imp {other : Call → Prop}
    (another : Another calls index property)
    (implies : ∀ call, property call → other call) :
    Another calls index other := by
  obtain ⟨j, call, different, stood, holds⟩ := another
  exact ⟨j, call, different, stood, implies call holds⟩

/-- If some call has a property, the one at an index has it or another one. -/
theorem exists_iff_self_or_another (found : calls[index]? = some call) :
    (∃ other ∈ calls, property other) ↔
      property call ∨ Another calls index property := by
  constructor
  · rintro ⟨other, present, holds⟩
    obtain ⟨j, stood⟩ := List.mem_iff_getElem?.mp present
    by_cases same : j = index
    · subst same
      rw [found] at stood
      obtain rfl := Option.some.inj stood
      exact Or.inl holds
    · exact Or.inr ⟨j, other, same, stood, holds⟩
  · rintro (holds | ⟨j, other, _, stood, holds⟩)
    · exact ⟨call, mem_of_index found, holds⟩
    · exact ⟨other, mem_of_index stood, holds⟩

/-- The same after the call at the index has moved. -/
theorem exists_set_iff (found : calls[index]? = some call) :
    (∃ other ∈ calls.set index moved, property other) ↔
      property moved ∨ Another calls index property := by
  obtain ⟨inside, _⟩ := List.getElem?_eq_some_iff.mp found
  have after : (calls.set index moved)[index]? = some moved := by simp [inside]
  rw [exists_iff_self_or_another after]
  have others : Another (calls.set index moved) index property ↔
      Another calls index property := by
    constructor
    · rintro ⟨j, other, different, stood, holds⟩
      rw [List.getElem?_set_ne (Ne.symm different)] at stood
      exact ⟨j, other, different, stood, holds⟩
    · rintro ⟨j, other, different, stood, holds⟩
      refine ⟨j, other, different, ?_, holds⟩
      rw [List.getElem?_set_ne (Ne.symm different)]
      exact stood
  rw [others]

end Others

/-- The interference-freedom rule.  `shared` speaks about the store, `own`
about the store as seen from one call in flight. -/
theorem invariant (system : System Store Call Input)
    {allowed : Config Store Call → Move Call Input → Prop}
    {start last : Config Store Call}
    (shared : Store → Prop) (own : Store → Call → Prop)
    (sharedStart : shared start.store)
    (ownStart : ∀ call ∈ start.calls, own start.store call)
    (arrives : ∀ store call, shared store → system.starts call = true →
      own store call)
    (moves : ∀ (config : Config Store Call) index input call store moved,
      allowed config (.act index input) →
      config.calls[index]? = some call →
      system.next input config.store call = some (store, moved) →
      shared config.store →
      (∀ other ∈ config.calls, own config.store other) →
      shared store ∧ own store moved ∧
        ∀ j other, j ≠ index → config.calls[j]? = some other →
          own store other)
    (run : Run system.step allowed start last) :
    shared last.store ∧ ∀ call ∈ last.calls, own last.store call := by
  refine Run.invariant
    (fun config => shared config.store ∧
      ∀ call ∈ config.calls, own config.store call)
    ⟨sharedStart, ownStart⟩ ?_ run
  rintro before label after ⟨sharedBefore, ownBefore⟩ permitted taken
  cases label with
  | spawn call =>
      obtain ⟨starting, rfl⟩ := System.step_spawn taken
      refine ⟨sharedBefore, fun other present => ?_⟩
      rcases List.mem_append.mp present with old | new
      · exact ownBefore other old
      · rw [List.mem_singleton.mp new]
        exact arrives before.store call sharedBefore starting
  | act index input =>
      obtain ⟨call, store, moved, found, next, rfl⟩ := System.step_act taken
      obtain ⟨sharedAfter, ownMoved, ownOthers⟩ :=
        moves before index input call store moved permitted found next
          sharedBefore ownBefore
      refine ⟨sharedAfter, fun other present => ?_⟩
      rcases mem_set_cases present with rfl | ⟨j, different, stood⟩
      · exact ownMoved
      · exact ownOthers j other different stood

/-- The rule for a property of the store alone. -/
theorem store_invariant (system : System Store Call Input)
    {allowed : Config Store Call → Move Call Input → Prop}
    {start last : Config Store Call} (holds : Store → Prop)
    (holdsStart : holds start.store)
    (moves : ∀ (config : Config Store Call) index input call store moved,
      allowed config (.act index input) →
      config.calls[index]? = some call →
      system.next input config.store call = some (store, moved) →
      holds config.store → holds store)
    (run : Run system.step allowed start last) : holds last.store := by
  refine Run.invariant (fun config => holds config.store) holdsStart ?_ run
  intro before label after held permitted taken
  cases label with
  | spawn call =>
      obtain ⟨_, rfl⟩ := System.step_spawn taken
      exact held
  | act index input =>
      obtain ⟨call, store, moved, found, next, rfl⟩ := System.step_act taken
      exact moves before index input call store moved permitted found next held

/-- The rule for a property of the store that may be broken while some call is
on its way to mending it.  Only steps without another such call beside them need
a proof. -/
theorem holds_or_mended (system : System Store Call Input)
    {allowed : Config Store Call → Move Call Input → Prop}
    {start last : Config Store Call} (holds : Store → Prop)
    (mends : Call → Prop) (holdsStart : holds start.store)
    (moves : ∀ (config : Config Store Call) index input call store moved,
      allowed config (.act index input) →
      config.calls[index]? = some call →
      system.next input config.store call = some (store, moved) →
      ¬ Another config.calls index mends →
      holds config.store ∨ mends call →
      holds store ∨ mends moved)
    (run : Run system.step allowed start last) :
    holds last.store ∨ ∃ call ∈ last.calls, mends call := by
  refine Run.invariant
    (fun config => holds config.store ∨ ∃ call ∈ config.calls, mends call)
    (Or.inl holdsStart) ?_ run
  intro before label after mended permitted taken
  cases label with
  | spawn call =>
      obtain ⟨_, rfl⟩ := System.step_spawn taken
      refine mended.imp_right ?_
      rintro ⟨other, present, mending⟩
      exact ⟨other, List.mem_append_left _ present, mending⟩
  | act index input =>
      obtain ⟨call, store, moved, found, next, rfl⟩ := System.step_act taken
      rw [exists_set_iff found]
      rw [exists_iff_self_or_another found, ← or_assoc] at mended
      rcases Classical.em (Another before.calls index mends) with beside | alone
      · exact Or.inr (Or.inr beside)
      · exact (moves before index input call store moved permitted found next
          alone (mended.resolve_right alone)).imp_right Or.inl

/-- Moving one call changes a sum over all calls by that call's share. -/
theorem sum_map_set {M : Type*} [AddCommGroup M] (share : Call → M)
    {calls : List Call} {index : Nat} {call : Call} (moved : Call)
    (found : calls[index]? = some call) :
    ((calls.set index moved).map share).sum =
      (calls.map share).sum - share call + share moved := by
  induction calls generalizing index with
  | nil => simp at found
  | cons first rest ih =>
      cases index with
      | zero =>
          simp only [List.getElem?_cons_zero, Option.some.injEq] at found
          subst found
          simp only [List.set_cons_zero, List.map_cons, List.sum_cons]
          abel
      | succ index =>
          simp only [List.getElem?_cons_succ] at found
          simp only [List.set_cons_succ, List.map_cons, List.sum_cons,
            ih found]
          abel

/-- Moving one call changes a count of calls by that call's share. -/
theorem countP_set_add (counts : Call → Bool) {calls : List Call}
    {index : Nat} {call : Call} (moved : Call)
    (found : calls[index]? = some call) :
    (calls.set index moved).countP counts + (counts call).toNat =
      calls.countP counts + (counts moved).toNat := by
  induction calls generalizing index with
  | nil => simp at found
  | cons first rest ih =>
      cases index with
      | zero =>
          simp only [List.getElem?_cons_zero, Option.some.injEq] at found
          subst found
          simp only [List.set_cons_zero, List.countP_cons]
          cases counts first <;> cases counts moved <;> simp
      | succ index =>
          simp only [List.getElem?_cons_succ] at found
          simp only [List.set_cons_succ, List.countP_cons]
          have later := ih found
          omega

/-- A call that yields nothing adds nothing to the values of the others. -/
theorem filterMap_append_of_none {α : Type*} {value : Call → Option α}
    {call : Call} (nothing : value call = none) (calls : List Call) :
    (calls ++ [call]).filterMap value = calls.filterMap value := by
  rw [List.filterMap_append, List.filterMap_cons_none nothing, List.filterMap_nil,
    List.append_nil]

/-- A call that yields after its move what it has yielded before changes no
value. -/
theorem filterMap_set_same {α : Type*} (value : Call → Option α)
    {calls : List Call} {index : Nat} {call moved : Call}
    (found : calls[index]? = some call) (same : value moved = value call) :
    (calls.set index moved).filterMap value = calls.filterMap value := by
  induction calls generalizing index with
  | nil => rfl
  | cons first rest ih =>
      cases index with
      | zero =>
          simp only [List.getElem?_cons_zero, Option.some.injEq] at found
          subst found
          simp only [List.set_cons_zero, List.filterMap_cons, same]
      | succ index =>
          simp only [List.getElem?_cons_succ] at found
          simp only [List.set_cons_succ, List.filterMap_cons, ih found]

/-- A call that moves to where it yields a value adds this value to those of the
others. -/
theorem filterMap_set_perm {α : Type*} (value : Call → Option α)
    {calls : List Call} {index : Nat} {call : Call} (moved : Call)
    (found : calls[index]? = some call) (before : value call = none) :
    ((calls.set index moved).filterMap value).Perm
      ((value moved).toList ++ calls.filterMap value) := by
  induction calls generalizing index with
  | nil => simp at found
  | cons first rest ih =>
      cases index with
      | zero =>
          simp only [List.getElem?_cons_zero, Option.some.injEq] at found
          subst found
          cases now : value moved <;> simp [before, now]
      | succ index =>
          simp only [List.getElem?_cons_succ] at found
          have later := ih found
          cases here : value first with
          | none => simpa [here] using later
          | some held =>
              simp only [List.set_cons_succ, List.filterMap_cons, here]
              exact (later.cons held).trans List.perm_middle.symm

end InterleavedCalls
