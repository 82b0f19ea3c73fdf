import SpareSpace.FallibleState
import SpareSpace.ServiceTraces

/-!
# Calls over related stores

Two calls over two stores agree when, from related stores, they return or throw alike and
leave related stores.  Agreement passes through sequences, choices and calls on a part of a
store, so a call that keeps copies of its data is compared with a plain one piece by piece;
only the pieces that read or write the copies need an argument of their own.
-/

namespace Fallible

variable {ε σ τ α β : Type}

/-- A call on a part of a store. -/
def within {κ : Type} (part : σ → κ) (replace : κ → σ → σ) (call : Fallible ε κ α) :
    Fallible ε σ α :=
  ExceptT.mk fun store =>
    ((run call (part store)).1, replace (run call (part store)).2 store)

@[simp]
theorem run_within {κ : Type} (part : σ → κ) (replace : κ → σ → σ) (call : Fallible ε κ α)
    (store : σ) :
    run (within part replace call) store =
      ((run call (part store)).1, replace (run call (part store)).2 store) :=
  rfl

/-- From related stores the two calls have one outcome and leave related stores. -/
def Agree (related : σ → τ → Prop) (call : Fallible ε σ α) (plain : Fallible ε τ α) : Prop :=
  ∀ store tables, related store tables →
    (run call store).1 = (run plain tables).1 ∧
      related (run call store).2 (run plain tables).2

namespace Agree

variable {related : σ → τ → Prop}

theorem pure (value : α) :
    Agree related (Pure.pure value : Fallible ε σ α) (Pure.pure value) :=
  fun _ _ holds => ⟨rfl, holds⟩

theorem throw (error : ε) :
    Agree related (MonadExcept.throw error : Fallible ε σ α) (MonadExcept.throw error) :=
  fun _ _ holds => ⟨rfl, holds⟩

theorem lift (check : Except ε α) :
    Agree related (Fallible.lift check : Fallible ε σ α) (Fallible.lift check) :=
  fun _ _ holds => ⟨rfl, holds⟩

theorem reads {read : σ → Except ε α} {plainRead : τ → Except ε α}
    (same : ∀ store tables, related store tables → read store = plainRead tables) :
    Agree related (Fallible.reads read) (Fallible.reads plainRead) :=
  fun store tables holds => ⟨same store tables holds, holds⟩

/-- Two updates that fail alike, or return alike and keep the relation. -/
theorem updates {update : σ → Except ε (α × σ)} {plainUpdate : τ → Except ε (α × τ)}
    (same : ∀ store tables, related store tables →
      (∃ error, update store = .error error ∧ plainUpdate tables = .error error) ∨
        ∃ value next plainNext, update store = .ok (value, next) ∧
          plainUpdate tables = .ok (value, plainNext) ∧ related next plainNext) :
    Agree related (Fallible.updates update) (Fallible.updates plainUpdate) := by
  intro store tables holds
  rw [run_updates, run_updates]
  rcases same store tables holds with
    ⟨error, fails, plainFails⟩ | ⟨value, next, plainNext, returns, plainReturns, after⟩
  · rw [fails, plainFails]
    exact ⟨rfl, holds⟩
  · rw [returns, plainReturns]
    exact ⟨rfl, after⟩

/-- Calls that agree, followed by calls that agree on every value. -/
theorem bind {call : Fallible ε σ α} {plain : Fallible ε τ α} {rest : α → Fallible ε σ β}
    {plainRest : α → Fallible ε τ β} (first : Agree related call plain)
    (later : ∀ value, Agree related (rest value) (plainRest value)) :
    Agree related (call >>= rest) (plain >>= plainRest) := by
  intro store tables holds
  obtain ⟨same, after⟩ := first store tables holds
  rw [run_bind, run_bind]
  rcases ran : run call store with ⟨result, next⟩
  rcases plainRan : run plain tables with ⟨plainResult, plainNext⟩
  rw [ran, plainRan] at same after
  obtain rfl : result = plainResult := same
  cases result with
  | error error => exact ⟨rfl, after⟩
  | ok value => exact later value next plainNext after

theorem ite {condition : Prop} [Decidable condition] {call other : Fallible ε σ α}
    {plain plainOther : Fallible ε τ α} (yes : condition → Agree related call plain)
    (no : ¬ condition → Agree related other plainOther) :
    Agree related (if condition then call else other)
      (if condition then plain else plainOther) := by
  by_cases holds : condition
  · rw [if_pos holds, if_pos holds]
    exact yes holds
  · rw [if_neg holds, if_neg holds]
    exact no holds

/-- A check that throws, or lets the rest go on. -/
theorem guarded {condition : Prop} [Decidable condition] {error : ε}
    {rest : PUnit → Fallible ε σ β} {plainRest : PUnit → Fallible ε τ β}
    (passed : ¬ condition → Agree related (rest ⟨⟩) (plainRest ⟨⟩)) :
    Agree related
      (if condition then MonadExcept.throw error >>= rest else rest ⟨⟩)
      (if condition then MonadExcept.throw error >>= plainRest else plainRest ⟨⟩) := by
  apply ite
  · intro
    exact fun _ _ holds => ⟨rfl, holds⟩
  · exact passed

theorem forM {Item : Type} {call : Item → Fallible ε σ PUnit}
    {plain : Item → Fallible ε τ PUnit} (item : Option Item)
    (each : ∀ item, Agree related (call item) (plain item)) :
    Agree related (item.forM call) (item.forM plain) := by
  cases item with
  | none => exact pure _
  | some item => exact each item

/-- Calls on parts of two stores agree when the parts stay related beside the rest. -/
theorem within {κ ι : Type} {inner : κ → ι → Prop} {part : σ → κ} {replace : κ → σ → σ}
    {plainPart : τ → ι} {plainReplace : ι → τ → τ} {call : Fallible ε κ α}
    {plain : Fallible ε ι α} (agree : Agree inner call plain)
    (enter : ∀ store tables, related store tables → inner (part store) (plainPart tables))
    (leave : ∀ store tables, related store tables → ∀ next plainNext, inner next plainNext →
      related (replace next store) (plainReplace plainNext tables)) :
    Agree related (Fallible.within part replace call)
      (Fallible.within plainPart plainReplace plain) := by
  intro store tables holds
  obtain ⟨same, after⟩ := agree _ _ (enter store tables holds)
  exact ⟨same, leave store tables holds _ _ after⟩

open ServiceTraces in
/-- Services made of calls that agree simulate one another. -/
theorem simulates {Request : Type} {call : Request → Fallible ε σ α}
    {plain : Request → Fallible ε τ α}
    (agree : ∀ request, Agree related (call request) (plain request)) :
    Simulates (fun store request => run (call request) store)
      (fun tables request => run (plain request) tables) related fun _ _ => True :=
  fun store tables request holds _ => agree request store tables holds

end Agree

/-- From a sound store a call, also one that throws, leaves a sound store, of which the same
is observed. -/
def Preserves {κ : Type} (sound : σ → Prop) (observe : σ → κ) (call : Fallible ε σ α) : Prop :=
  ∀ store, sound store →
    sound (run call store).2 ∧ observe (run call store).2 = observe store

/-- A call that leaves what is observed of its store as it is, also when it throws. -/
abbrev Keeps {κ : Type} (observe : σ → κ) (call : Fallible ε σ α) : Prop :=
  Preserves (fun _ => True) observe call

namespace Preserves

variable {κ : Type} {sound : σ → Prop} {observe : σ → κ}

theorem of_store {call : Fallible ε σ α} (same : ∀ store, (run call store).2 = store) :
    Preserves sound observe call := by
  intro store holds
  rw [same store]
  exact ⟨holds, rfl⟩

theorem pure (value : α) : Preserves sound observe (Pure.pure value : Fallible ε σ α) :=
  of_store fun _ => rfl

theorem throw (error : ε) :
    Preserves sound observe (MonadExcept.throw error : Fallible ε σ α) :=
  of_store fun _ => rfl

theorem reads (read : σ → Except ε α) : Preserves sound observe (Fallible.reads read) :=
  of_store fun _ => rfl

theorem lift (check : Except ε α) :
    Preserves sound observe (Fallible.lift check : Fallible ε σ α) :=
  reads _

theorem updates {update : σ → Except ε (α × σ)}
    (keeps : ∀ store value next, sound store → update store = .ok (value, next) →
      sound next ∧ observe next = observe store) :
    Preserves sound observe (Fallible.updates update) := by
  intro store holds
  rw [run_updates]
  cases updated : update store with
  | error error => exact ⟨holds, rfl⟩
  | ok result => exact keeps store result.1 result.2 holds updated

theorem bind {call : Fallible ε σ α} {rest : α → Fallible ε σ β}
    (first : Preserves sound observe call)
    (later : ∀ value, Preserves sound observe (rest value)) :
    Preserves sound observe (call >>= rest) := by
  intro store holds
  obtain ⟨kept, same⟩ := first store holds
  rw [run_bind]
  rcases ran : run call store with ⟨result, next⟩
  rw [ran] at kept same
  cases result with
  | error error => exact ⟨kept, same⟩
  | ok value =>
      obtain ⟨last, still⟩ := later value next kept
      exact ⟨last, still.trans same⟩

/-- After a read, what follows is only asked for values that can be read. -/
theorem readBind {read : σ → Except ε α} {rest : α → Fallible ε σ β}
    (later : ∀ store value, read store = .ok value → Preserves sound observe (rest value)) :
    Preserves sound observe (Fallible.reads read >>= rest) := by
  intro store holds
  rw [run_bind, run_reads]
  cases found : read store with
  | error error => exact ⟨holds, rfl⟩
  | ok value => exact later store value found store holds

/-- Both a call and what is done when it throws. -/
theorem caught {call : Fallible ε σ α} {handler : ε → Fallible ε σ α}
    (first : Preserves sound observe call)
    (later : ∀ error, Preserves sound observe (handler error)) :
    Preserves sound observe (tryCatch call handler) := by
  intro store holds
  obtain ⟨kept, same⟩ := first store holds
  rw [run_tryCatch]
  rcases ran : run call store with ⟨result, next⟩
  rw [ran] at kept same
  cases result with
  | ok value => exact ⟨kept, same⟩
  | error error =>
      obtain ⟨last, still⟩ := later error next kept
      exact ⟨last, still.trans same⟩

theorem ite {condition : Prop} [Decidable condition] {call other : Fallible ε σ α}
    (yes : Preserves sound observe call) (no : Preserves sound observe other) :
    Preserves sound observe (if condition then call else other) := by
  split
  · exact yes
  · exact no

theorem guarded {condition : Prop} [Decidable condition] {error : ε}
    {rest : PUnit → Fallible ε σ β} (passed : Preserves sound observe (rest ⟨⟩)) :
    Preserves sound observe
      (if condition then MonadExcept.throw error >>= rest else rest ⟨⟩) :=
  ite (of_store fun _ => rfl) passed

theorem forM {Item : Type} {call : Item → Fallible ε σ PUnit} (item : Option Item)
    (each : ∀ item, Preserves sound observe (call item)) :
    Preserves sound observe (item.forM call) := by
  cases item with
  | none => exact pure _
  | some item => exact each item

theorem adapt {ε' : Type} {call : Fallible ε σ α} (preserves : Preserves sound observe call)
    (translate : ε → ε') : Preserves sound observe (ExceptT.adapt translate call) := by
  intro store holds
  rw [run_adapt]
  exact preserves store holds

/-- What is observed of the whole depends on the part only through what is observed of the
part. -/
theorem within {ι μ : Type} {inner : ι → μ} {part : σ → ι} {replace : ι → σ → σ}
    {call : Fallible ε ι α} (keeps : Keeps inner call)
    (leave : ∀ store next, inner next = inner (part store) →
      observe (replace next store) = observe store) :
    Keeps observe (Fallible.within part replace call) :=
  fun store _ => ⟨trivial, leave store _ (keeps (part store) trivial).2⟩

end Preserves

end Fallible
