/-!
# Calls that write a store and may throw

A service call reads and writes a store step by step and may end in an
exception; whatever it wrote before the exception stays written.  The file
gives such calls a `run` function, one equation for each way of building a
call, and the inversion of sequencing.
-/

/-- A call over the store `σ` that returns an `α` or throws an `ε`. -/
abbrev Fallible (ε σ α : Type) :=
  ExceptT ε (StateM σ) α

namespace Fallible

variable {ε σ α β : Type}

/-- The result of a call and the store it leaves. -/
def run (call : Fallible ε σ α) (store : σ) : Except ε α × σ :=
  (ExceptT.run call).run store

/-- A call that only reads the store. -/
def reads (read : σ → Except ε α) : Fallible ε σ α :=
  ExceptT.mk fun store => (read store, store)

/-- A check that does not look at the store. -/
def lift (check : Except ε α) : Fallible ε σ α :=
  reads fun _ => check

/-- A call that replaces the store unless it throws. -/
def updates (update : σ → Except ε (α × σ)) : Fallible ε σ α :=
  ExceptT.mk fun store =>
    match update store with
    | .ok (value, next) => (.ok value, next)
    | .error error => (.error error, store)

@[simp]
theorem run_pure (value : α) (store : σ) :
    run (pure value : Fallible ε σ α) store = (.ok value, store) :=
  rfl

@[simp]
theorem run_throw (error : ε) (store : σ) :
    run (throw error : Fallible ε σ α) store = (.error error, store) :=
  rfl

@[simp]
theorem run_reads (read : σ → Except ε α) (store : σ) :
    run (reads read) store = (read store, store) :=
  rfl

@[simp]
theorem run_lift (check : Except ε α) (store : σ) :
    run (lift check) store = (check, store) :=
  rfl

theorem lift_ok_iff {check : Except ε α} {store last : σ} {value : α} :
    run (lift check) store = (.ok value, last) ↔
      check = .ok value ∧ last = store := by
  rw [run_lift, Prod.mk.injEq, @eq_comm _ store]

theorem run_updates (update : σ → Except ε (α × σ)) (store : σ) :
    run (updates update) store =
      match update store with
      | .ok (value, next) => (.ok value, next)
      | .error error => (.error error, store) :=
  rfl

theorem run_bind (call : Fallible ε σ α) (rest : α → Fallible ε σ β)
    (store : σ) :
    run (call >>= rest) store =
      match run call store with
      | (.ok value, next) => run (rest value) next
      | (.error error, next) => (.error error, next) := by
  change (ExceptT.bindCont rest (run call store).1) (run call store).2 = _
  generalize run call store = outcome
  obtain ⟨result, next⟩ := outcome
  cases result <;> rfl

@[simp]
theorem run_bind_ok {call : Fallible ε σ α} {rest : α → Fallible ε σ β}
    {store next : σ} {value : α} (first : run call store = (.ok value, next)) :
    run (call >>= rest) store = run (rest value) next := by
  rw [run_bind, first]

/-- A call whose exceptions are translated changes the store as before. -/
theorem run_adapt {ε' : Type} (translate : ε → ε') (call : Fallible ε σ α)
    (store : σ) :
    run (ExceptT.adapt translate call) store =
      ((run call store).1.mapError translate, (run call store).2) := by
  change (Except.mapError translate <$> ExceptT.run call).run store = _
  rfl

theorem mapError_ok_iff {ε' : Type} {translate : ε → ε'} {result : Except ε α} {value : α} :
    result.mapError translate = .ok value ↔ result = .ok value := by
  cases result with
  | error error => exact iff_of_false nofun nofun
  | ok returned =>
      constructor
      · exact fun same => congrArg Except.ok (Except.ok.inj same)
      · exact fun same => congrArg Except.ok (Except.ok.inj same)

/-- A call whose exceptions are translated returns when the call returns. -/
theorem adapt_ok_iff {ε' : Type} {translate : ε → ε'} {call : Fallible ε σ α}
    {store last : σ} {value : α} :
    run (ExceptT.adapt translate call) store = (.ok value, last) ↔
      run call store = (.ok value, last) := by
  rw [run_adapt, Prod.mk.injEq, mapError_ok_iff, ← Prod.mk.injEq]

/-- A sequence that returns has a first part that returned. -/
theorem bind_ok {call : Fallible ε σ α} {rest : α → Fallible ε σ β}
    {store last : σ} {result : β}
    (returned : run (call >>= rest) store = (.ok result, last)) :
    ∃ value next, run call store = (.ok value, next) ∧
      run (rest value) next = (.ok result, last) := by
  rw [run_bind] at returned
  rcases first : run call store with ⟨_ | value, next⟩
  · simp [first] at returned
  · simp only [first] at returned
    exact ⟨value, next, rfl, returned⟩

/-- A relation that both parts of a sequence respect, and that composes, is
respected by the sequence. -/
theorem related_bind {related : σ → σ → Prop}
    (trans : ∀ {first second third}, related first second →
      related second third → related first third)
    {call : Fallible ε σ α} {rest : α → Fallible ε σ β} {store : σ}
    (first : related store (run call store).2)
    (later : ∀ value next, run call store = (.ok value, next) →
      related next (run (rest value) next).2) :
    related store (run (call >>= rest) store).2 := by
  rw [run_bind]
  rcases ran : run call store with ⟨error | value, next⟩
  · rw [ran] at first
    exact first
  · rw [ran] at first
    exact trans first (later value next ran)

theorem run_tryCatch (call : Fallible ε σ α)
    (handler : ε → Fallible ε σ α) (store : σ) :
    run (tryCatch call handler) store =
      match run call store with
      | (.ok value, next) => (.ok value, next)
      | (.error error, next) => run (handler error) next := by
  change (match (run call store).1 with
    | .ok value => pure (.ok value)
    | .error error => ExceptT.run (handler error) :
      StateM σ (Except ε α)) (run call store).2 = _
  generalize run call store = outcome
  obtain ⟨result, next⟩ := outcome
  cases result <;> rfl

/-- A call whose exceptions are only logged always returns. -/
theorem run_tryCatch_pure (call : Fallible ε σ Unit) (store : σ) :
    run (tryCatch call fun _ => pure ()) store = (.ok (), (run call store).2) := by
  rw [run_tryCatch]
  rcases run call store with ⟨error | value, after⟩ <;> rfl

/-- A call returns when what is done about its exceptions returns. -/
theorem tryCatch_returns {call : Fallible ε σ Unit} {handler : ε → Fallible ε σ Unit}
    (handled : ∀ error store, (run (handler error) store).1 = .ok ()) (store : σ) :
    (run (tryCatch call handler) store).1 = .ok () := by
  rw [run_tryCatch]
  rcases run call store with ⟨error | value, after⟩
  · exact handled error after
  · rfl

/-- Two reads of one store in a row are one read. -/
theorem reads_bind (read : σ → Except ε α) (more : α → σ → Except ε β) :
    (reads read >>= fun value => reads (more value)) =
      reads fun store => read store >>= fun value => more value store := by
  funext store
  change run _ store = (read store >>= fun value => more value store, store)
  rw [run_bind, run_reads]
  cases read store <;> rfl

/-- Checks that all pass leave the store as it is. -/
theorem run_forM_lift {Item : Type} {check : Item → Except ε Unit}
    {items : List Item} (pass : ∀ item ∈ items, check item = .ok ())
    (store : σ) :
    run (items.forM fun item => (lift (check item) : Fallible ε σ Unit))
      store = (.ok (), store) := by
  induction items with
  | nil => rfl
  | cons item rest ih =>
      rw [List.forM_eq_forM, List.forM_cons, run_bind, run_lift,
        pass item List.mem_cons_self]
      exact ih fun other mem => pass other (List.mem_cons_of_mem _ mem)

/-- Checks in a row pass or throw, and leave the store as it is. -/
theorem run_forM_lift_cases {Item : Type} (check : Item → Except ε Unit)
    (items : List Item) (store : σ) :
    run (items.forM fun item => (lift (check item) : Fallible ε σ Unit))
        store = (.ok (), store) ∨
      ∃ error, run (items.forM fun item =>
        (lift (check item) : Fallible ε σ Unit)) store = (.error error, store) := by
  induction items with
  | nil => exact Or.inl rfl
  | cons item rest ih =>
      rw [List.forM_eq_forM, List.forM_cons, run_bind, run_lift]
      cases check item with
      | ok => exact ih
      | error error => exact Or.inr ⟨error, rfl⟩

/-- Checks in a row that return have all passed. -/
theorem of_forM_lift_ok {Item : Type} {check : Item → Except ε Unit}
    {items : List Item} {store last : σ}
    (passed : run (items.forM fun item =>
      (lift (check item) : Fallible ε σ Unit)) store = (.ok (), last)) :
    ∀ item ∈ items, check item = .ok () := by
  induction items with
  | nil => nofun
  | cons item rest ih =>
      rw [List.forM_eq_forM, List.forM_cons] at passed
      obtain ⟨_, next, checked, later⟩ := bind_ok passed
      obtain ⟨first, rfl⟩ := lift_ok_iff.mp checked
      intro other present
      rcases List.mem_cons.mp present with rfl | inRest
      · exact first
      · exact ih later other inRest

/-- Checks in a row of which one does not pass throw what one of them throws. -/
theorem run_forM_lift_failing {Item : Type} {check : Item → Except ε Unit}
    {items : List Item} {failing : Item} (present : failing ∈ items)
    (fails : check failing ≠ .ok ()) (store : σ) :
    ∃ item ∈ items, ∃ error, check item = .error error ∧
      run (items.forM fun item => (lift (check item) : Fallible ε σ Unit)) store =
        (.error error, store) := by
  induction items with
  | nil => cases present
  | cons item rest ih =>
      rw [List.forM_eq_forM, List.forM_cons, run_bind, run_lift]
      cases first : check item with
      | error error => exact ⟨item, List.mem_cons_self, error, first, rfl⟩
      | ok =>
          have later : failing ∈ rest := by
            rcases List.mem_cons.mp present with rfl | later
            · exact absurd first fails
            · exact later
          obtain ⟨thrower, inRest, error, threw, ran⟩ := ih later
          exact ⟨thrower, List.mem_cons_of_mem _ inRest, error, threw, ran⟩

section Retries

variable {Attempt : Type} (call : Attempt → Fallible ε σ Unit)

/-- The attempts made out of a list: an attempt that throws is followed by the
next one, and an attempt that returns is the last. -/
def attemptsMade : List Attempt → σ → List Attempt
  | [], _ => []
  | attempt :: later, store =>
      match run (call attempt) store with
      | (.ok _, _) => [attempt]
      | (.error _, after) => attempt :: attemptsMade later after

/-- The store after the attempts made. -/
def afterAttempts : List Attempt → σ → σ
  | [], store => store
  | attempt :: later, store =>
      match run (call attempt) store with
      | (.ok _, after) => after
      | (.error _, after) => afterAttempts later after

variable {call}

/-- Attempts that all leave a store alone leave it together. -/
theorem afterAttempts_of_leaves {store : σ} (attempts : List Attempt)
    (leaves : ∀ attempt ∈ attempts, (run (call attempt) store).2 = store) :
    afterAttempts call attempts store = store := by
  induction attempts with
  | nil => rfl
  | cons attempt later ih =>
      have first := leaves attempt List.mem_cons_self
      have rest := ih fun other mem => leaves other (List.mem_cons_of_mem _ mem)
      rcases ran : run (call attempt) store with ⟨error | value, after⟩
      · rw [ran] at first
        obtain rfl : after = store := first
        rw [afterAttempts, ran]
        exact rest
      · rw [ran] at first
        rw [afterAttempts, ran]
        exact first

/-- After an attempt that threw, the last attempt is one of the later ones, unless
it was this one. -/
theorem lastMade_of_error {attempt final : Attempt} {later : List Attempt}
    {store after : σ} {error : ε} (ran : run (call attempt) store = (.error error, after))
    (other : final ≠ attempt)
    (last : (attemptsMade call (attempt :: later) store).getLast? = some final) :
    (attemptsMade call later after).getLast? = some final := by
  simp only [attemptsMade, ran] at last
  cases made : attemptsMade call later after with
  | nil =>
      rw [made] at last
      exact absurd (Option.some.inj last).symm other
  | cons second rest =>
      rwa [made, List.getLast?_cons_cons] at last

/-- Whatever the first attempt returned, the later ones find its store. -/
theorem afterAttempts_cons {attempt : Attempt} {later : List Attempt}
    {store after : σ} {result : Except ε Unit}
    (ran : run (call attempt) store = (result, after))
    (leaves : ∀ other ∈ later, (run (call other) after).2 = after) :
    afterAttempts call (attempt :: later) store = after := by
  cases result with
  | ok value => rw [afterAttempts, ran]
  | error error =>
      rw [afterAttempts, ran]
      exact afterAttempts_of_leaves later leaves

end Retries

end Fallible
