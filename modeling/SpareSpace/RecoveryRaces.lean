import SpareSpace.UserCalls
import SpareSpace.SecondFactor

/-!
# Recovery codes used by interleaved calls

A validation finds its code in a list of hashes that may come from the cache,
and later saves the list without it.  Each generated code is accepted at most
once in every run in which such a save is made only while the row still holds
the list in which the code was found.
-/

namespace SpareSpace

open ColumnRecords InterleavedCalls TransitionRuns UsersService TwoFactorService

namespace UserCall

variable (crypto : Crypto)

/-- The recovery code that a call has returned as accepted. -/
def accepted : UserCall → Option String
  | updated change => change.writeOff.map WriteOff.code
  | _ => none

/-- A list without a recovery code is saved only over the list the code was
found in. -/
def SavesCurrentList (config : Config Account UserCall) :
    Move UserCall UserEnvironment → Prop
  | .spawn _ => True
  | .act index _ => ∀ change user writeOff,
      config.calls[index]? = some (saving change user) →
        change.writeOff = some writeOff →
          storedHashes config.store.row = writeOff.hashes

/-- The change takes an accepted code off the list it was found in. -/
def TakesOff (change : UserChange) : Prop :=
  ∃ writeOff rest, change.writeOff = some writeOff ∧
    consume crypto writeOff.code writeOff.hashes = some rest ∧
      change.patch = withHashes rest

/-- In a run of validations and reads every update takes a code off. -/
def OnlyTakesOff : UserCall → Prop
  | loading (.update change) _ | deleting change _ | saving change _ =>
      TakesOff crypto change
  | loading _ _ | found _ | refused _ | updated _ => True
  | _ => False

variable {crypto} {environment : UserEnvironment} {account after : Account}
  {call moved : UserCall} {generated : List String}

theorem onlyTakesOff_loaded {purpose : LoadPurpose} {point : LoadPoint}
    (user : PartialUser) (own : OnlyTakesOff crypto (loading purpose point)) :
    OnlyTakesOff crypto (loaded crypto purpose user) := by
  cases purpose with
  | findById => exact trivial
  | update change => exact own
  | validate recoveryCode =>
      simp only [loaded]
      split
      · exact trivial
      · split
        · exact trivial
        · next newHashes consumed =>
            exact ⟨_, newHashes, rfl, consumed, rfl⟩

theorem OnlyTakesOff.next (own : OnlyTakesOff crypto call)
    (effect : Effect crypto environment account after call moved) :
    OnlyTakesOff crypto moved := by
  cases effect with
  | loaded row cache => exact onlyTakesOff_loaded _ own
  | @load purpose point later kept =>
      cases purpose with
      | findById => exact trivial
      | validate recoveryCode => exact trivial
      | update change => exact own
  | @fill purpose profileData row cache =>
      cases purpose with
      | findById => exact trivial
      | validate recoveryCode => exact trivial
      | update change => exact own
  | delete row cache => exact own
  | save row cache => exact trivial
  | _ => exact own.elim

/-- The row holds hashes of the generated codes that have not been accepted. -/
structure CodesKept (crypto : Crypto) (generated : List String)
    (config : Config Account UserCall) : Prop where
  own : ∀ call ∈ config.calls, OnlyTakesOff crypto call
  hashed : ∃ left,
    List.Forall₂ (IsHash crypto) left (storedHashes config.store.row) ∧
      (left ++ config.calls.filterMap accepted).Perm generated

theorem accepted_loaded (purpose : LoadPurpose) (user : PartialUser) :
    accepted (loaded crypto purpose user) = none := by
  cases purpose with
  | findById => rfl
  | update change => rfl
  | validate recoveryCode =>
      simp only [loaded]
      split
      · rfl
      · split <;> rfl

/-- A step that does not save keeps the hashes and accepts nothing. -/
theorem CodesKept.quiet {calls : List UserCall} {index : Nat}
    (kept : CodesKept crypto generated ⟨account, calls⟩)
    (found : calls[index]? = some call) (mine : OnlyTakesOff crypto moved)
    (row : after.row = account.row) (before : accepted call = none)
    (now : accepted moved = none) :
    CodesKept crypto generated ⟨after, calls.set index moved⟩ := by
  obtain ⟨left, hashed, all⟩ := kept.hashed
  constructor
  · exact forall_set kept.own mine
  · refine ⟨left, row ▸ hashed, ?_⟩
    rw [filterMap_set_same accepted found (now.trans before.symm)]
    exact all

theorem CodesKept.step (compares : crypto.ComparesOwn)
    {config later : Config Account UserCall}
    {label : Move UserCall UserEnvironment}
    (kept : CodesKept crypto generated config)
    (current : SavesCurrentList config label)
    (taken : (userSystem crypto loads).step config label = some later) :
    CodesKept crypto generated later := by
  cases label with
  | spawn call =>
      obtain ⟨starts, rfl⟩ := System.step_spawn taken
      have arriving : OnlyTakesOff crypto call ∧ accepted call = none := by
        cases call with
        | loading purpose point =>
            cases purpose with
            | update change => cases point <;> contradiction
            | findById => exact ⟨trivial, rfl⟩
            | validate recoveryCode => exact ⟨trivial, rfl⟩
        | _ => contradiction
      constructor
      · exact List.forall_mem_append.mpr
          ⟨kept.own, List.forall_mem_singleton.mpr arriving.1⟩
      · rw [filterMap_append_of_none arriving.2]
        exact kept.hashed
  | act index environment =>
      obtain ⟨call, after, moved, found, moves, rfl⟩ := System.step_act taken
      have effect := effect_of_next moves
      have own := kept.own call (mem_of_index found)
      have mine := own.next effect
      cases effect with
      | @save change user row cache =>
          obtain ⟨writeOff, rest, names, consumed, patch⟩ := own
          obtain ⟨left, hashed, all⟩ := kept.hashed
          rw [current change user writeOff found names] at hashed
          obtain ⟨remaining, hashedRest, perm⟩ :=
            consume_spec compares hashed consumed
          constructor
          · exact forall_set kept.own trivial
          · have stored : storedHashes after.row = rest := by
              unfold storedHashes
              rw [row, assign_of_some (overlay_of_some
                (show change.patch .twoFaRecoveryCodesHashes = some (some rest)
                  by rw [patch]; rfl))]
              rfl
            have adds := filterMap_set_perm accepted (updated change) found rfl
            have code : accepted (updated change) = some writeOff.code := by
              simp [accepted, names]
            rw [code] at adds
            refine ⟨remaining, stored ▸ hashedRest, ?_⟩
            have moves : (remaining ++ (writeOff.code ::
                config.calls.filterMap accepted)).Perm generated :=
              List.perm_middle.trans ((perm.symm.append_right _).trans all)
            exact (adds.append_left remaining).trans moves
      | load stands => exact kept.quiet found mine (by rw [stands]) rfl rfl
      | fill row cache => exact kept.quiet found mine row rfl rfl
      | loaded row cache =>
          exact kept.quiet found mine row rfl (accepted_loaded _ _)
      | delete row cache => exact kept.quiet found mine row rfl rfl
      | _ => exact own.elim

end UserCall

open UserCall

/-- In every run in which a list without an accepted code is saved only over
the list the code was found in, no code is accepted more often than it was
generated, and a code accepted as often is not in the row any more. -/
theorem recovery_codes_used_once {crypto : Crypto}
    (compares : crypto.ComparesOwn) {generated : List String}
    {start last : Config Account UserCall} (noCalls : start.calls = [])
    (hashed : List.Forall₂ (IsHash crypto) generated
      (storedHashes start.store.row))
    (run : Run (userSystem crypto loads).step SavesCurrentList start last)
    (code : String) :
    (last.calls.filterMap accepted).count code ≤ generated.count code ∧
      ((last.calls.filterMap accepted).count code = generated.count code →
        consume crypto code (storedHashes last.store.row) = none) := by
  have starting : CodesKept crypto generated start := by
    refine ⟨?_, generated, hashed, ?_⟩
    · rw [noCalls]
      exact nofun
    · rw [noCalls, List.filterMap_nil, List.append_nil]
  have kept : CodesKept crypto generated last :=
    Run.invariant (CodesKept crypto generated) starting
      (fun _ _ _ kept current taken => kept.step compares current taken) run
  obtain ⟨left, hashedNow, all⟩ := kept.hashed
  have counts := all.count_eq code
  rw [List.count_append] at counts
  constructor
  · omega
  · intro allUsed
    cases consumed : consume crypto code (storedHashes last.store.row) with
    | none => rfl
    | some rest =>
        obtain ⟨remaining, _, perm⟩ := consume_spec compares hashedNow consumed
        have more := perm.count_eq code
        rw [List.count_cons_self] at more
        omega

/-- A user with a second factor and these recovery codes, nothing cached. -/
private def recovering (codes : List String) : Config Account UserCall where
  store := (newAccount (assign
    (newRow "+79001234567" "password" "Ivan" "Petrov" none 0)
    (overlay (enabledWith "secret") (withHashes codes))) 1).account
  calls := []

private theorem recovering_hashed :
    List.Forall₂ (IsHash Crypto.plain) ["0a1b2c3d4e", "1b2c3d4e5f"]
      (storedHashes (recovering ["0a1b2c3d4e", "1b2c3d4e5f"]).store.row) :=
  .cons ⟨by decide, "salt", rfl⟩ (.cons ⟨by decide, "salt", rfl⟩ .nil)

private def savesCurrentList (config : Config Account UserCall) :
    Move UserCall UserEnvironment → Bool
  | .spawn _ => true
  | .act index _ =>
      match config.calls[index]? with
      | some (saving change _) =>
          change.writeOff.all fun writeOff =>
            storedHashes config.store.row == writeOff.hashes
      | _ => true

private theorem savesCurrentList_of_check (config : Config Account UserCall)
    (label : Move UserCall UserEnvironment) (checked : savesCurrentList config label = true) :
    SavesCurrentList config label := by
  cases label with
  | spawn => trivial
  | act index environment =>
      intro change user writeOff saves names
      simp only [savesCurrentList, saves, names, Option.all_some, beq_iff_eq] at checked
      exact checked

/-- Two validations of one code are under way when the first saves the list without it; the
second reads the new list, and a third validation takes off the other code. -/
private def validatesThrice : List (Move UserCall UserEnvironment) :=
  [.spawn (validateRecoveryCode "0a1b2c3d4e"), .spawn (validateRecoveryCode "0a1b2c3d4e")] ++
    List.replicate 9 (.act 0 .atZero) ++ [.act 1 .atZero, .act 0 .atZero,
    .spawn (validateRecoveryCode "1b2c3d4e5f")] ++
    List.replicate 3 (.act 1 .atZero) ++ List.replicate 6 (.act 2 .atZero)

theorem recovery_codes_used_once_sample :
    ∃ last, Run (userSystem Crypto.plain loads).step SavesCurrentList
        (recovering ["0a1b2c3d4e", "1b2c3d4e5f"]) last ∧
      last.calls.length = 3 ∧
      last.calls.filterMap accepted = ["0a1b2c3d4e", "1b2c3d4e5f"] ∧
        ∀ code,
          (last.calls.filterMap accepted).count code ≤
              ["0a1b2c3d4e", "1b2c3d4e5f"].count code ∧
            ((last.calls.filterMap accepted).count code =
                ["0a1b2c3d4e", "1b2c3d4e5f"].count code →
              consume Crypto.plain code (storedHashes last.store.row) = none) := by
  have reached : Run (userSystem Crypto.plain loads).step SavesCurrentList
      (recovering ["0a1b2c3d4e", "1b2c3d4e5f"]) _ :=
    Run.start.executeChecked savesCurrentList savesCurrentList_of_check validatesThrice rfl
  exact ⟨_, reached, rfl, rfl,
    recovery_codes_used_once Crypto.plain_comparesOwn rfl recovering_hashed reached⟩

/-- Two validations that both find the code before either saves the list both
accept it. -/
theorem recovery_code_used_twice :
    ¬ ∀ crypto : Crypto, crypto.ComparesOwn →
      ∀ (generated : List String) (start last : Config Account UserCall),
        start.calls = [] →
          List.Forall₂ (IsHash crypto) generated (storedHashes start.store.row) →
            Reachable (userSystem crypto loads).step start last →
              ∀ code, (last.calls.filterMap accepted).count code ≤
                generated.count code := by
  intro once
  have reached := reachable_of_execute (userSystem Crypto.plain loads).step
    (recovering ["0a1b2c3d4e"]) ([.spawn (validateRecoveryCode "0a1b2c3d4e"),
      .spawn (validateRecoveryCode "0a1b2c3d4e")] ++
      List.replicate 6 (.act 0 .atZero) ++ List.replicate 2 (.act 1 .atZero) ++
      List.replicate 4 (.act 0 .atZero) ++
      List.replicate 6 (.act 1 .atZero)) rfl
  have bound := once _ Crypto.plain_comparesOwn _ _ _ rfl
    (.cons ⟨by decide, "salt", rfl⟩ .nil) reached "0a1b2c3d4e"
  exact absurd bound (by decide)

end SpareSpace
