import SpareSpace.UserCalls
import Mathlib.Data.List.Pairwise

/-!
# Updates of one user that run together

An update saves every column of the user it has loaded, the columns set by
others included.  Updates that set different columns are all kept in every run
in which a user is saved only while the row still holds what was loaded, apart
from the columns the update sets.
-/

namespace SpareSpace

open ColumnRecords InterleavedCalls TransitionRuns UsersService TwoFactorService

namespace UserCall

/-- The columns that a call has written to the row. -/
def wrote : UserCall → Option PartialUser
  | updated change => some change.patch
  | invalidating status => some status.columns
  | invalidatingStatus columns | written columns => some columns
  | _ => none

/-- A user is saved only while the row holds what was loaded, outside the
columns of the update. -/
def SavesCurrentUser (config : Config Account UserCall) :
    Move UserCall UserEnvironment → Prop
  | .spawn _ => True
  | .act index _ => ∀ change user,
      config.calls[index]? = some (saving change user) →
        AgreesOutside change.patch user config.store.row

/-- The columns written so far. -/
def Written (calls : List UserCall) (patch : PartialUser) : Prop :=
  ∃ call ∈ calls, call.wrote = some patch

section Step

variable {crypto : Crypto} {environment : UserEnvironment}
  {account after : Account} {calls : List UserCall} {index : Nat}
  {call moved : UserCall} {start : User}

theorem wrote_loaded (purpose : LoadPurpose) (user : PartialUser) :
    wrote (loaded crypto purpose user) = none := by
  cases purpose with
  | findById => rfl
  | update change => rfl
  | validate recoveryCode =>
      simp only [loaded]
      split
      · rfl
      · split <;> rfl

theorem settled_quiet (found : calls[index]? = some call)
    (settled : Settled start account.row (Written calls))
    (row : after.row = account.row) (same : moved.wrote = call.wrote) :
    Settled start after.row (Written (calls.set index moved)) := by
  rw [row]
  refine fun column => (settled column).keep rfl fun patch => ?_
  unfold Written
  rw [exists_set_iff found, exists_iff_self_or_another found, same]

theorem settled_write {patch : PartialUser}
    (found : calls[index]? = some call)
    (settled : Settled start account.row (Written calls))
    (row : after.row = assign account.row patch) (before : call.wrote = none)
    (now : moved.wrote = some patch) :
    Settled start after.row (Written (calls.set index moved)) := by
  rw [row]
  refine fun column => (settled column).assign patch fun other => ?_
  unfold Written
  rw [exists_set_iff found, exists_iff_self_or_another found, before, now]
  constructor
  · rintro (same | another)
    · exact Or.inr (Option.some.inj same).symm
    · exact Or.inl (Or.inr another)
  · rintro ((absent | another) | rfl)
    · contradiction
    · exact Or.inr another
    · exact Or.inl rfl

theorem settled_step {config later : Config Account UserCall}
    {label : Move UserCall UserEnvironment}
    (settled : Settled start config.store.row (Written config.calls))
    (current : SavesCurrentUser config label)
    (taken : (userSystem crypto arrives).step config label = some later) :
    Settled start later.store.row (Written later.calls) := by
  cases label with
  | spawn call =>
      obtain ⟨starts, rfl⟩ := System.step_spawn taken
      refine fun column => (settled column).keep rfl fun patch => ?_
      have nothing : call.wrote = none := by
        cases call <;> first | rfl | contradiction
      simp [Written, or_and_right, exists_or, nothing]
  | act index environment =>
      obtain ⟨call, after, moved, found, moves, rfl⟩ := System.step_act taken
      cases effect_of_next moves with
      | conflict taken kept =>
          exact settled_quiet found settled (by rw [kept]) rfl
      | check kept => exact settled_quiet found settled (by rw [kept]) rfl
      | checked kept => exact settled_quiet found settled (by rw [kept]) rfl
      | load kept => exact settled_quiet found settled (by rw [kept]) rfl
      | fill row cache => exact settled_quiet found settled row rfl
      | loaded row cache =>
          exact settled_quiet found settled row (wrote_loaded _ _)
      | delete row cache => exact settled_quiet found settled row rfl
      | @save change user row cache =>
          rw [assign_overlay (current change user found)] at row
          exact settled_write found settled row rfl rfl
      | exist kept => exact settled_quiet found settled (by rw [kept]) rfl
      | write row cache => exact settled_write found settled row rfl rfl
      | writeOnline row cache => exact settled_write found settled row rfl rfl
      | invalidate row cache => exact settled_quiet found settled row rfl
      | invalidateStatus row cache => exact settled_quiet found settled row rfl

end Step

end UserCall

open UserCall

/-- In every run in which users are saved only while the row holds what was
loaded, the row has the values of all calls that have written, provided they
set pairwise different columns. -/
theorem updates_kept {crypto : Crypto} {start last : Config Account UserCall}
    (noCalls : start.calls = [])
    (run : Run (userSystem crypto arrives).step SavesCurrentUser start last)
    (disjoint : (last.calls.filterMap wrote).Pairwise Disjoint) :
    ∀ call ∈ last.calls, ∀ patch, call.wrote = some patch →
      ∀ column value, patch column = some value →
        last.store.row column = value := by
  have starting : Settled start.store.row start.store.row (Written start.calls) := by
    apply settled_start
    rintro patch ⟨call, present, _⟩
    rw [noCalls] at present
    contradiction
  have settled : Settled start.store.row last.store.row (Written last.calls) :=
    Run.invariant (fun config =>
      Settled start.store.row config.store.row (Written config.calls)) starting
      (fun _ _ _ settled current taken => settled_step settled current taken) run
  intro call present patch wrote column value sets
  refine settled.holds ?_ ⟨call, present, wrote⟩ sets
  rintro first ⟨one, oneMem, wroteFirst⟩ second ⟨two, twoMem, wroteSecond⟩ different
  exact disjoint.forall (List.mem_filterMap.mpr ⟨one, oneMem, wroteFirst⟩)
    (List.mem_filterMap.mpr ⟨two, twoMem, wroteSecond⟩) different

private theorem savesCurrentUser_of_movesNoSave
    (config : Config Account UserCall) (label : Move UserCall UserEnvironment)
    (other : movesNoSave config label = true) :
    SavesCurrentUser config label := by
  cases label with
  | spawn call => exact trivial
  | act index environment =>
      intro change user saves
      exact (not_saving_of_movesNoSave other saves).elim

private def renamed : PartialUser
  | .firstName => some "Petr"
  | _ => none

private def updatesRow : User :=
  newRow "+79001234567" "password" "Ivan" "Petrov" none 0

private def updatesStart : Config Account UserCall :=
  ⟨(newAccount updatesRow 1).account, []⟩

/-- The row after the ban, and the user loaded from it. -/
private def bannedRow : User :=
  assign updatesRow (banStatus true)

private def bannedUser : PartialUser :=
  merge (select UserColumn.inProfile bannedRow)
    (select UserColumn.inStatus bannedRow)

private theorem bannedUser_current : AgreesOutside renamed bannedUser bannedRow := by
  intro column _ value held
  unfold bannedUser merge at held
  split at held
  · exact agrees_select _ bannedRow column value held
  · exact agrees_select _ bannedRow column value held

/-- The update of the name is about to save; the cached profile is deleted. -/
private def savingName : Config Account UserCall where
  store := ⟨bannedRow, [], none, RedisService.entry 0 statusCacheTtlSec
    (select UserColumn.inStatus bannedRow), none, none⟩
  calls := [written (banStatus true), saving ⟨renamed, none⟩ bannedUser]

/-- A ban, and then a change of the first name. -/
theorem updates_kept_sample :
    ∃ last, Run (userSystem Crypto.plain arrives).step SavesCurrentUser
        updatesStart last ∧
      last.calls.filterMap wrote = [banStatus true, renamed] ∧
        ∀ call ∈ last.calls, ∀ patch, call.wrote = some patch →
          ∀ column value, patch column = some value →
            last.store.row column = value := by
  have loaded : Run (userSystem Crypto.plain arrives).step SavesCurrentUser
      updatesStart savingName :=
    Run.start.executeChecked movesNoSave savesCurrentUser_of_movesNoSave
      ([.spawn (validateExistence (.ban true)), .spawn (update renamed)] ++
        List.replicate 3 (.act 0 .atZero) ++
        List.replicate 12 (.act 1 .atZero)) rfl
  have saved := loaded.step (Move.act 1 .atZero) (by
    intro change user saves
    obtain ⟨rfl, rfl⟩ := UserCall.saving.inj (Option.some.inj saves)
    exact bannedUser_current) rfl
  have apart : List.Pairwise Disjoint [banStatus true, renamed] := by
    simp only [List.pairwise_cons, List.mem_singleton, forall_eq,
      List.not_mem_nil, false_imp_iff, implies_true, List.Pairwise.nil, and_true]
    intro column
    cases column <;> first | exact Or.inl rfl | exact Or.inr rfl
  exact ⟨_, saved, rfl, updates_kept rfl saved apart⟩

/-- A change of the first name that has loaded the user before a ban saves the
user as not banned. -/
theorem ban_undone :
    ¬ ∀ crypto (start last : Config Account UserCall), start.calls = [] →
      Reachable (userSystem crypto arrives).step start last →
        (last.calls.filterMap wrote).Pairwise Disjoint →
          ∀ call ∈ last.calls, ∀ patch, call.wrote = some patch →
            ∀ column value, patch column = some value →
              last.store.row column = value := by
  intro kept
  have reached := reachable_of_execute (userSystem Crypto.plain arrives).step
    updatesStart ([.spawn (update renamed), .spawn (validateExistence (.ban true))] ++
      List.replicate 11 (.act 0 .atZero) ++ List.replicate 3 (.act 1 .atZero) ++
      List.replicate 2 (.act 0 .atZero)) rfl
  have apart : List.Pairwise Disjoint [renamed, banStatus true] := by
    simp only [List.pairwise_cons, List.mem_singleton, forall_eq,
      List.not_mem_nil, false_imp_iff, implies_true, List.Pairwise.nil, and_true]
    intro column
    cases column <;> first | exact Or.inl rfl | exact Or.inr rfl
  have banned := kept _ _ _ rfl reached apart (.written (banStatus true))
    (List.mem_cons_of_mem _ List.mem_cons_self) _ rfl .isBanned true rfl
  contradiction

end SpareSpace
