import SpareSpace.ListingCalls
import Mathlib.Data.Finset.Card
import Mathlib.Data.List.Basic

/-!
# Edits, decisions and views of one listing that run together

An edit and a status change save every column of a listing that may come from
an old cache entry, and a view counts its viewer after a check of its own.
Status, counter and edited columns come out right in every run in which a
listing is saved only while the row holds what was loaded, a status is taken
for settled only while the row has it, and a viewer is counted only while
nobody has counted the same viewer.
-/

namespace SpareSpace

open ColumnRecords InterleavedCalls TransitionRuns ListingsService

namespace ListingCall

/-- The viewer a call has counted and not yet noted in the history. -/
def counting : ListingCall → Option Nat
  | deletingViewed userId | inserting userId => some userId
  | _ => none

/-- The columns an edit has written. -/
def edited : ListingCall → Option PartialListing
  | updated patch => some patch
  | _ => none

/-- What is saved, taken for settled or counted is current. -/
def ActsOnCurrent (config : Config ListingStore ListingCall) :
    Move ListingCall ListingEnvironment → Prop
  | .spawn _ => True
  | .act index _ =>
      match config.calls[index]? with
      | some (saving patch listing) =>
          AgreesOutside patch listing config.store.row
      | some (savingStatus newStatus listing) =>
          AgreesOutside (statusColumn newStatus) listing config.store.row
      | some (loaded (.updateStatus newStatus) listing) =>
          listing .status = some newStatus →
            config.store.row .status = newStatus
      | some (incrementing userId) =>
          userId ∉ config.store.viewHistory ∧
            ¬ Another config.calls index
              (fun other => other.counting = some userId)
      | _ => True

/-- The columns written by edits that have returned. -/
def Edited (calls : List ListingCall) (patch : PartialListing) : Prop :=
  ∃ call ∈ calls, call.edited = some patch

/-- An edit sets neither the status nor the number of views. -/
def LeavesCounted (patch : PartialListing) : Prop :=
  patch .status = none ∧ patch .viewsCount = none

def Edits : ListingCall → Prop
  | geocoding patch _ | deleting patch _ | saving patch _ | updated patch =>
      LeavesCounted patch
  | _ => True

/-- The users who have been counted as viewers. -/
def viewers (store : ListingStore) (calls : List ListingCall) : Finset Nat :=
  store.viewHistory.toFinset ∪ (calls.filterMap counting).toFinset

theorem mem_viewers {store : ListingStore} {calls : List ListingCall}
    {userId : Nat} :
    userId ∈ viewers store calls ↔
      userId ∈ store.viewHistory ∨
        ∃ call ∈ calls, call.counting = some userId := by
  simp [viewers]

/-- The status is the one settled last, the counter counts the viewers, and
every other column is settled by the edits. -/
structure Kept (start : ListingRow) (config : Config ListingStore ListingCall) :
    Prop where
  edits : ∀ call ∈ config.calls, call.Edits
  status : config.store.row .status =
    config.store.statuses.head?.getD (start .status)
  views : config.store.row .viewsCount =
    (viewers config.store config.calls).card
  fields : ∀ column, column ≠ .status → column ≠ .viewsCount →
    SettledAt start config.store.row (Edited config.calls) column

section Step

variable {start : ListingRow} {store after : ListingStore}
  {calls : List ListingCall} {index : Nat} {call moved : ListingCall}
  {patch listing : PartialListing}

theorem Kept.edits_set (kept : Kept start ⟨store, calls⟩) (mine : moved.Edits) :
    ∀ other ∈ calls.set index moved, other.Edits :=
  forall_set kept.edits mine

theorem viewers_set (found : calls[index]? = some call)
    (history : after.viewHistory = store.viewHistory)
    (same : moved.counting = call.counting) :
    viewers after (calls.set index moved) = viewers store calls := by
  ext userId
  rw [mem_viewers, mem_viewers, history, exists_set_iff found,
    exists_iff_self_or_another found, same]

theorem Kept.views_set (kept : Kept start ⟨store, calls⟩)
    (found : calls[index]? = some call)
    (count : after.row .viewsCount = store.row .viewsCount)
    (history : after.viewHistory = store.viewHistory)
    (same : moved.counting = call.counting) :
    after.row .viewsCount = (viewers after (calls.set index moved)).card := by
  rw [count, viewers_set found history same]
  exact kept.views

theorem edited_set (found : calls[index]? = some call)
    (same : moved.edited = call.edited) (patch : PartialListing) :
    Edited (calls.set index moved) patch ↔ Edited calls patch := by
  unfold Edited
  rw [exists_set_iff found, exists_iff_self_or_another found, same]

/-- A step that changes neither the row nor what is noted beside it. -/
theorem Kept.quiet (kept : Kept start ⟨store, calls⟩)
    (found : calls[index]? = some call) (mine : moved.Edits)
    (row : after.row = store.row)
    (history : after.viewHistory = store.viewHistory)
    (statuses : after.statuses = store.statuses)
    (counting : moved.counting = call.counting)
    (edited : moved.edited = call.edited) :
    Kept start ⟨after, calls.set index moved⟩ where
  edits := kept.edits_set mine
  status := by
    change after.row .status = after.statuses.head?.getD (start .status)
    rw [row, statuses]
    exact kept.status
  views := kept.views_set found (by rw [row]) history counting
  fields column notStatus notViews :=
    (kept.fields column notStatus notViews).keep (by rw [row])
      (edited_set found edited)

/-- Saving a listing with current columns writes the columns that are set. -/
theorem save_current (current : AgreesOutside patch listing store.row) :
    store.save (overlay listing patch) = store.save patch := by
  unfold ListingStore.save
  rw [assign_overlay current]

theorem Kept.save (kept : Kept start ⟨store, calls⟩)
    (found : calls[index]? = some (saving patch listing))
    (current : AgreesOutside patch listing store.row) :
    Kept start
      ⟨store.save (overlay listing patch), calls.set index (updated patch)⟩ := by
  obtain ⟨noStatus, noViews⟩ : LeavesCounted patch :=
    kept.edits _ (mem_of_index found)
  rw [save_current current]
  refine ⟨kept.edits_set ⟨noStatus, noViews⟩, ?_, ?_, ?_⟩
  · exact (assign_of_none noStatus).trans kept.status
  · exact kept.views_set found (assign_of_none noViews) rfl rfl
  · intro column notStatus notViews
    refine (kept.fields column notStatus notViews).assign patch fun other => ?_
    unfold Edited
    rw [exists_set_iff found, exists_iff_self_or_another found]
    constructor
    · rintro (same | another)
      · exact Or.inr (Option.some.inj same).symm
      · exact Or.inl (Or.inr another)
    · rintro ((absent | another) | rfl)
      · contradiction
      · exact Or.inr another
      · exact Or.inl rfl

theorem Kept.saveStatus {newStatus : ListingStatus}
    (kept : Kept start ⟨store, calls⟩)
    (found : calls[index]? = some (savingStatus newStatus listing))
    (current : AgreesOutside (statusColumn newStatus) listing store.row) :
    Kept start
      ⟨(store.save (overlay listing (statusColumn newStatus))).settle newStatus,
        calls.set index (invalidating newStatus)⟩ := by
  rw [save_current current]
  refine ⟨kept.edits_set trivial, rfl, ?_, ?_⟩
  · exact kept.views_set found rfl rfl rfl
  · intro column notStatus notViews
    have unset : statusColumn newStatus column = none := by
      cases column <;> first | rfl | contradiction
    exact (kept.fields column notStatus notViews).keep (assign_of_none unset)
      (edited_set found rfl)

theorem Kept.same {newStatus : ListingStatus}
    (kept : Kept start ⟨store, calls⟩)
    (found : calls[index]? = some (loaded (.updateStatus newStatus) listing))
    (current : store.row .status = newStatus) :
    Kept start
      ⟨store.settle newStatus, calls.set index (unchanged newStatus)⟩ := by
  refine ⟨kept.edits_set trivial, current, ?_, ?_⟩
  · exact kept.views_set found rfl rfl rfl
  · intro column notStatus notViews
    exact (kept.fields column notStatus notViews).keep rfl (edited_set found rfl)

theorem Kept.increment {userId : Nat} (kept : Kept start ⟨store, calls⟩)
    (found : calls[index]? = some (incrementing userId))
    (unseen : userId ∉ store.viewHistory)
    (alone : ¬ Another calls index (fun other => other.counting = some userId)) :
    Kept start ⟨store.save (incremented store.row),
      calls.set index (deletingViewed userId)⟩ := by
  have fresh : userId ∉ viewers store calls := by
    rw [mem_viewers, exists_iff_self_or_another found]
    rintro (old | absent | another)
    · exact unseen old
    · contradiction
    · exact alone another
  have more : viewers (store.save (incremented store.row))
      (calls.set index (deletingViewed userId)) =
        insert userId (viewers store calls) := by
    ext other
    rw [Finset.mem_insert, mem_viewers, mem_viewers, exists_set_iff found,
      exists_iff_self_or_another found]
    constructor
    · rintro (old | same | another)
      · exact Or.inr (Or.inl old)
      · exact Or.inl (Option.some.inj same).symm
      · exact Or.inr (Or.inr (Or.inr another))
    · rintro (rfl | old | absent | another)
      · exact Or.inr (Or.inl rfl)
      · exact Or.inl old
      · contradiction
      · exact Or.inr (Or.inr another)
  refine ⟨kept.edits_set trivial, kept.status, ?_, ?_⟩
  · change store.row .viewsCount + 1 =
      (viewers (store.save (incremented store.row))
        (calls.set index (deletingViewed userId))).card
    rw [more, Finset.card_insert_of_notMem fresh]
    exact congrArg (· + 1) kept.views
  · intro column notStatus notViews
    have unset : incremented store.row column = none := by
      cases column <;> first | rfl | contradiction
    exact (kept.fields column notStatus notViews).keep (assign_of_none unset)
      (edited_set found rfl)

theorem Kept.insert {userId : Nat} (kept : Kept start ⟨store, calls⟩)
    (found : calls[index]? = some (inserting userId)) :
    Kept start ⟨{ store with viewHistory := userId :: store.viewHistory },
      calls.set index (viewed userId)⟩ := by
  have same : viewers { store with viewHistory := userId :: store.viewHistory }
      (calls.set index (viewed userId)) = viewers store calls := by
    ext other
    rw [mem_viewers, mem_viewers, exists_set_iff found,
      exists_iff_self_or_another found, List.mem_cons]
    constructor
    · rintro ((rfl | old) | absent | another)
      · exact Or.inr (Or.inl rfl)
      · exact Or.inl old
      · contradiction
      · exact Or.inr (Or.inr another)
    · rintro (old | mine | another)
      · exact Or.inl (Or.inr old)
      · exact Or.inl (Or.inl (Option.some.inj mine).symm)
      · exact Or.inr (Or.inr another)
  refine ⟨kept.edits_set trivial, kept.status, ?_, ?_⟩
  · change store.row .viewsCount =
      (viewers { store with viewHistory := userId :: store.viewHistory }
        (calls.set index (viewed userId))).card
    rw [same]
    exact kept.views
  · intro column notStatus notViews
    exact (kept.fields column notStatus notViews).keep rfl (edited_set found rfl)

theorem leavesCounted_editedColumns (updateDto : UpdateListingDto) :
    LeavesCounted (editedColumns updateDto) :=
  ⟨rfl, rfl⟩

theorem Kept.step {config later : Config ListingStore ListingCall}
    {label : Move ListingCall ListingEnvironment} (kept : Kept start config)
    (current : ActsOnCurrent config label)
    (taken : listingSystem.step config label = some later) :
    Kept start later := by
  cases label with
  | spawn call =>
      obtain ⟨starts, rfl⟩ := System.step_spawn taken
      have arriving : call.Edits ∧ call.counting = none ∧ call.edited = none := by
        cases call <;> first | exact ⟨trivial, rfl, rfl⟩ | contradiction
      obtain ⟨mine, notCounting, notEdited⟩ := arriving
      refine ⟨?_, kept.status, ?_, ?_⟩
      · exact List.forall_mem_append.mpr
          ⟨kept.edits, List.forall_mem_singleton.mpr mine⟩
      · have same : viewers config.store (config.calls ++ [call]) =
            viewers config.store config.calls := by
          ext userId
          simp [mem_viewers, or_and_right, exists_or, notCounting]
        change config.store.row .viewsCount =
          (viewers config.store (config.calls ++ [call])).card
        rw [same]
        exact kept.views
      · intro column notStatus notViews
        refine (kept.fields column notStatus notViews).keep rfl fun patch => ?_
        simp [Edited, or_and_right, exists_or, notEdited]
  | act index environment =>
      obtain ⟨call, after, moved, found, moves, rfl⟩ := System.step_act taken
      have own := kept.edits call (mem_of_index found)
      have now : Kept start ⟨config.store, config.calls⟩ := kept
      simp only [ActsOnCurrent, found] at current
      cases effect_of_next moves with
      | find same =>
          subst same
          exact now.quiet found trivial rfl rfl rfl rfl rfl
      | miss same | hit same | fill same | read same | reject _ same
      | lost _ same | differ _ same | invalidate same | seen same | unseen same
      | deleteViewed same =>
          exact same ▸ now.quiet found trivial rfl rfl rfl rfl rfl
      | geocode same | prepare same =>
          exact same ▸ now.quiet found (leavesCounted_editedColumns _)
            rfl rfl rfl rfl rfl
      | locate same =>
          refine same ▸ now.quiet found ?_ rfl rfl rfl rfl rfl
          exact ⟨(overlay_of_none rfl).trans own.1,
            (overlay_of_none rfl).trans own.2⟩
      | delete deleted => exact deleted ▸ now.quiet found own rfl rfl rfl rfl rfl
      | save saved => exact saved ▸ now.save found current
      | same held settled => exact settled ▸ now.same found (current held)
      | saveStatus saved => exact saved ▸ now.saveStatus found current
      | increment saved =>
          exact saved ▸ now.increment found current.1 current.2
      | insert inserted => exact inserted ▸ now.insert found

end Step

end ListingCall

open ListingCall

/-- When all calls have returned, the listing has the status settled last, as
many views as viewers, and in every edited column the value of some edit. -/
theorem listing_updates_kept {start last : Config ListingStore ListingCall}
    (noCalls : start.calls = []) (noStatuses : start.store.statuses = [])
    (counted : start.store.row .viewsCount =
      start.store.viewHistory.toFinset.card)
    (run : Run listingSystem.step ActsOnCurrent start last)
    (returned : ∀ call ∈ last.calls, call.inFlight = false) :
    last.store.row .status =
        last.store.statuses.head?.getD (start.store.row .status) ∧
      last.store.row .viewsCount = last.store.viewHistory.toFinset.card ∧
        ∀ patch, Edited last.calls patch → ∀ column, patch column ≠ none →
          ∃ edit, Edited last.calls edit ∧
            edit column = some (last.store.row column) := by
  have starting : Kept start.store.row start := by
    have absent : ∀ call, call ∉ start.calls := by simp [noCalls]
    refine ⟨fun call present => absurd present (absent call), ?_, ?_, ?_⟩
    · rw [noStatuses]
      rfl
    · rw [counted, viewers, noCalls]
      simp
    · exact fun column _ _ => settled_start _ _
        (fun patch ⟨call, present, _⟩ => absent call present) column
  have kept : Kept start.store.row last :=
    Run.invariant (Kept start.store.row) starting
      (fun _ _ _ kept current taken => kept.step current taken) run
  have nobodyCounting : last.calls.filterMap counting = [] := by
    refine List.filterMap_eq_nil_iff.mpr fun call present => ?_
    have done := returned call present
    cases call <;> first | rfl | contradiction
  refine ⟨kept.status, ?_, ?_⟩
  · rw [kept.views, viewers, nobodyCounting]
    simp
  · rintro patch edited column sets
    obtain ⟨call, present, wrote⟩ := id edited
    have leaves : LeavesCounted patch := by
      have edits := kept.edits call present
      cases call <;> first | exact Option.some.inj wrote ▸ edits | contradiction
    have notStatus : column ≠ .status := by
      rintro rfl
      exact sets leaves.1
    have notViews : column ≠ .viewsCount := by
      rintro rfl
      exact sets leaves.2
    rcases kept.fields column notStatus notViews with ⟨_, unset⟩ | settled
    · exact absurd (unset patch edited) sets
    · exact settled

/-- Moves that are always allowed: nothing is saved, settled or counted. -/
private def movesQuietly (config : Config ListingStore ListingCall) :
    Move ListingCall ListingEnvironment → Bool
  | .spawn _ => true
  | .act index _ =>
      match config.calls[index]? with
      | some (saving _ _) | some (savingStatus _ _) => false
      | some (loaded (.updateStatus _) _) | some (incrementing _) => false
      | _ => true

private theorem actsOnCurrent_of_movesQuietly
    (config : Config ListingStore ListingCall)
    (label : Move ListingCall ListingEnvironment)
    (quiet : movesQuietly config label = true) : ActsOnCurrent config label := by
  cases label with
  | spawn call => exact trivial
  | act index environment =>
      simp only [movesQuietly] at quiet
      simp only [ActsOnCurrent]
      split at quiet <;> first | contradiction | trivial

private def garage : ListingRow :=
  createdRow 2 ⟨.garage, "Garage", none, [⟨500, .day⟩], ⟨30, 60⟩, some 1800,
    none, none, []⟩ "Moscow"

private def garageStart : Config ListingStore ListingCall :=
  ⟨⟨garage, none, [], []⟩, []⟩

private def titled : UpdateListingDto :=
  ⟨none, some "Warm garage", none, none, none, none, none, none, none⟩

private def zeroed : ListingEnvironment :=
  ⟨0, none⟩

/-- The whole row as a load finds it. -/
private def loadedFrom (row : ListingRow) : PartialListing :=
  select (fun _ => true) row

private theorem loadedFrom_current (patch : PartialListing) (row : ListingRow) :
    AgreesOutside patch (loadedFrom row) row :=
  fun column _ => agrees_select _ row column

private def retitled : ListingStore :=
  ListingStore.save ⟨garage, none, [], []⟩
    (overlay (loadedFrom garage) (editedColumns titled))

private def closed : ListingStore :=
  ((ListingStore.fill retitled 0 (loadedFrom retitled.row)).save
    (overlay (loadedFrom retitled.row) (statusColumn .inactive))).settle .inactive

/-- A new title, then a new status, and then a view. -/
theorem listing_updates_kept_sample :
    ∃ last, Run listingSystem.step ActsOnCurrent garageStart last ∧
      last.calls = [updated (editedColumns titled), statusUpdated .inactive,
        viewed 7] ∧
        last.store.row .status = .inactive ∧ last.store.row .viewsCount = 1 ∧
          last.store.row .title = "Warm garage" := by
  have edits : Run listingSystem.step ActsOnCurrent garageStart
      ⟨⟨garage, none, [], []⟩,
        [saving (editedColumns titled) (loadedFrom garage),
          loading (.updateStatus .inactive) .get, checkingView 7]⟩ :=
    Run.start.executeChecked movesQuietly actsOnCurrent_of_movesQuietly
      ([.spawn (loading (.update titled) .get),
        .spawn (loading (.updateStatus .inactive) .get),
        .spawn (checkingView 7)] ++ List.replicate 5 (.act 0 zeroed)) rfl
  have saved := edits.step (Move.act 0 zeroed) (loadedFrom_current _ _) rfl
  have loads : Run listingSystem.step ActsOnCurrent garageStart
      ⟨retitled.fill 0 (loadedFrom retitled.row),
        [updated (editedColumns titled),
          loaded (.updateStatus .inactive) (loadedFrom retitled.row),
          checkingView 7]⟩ :=
    saved.executeChecked movesQuietly actsOnCurrent_of_movesQuietly
      (List.replicate 3 (.act 1 zeroed)) rfl
  have differs := loads.step (Move.act 1 zeroed)
    (fun held => Option.some.inj held) rfl
  have closes := differs.step (Move.act 1 zeroed) (loadedFrom_current _ _) rfl
  have visits : Run listingSystem.step ActsOnCurrent garageStart
      ⟨closed.deleteCached, [updated (editedColumns titled),
        statusUpdated .inactive, incrementing 7]⟩ :=
    closes.executeChecked movesQuietly actsOnCurrent_of_movesQuietly
      [.act 1 zeroed, .act 2 zeroed] rfl
  have nobody : ¬ Another [updated (editedColumns titled),
      statusUpdated .inactive, incrementing 7] 2
        (fun other => other.counting = some 7) := by
    rintro ⟨j, other, _, stood, holds⟩
    have present := mem_of_index stood
    simp only [List.mem_cons, List.not_mem_nil, or_false] at present
    rcases present with rfl | rfl | rfl <;> contradiction
  have counted := visits.step (Move.act 2 zeroed)
    ⟨List.not_mem_nil, nobody⟩ rfl
  have returned : Run listingSystem.step ActsOnCurrent garageStart
      ⟨_, [updated (editedColumns titled), statusUpdated .inactive, viewed 7]⟩ :=
    counted.executeChecked movesQuietly actsOnCurrent_of_movesQuietly
      (List.replicate 2 (.act 2 zeroed)) rfl
  obtain ⟨status, views, fields⟩ :=
    listing_updates_kept rfl rfl rfl returned (by decide)
  refine ⟨_, returned, rfl, status, views, ?_⟩
  obtain ⟨edit, ⟨call, present, wrote⟩, gave⟩ :=
    fields (editedColumns titled) ⟨_, List.mem_cons_self, rfl⟩ .title
      (Option.some_ne_none _)
  simp only [List.mem_cons, List.not_mem_nil, or_false] at present
  rcases present with rfl | rfl | rfl
  · obtain rfl := Option.some.inj wrote
    exact (Option.some.inj gave).symm
  · contradiction
  · contradiction

/-- An edit that has loaded the listing before its status changes saves the old
status again. -/
theorem listing_status_lost :
    ¬ ∀ start last : Config ListingStore ListingCall,
      start.calls = [] → start.store.statuses = [] →
        start.store.row .viewsCount = start.store.viewHistory.toFinset.card →
          Reachable listingSystem.step start last →
            (∀ call ∈ last.calls, call.inFlight = false) →
              last.store.row .status =
                last.store.statuses.head?.getD (start.store.row .status) := by
  intro kept
  have reached := reachable_of_execute listingSystem.step garageStart
    ([.spawn (loading (.update titled) .get),
      .spawn (loading (.updateStatus .inactive) .get)] ++
        List.replicate 4 (.act 0 zeroed) ++ List.replicate 4 (.act 1 zeroed) ++
          List.replicate 2 (.act 0 zeroed)) rfl
  have active := kept _ _ rfl rfl rfl reached (by decide)
  contradiction

end SpareSpace
