import Mathlib.Data.List.Nodup
import Mathlib.Algebra.BigOperators.Group.List.Basic
import Mathlib.Tactic.Abel

/-!
# Tables of rows with a serial primary key

A table keeps its rows in insertion order together with the next value of its
key sequence.  That keys are pairwise different and below the sequence value
is part of the type, so no operation can build a table with a repeated key.
Saving a row is an upsert by key; sums over the rows change by the difference
between the new and the old row.
-/

/-- Rows with pairwise different keys, all below the next key of the
sequence. -/
structure KeyedTable (Row : Type*) (key : Row → Nat) where
  rows : List Row
  nextId : Nat
  nodup : (rows.map key).Nodup
  fresh : ∀ row ∈ rows, key row < nextId

namespace KeyedTable

variable {Row : Type*} {key : Row → Nat}

/-- The table with no rows and a sequence starting at one. -/
def empty : KeyedTable Row key :=
  ⟨[], 1, by simp, by simp⟩

def find? (table : KeyedTable Row key) (id : Nat) : Option Row :=
  table.rows.find? fun row => key row == id

/-- Append the row made for the next key of the sequence. -/
def insert (table : KeyedTable Row key) (make : Nat → Row)
    (keyed : ∀ id, key (make id) = id) : KeyedTable Row key where
  rows := table.rows ++ [make table.nextId]
  nextId := table.nextId + 1
  nodup := by
    rw [List.map_append, List.nodup_append]
    refine ⟨table.nodup, by simp, ?_⟩
    intro first firstMem second secondMem same
    obtain ⟨row, rowMem, rfl⟩ := List.mem_map.mp firstMem
    simp only [List.map_cons, List.map_nil, List.mem_singleton, keyed] at secondMem
    have := table.fresh row rowMem
    omega
  fresh := by
    intro row rowMem
    rcases List.mem_append.mp rowMem with old | new
    · exact Nat.lt_succ_of_lt (table.fresh row old)
    · rw [List.mem_singleton.mp new, keyed]
      exact Nat.lt_succ_self _

private theorem map_key_replace (row : Row) (rows : List Row) :
    (rows.map fun old => if key old = key row then row else old).map key =
      rows.map key := by
  rw [List.map_map]
  apply List.map_congr_left
  intro old _
  simp only [Function.comp_apply]
  split
  · next same => exact same.symm
  · rfl

/-- Replace the row with the same key, or add the row when there is none. -/
def save (table : KeyedTable Row key) (row : Row) : KeyedTable Row key :=
  if present : key row ∈ table.rows.map key then
    { rows := table.rows.map fun old => if key old = key row then row else old
      nextId := table.nextId
      nodup := by rw [map_key_replace]; exact table.nodup
      fresh := by
        intro other otherMem
        have otherKey : key other ∈ table.rows.map key := by
          rw [← map_key_replace row]
          exact List.mem_map_of_mem otherMem
        obtain ⟨old, oldMem, same⟩ := List.mem_map.mp otherKey
        exact same ▸ table.fresh old oldMem }
  else
    { rows := table.rows ++ [row]
      nextId := max table.nextId (key row + 1)
      nodup := by
        rw [List.map_append, List.nodup_append]
        refine ⟨table.nodup, by simp, ?_⟩
        intro first firstMem second secondMem same
        simp only [List.map_cons, List.map_nil, List.mem_singleton] at secondMem
        exact present (secondMem ▸ same ▸ firstMem)
      fresh := by
        intro other otherMem
        rcases List.mem_append.mp otherMem with old | new
        · have := table.fresh other old
          omega
        · rw [List.mem_singleton.mp new]
          omega }

def remove (table : KeyedTable Row key) (id : Nat) : KeyedTable Row key where
  rows := table.rows.filter fun row => key row != id
  nextId := table.nextId
  nodup := (List.filter_sublist.map key).nodup table.nodup
  fresh := fun row rowMem => table.fresh row (List.mem_of_mem_filter rowMem)

/-- Change every row by a function that keeps its key. -/
def mapRows (table : KeyedTable Row key) (change : Row → Row)
    (keeps : ∀ row, key (change row) = key row) : KeyedTable Row key where
  rows := table.rows.map change
  nextId := table.nextId
  nodup := by
    rw [List.map_map, show key ∘ change = key from funext keeps]
    exact table.nodup
  fresh := by
    intro row rowMem
    obtain ⟨old, oldMem, rfl⟩ := List.mem_map.mp rowMem
    rw [keeps]
    exact table.fresh old oldMem

/-- Remove the rows that meet a condition. -/
def deleteWhere (table : KeyedTable Row key) (condition : Row → Bool) :
    KeyedTable Row key where
  rows := table.rows.filter fun row => !condition row
  nextId := table.nextId
  nodup := (List.filter_sublist.map key).nodup table.nodup
  fresh := fun row rowMem => table.fresh row (List.mem_of_mem_filter rowMem)

section Lookup

variable (table : KeyedTable Row key)

theorem key_of_find? {id : Nat} {row : Row} (found : table.find? id = some row) :
    key row = id := by
  simpa using List.find?_some found

theorem mem_of_find? {id : Nat} {row : Row} (found : table.find? id = some row) :
    row ∈ table.rows :=
  List.mem_of_find?_eq_some found

theorem lt_of_find? {id : Nat} {row : Row} (found : table.find? id = some row) :
    id < table.nextId :=
  table.key_of_find? found ▸ table.fresh row (table.mem_of_find? found)

/-- A key names at most one row. -/
theorem eq_of_key_eq {first second : Row} (firstMem : first ∈ table.rows)
    (secondMem : second ∈ table.rows) (same : key first = key second) :
    first = second :=
  List.inj_on_of_nodup_map table.nodup firstMem secondMem same

@[simp]
theorem find?_key_of_mem {row : Row} (rowMem : row ∈ table.rows) :
    table.find? (key row) = some row := by
  cases found : table.find? (key row) with
  | none =>
      have := List.find?_eq_none.mp found row rowMem
      simp at this
  | some other =>
      have same := table.key_of_find? found
      rw [table.eq_of_key_eq (table.mem_of_find? found) rowMem same]

theorem find?_eq_some_iff {id : Nat} {row : Row} :
    table.find? id = some row ↔ row ∈ table.rows ∧ key row = id := by
  constructor
  · intro found
    exact ⟨table.mem_of_find? found, table.key_of_find? found⟩
  · rintro ⟨rowMem, rfl⟩
    exact table.find?_key_of_mem rowMem

theorem find?_isSome_iff {id : Nat} :
    (table.find? id).isSome ↔ id ∈ table.rows.map key := by
  rw [Option.isSome_iff_exists, List.mem_map]
  simp only [find?_eq_some_iff]

theorem find?_nextId : table.find? table.nextId = none := by
  cases found : table.find? table.nextId with
  | none => rfl
  | some row => exact absurd (table.lt_of_find? found) (lt_irrefl _)

end Lookup

section Updates

variable (table : KeyedTable Row key)

theorem mem_save_iff {row other : Row} :
    other ∈ (table.save row).rows ↔
      other = row ∨ (other ∈ table.rows ∧ key other ≠ key row) := by
  unfold save
  split
  · next present =>
      obtain ⟨old, oldMem, same⟩ := List.mem_map.mp present
      simp only [List.mem_map]
      constructor
      · rintro ⟨third, thirdMem, rfl⟩
        split
        · exact Or.inl rfl
        · next different => exact Or.inr ⟨thirdMem, different⟩
      · rintro (rfl | ⟨otherMem, different⟩)
        · exact ⟨old, oldMem, by simp [same]⟩
        · exact ⟨other, otherMem, by simp [different]⟩
  · next absent =>
      simp only [List.mem_append, List.mem_singleton]
      constructor
      · rintro (old | rfl)
        · exact Or.inr ⟨old, fun same =>
            absent (same ▸ List.mem_map_of_mem old)⟩
        · exact Or.inl rfl
      · rintro (rfl | ⟨otherMem, _⟩)
        · exact Or.inr rfl
        · exact Or.inl otherMem

@[simp]
theorem find?_save (row : Row) (id : Nat) :
    (table.save row).find? id = if id = key row then some row else table.find? id := by
  split
  · next same =>
      rw [find?_eq_some_iff, mem_save_iff]
      exact ⟨Or.inl rfl, same.symm⟩
  · next different =>
      cases found : table.find? id with
      | none =>
          rw [Option.eq_none_iff_forall_ne_some]
          intro other otherFound
          obtain ⟨otherMem, otherKey⟩ := (find?_eq_some_iff _).mp otherFound
          rcases (table.mem_save_iff).mp otherMem with rfl | ⟨old, _⟩
          · exact different otherKey.symm
          · rw [← otherKey, table.find?_key_of_mem old] at found
            contradiction
      | some other =>
          obtain ⟨otherMem, otherKey⟩ := (find?_eq_some_iff _).mp found
          rw [find?_eq_some_iff, mem_save_iff]
          exact ⟨Or.inr ⟨otherMem, fun same => different (otherKey ▸ same)⟩, otherKey⟩

/-- Saving a row as it is stored changes nothing. -/
theorem save_of_mem {row : Row} (rowMem : row ∈ table.rows) :
    table.save row = table := by
  have unchanged : (table.rows.map fun old =>
      if key old = key row then row else old) = table.rows := by
    refine (List.map_congr_left fun old oldMem => ?_).trans (List.map_id _)
    split
    · next same => exact table.eq_of_key_eq rowMem oldMem same.symm
    · rfl
  simp [save, List.mem_map_of_mem rowMem, unchanged]

@[simp]
theorem nextId_save_of_find? {row old : Row}
    (found : table.find? (key row) = some old) :
    (table.save row).nextId = table.nextId := by
  have present : key row ∈ table.rows.map key :=
    table.find?_isSome_iff.mp (by simp [found])
  simp [save, present]

theorem rows_save_of_isSome {row : Row}
    (present : (table.find? (key row)).isSome) :
    (table.save row).rows =
      table.rows.map fun old => if key old = key row then row else old := by
  rw [find?_isSome_iff] at present
  simp [save, present]

/-- Of two writes of one row the second counts. -/
theorem save_save {row second : Row} (same : key second = key row)
    (present : (table.find? (key row)).isSome) :
    (table.save row).save second = table.save second := by
  obtain ⟨old, found⟩ := Option.isSome_iff_exists.mp present
  have rows : ((table.save row).save second).rows = (table.save second).rows := by
    rw [rows_save_of_isSome _ (by simp [same]), rows_save_of_isSome _ present,
      rows_save_of_isSome _ (same ▸ present), List.map_map]
    refine List.map_congr_left fun other _ => ?_
    simp only [Function.comp_apply, same]
    split <;> simp_all
  have nextId : ((table.save row).save second).nextId = (table.save second).nextId := by
    have written : (table.save row).find? (key second) = some row := by simp [same]
    rw [nextId_save_of_find? _ written, nextId_save_of_find? _ found,
      nextId_save_of_find? _ (same ▸ found)]
  cases first : (table.save row).save second
  cases second : table.save second
  simp_all

theorem le_nextId_save (row : Row) : table.nextId ≤ (table.save row).nextId := by
  unfold save
  split
  · exact le_rfl
  · exact le_max_left _ _

variable (make : Nat → Row) (keyed : ∀ id, key (make id) = id)

theorem mem_insert_iff {row : Row} :
    row ∈ (table.insert make keyed).rows ↔
      row ∈ table.rows ∨ row = make table.nextId := by
  simp [insert]

@[simp]
theorem find?_insert (id : Nat) :
    (table.insert make keyed).find? id =
      if id = table.nextId then some (make table.nextId) else table.find? id := by
  unfold find? insert
  rw [List.find?_append]
  split
  · next same =>
      have absent := table.find?_nextId
      unfold find? at absent
      simp [same, absent, keyed]
  · next different =>
      simp [keyed, Ne.symm different]

/-- Removing the row just inserted restores the rows. -/
theorem rows_remove_insert :
    ((table.insert make keyed).remove table.nextId).rows = table.rows := by
  simp only [insert, remove, List.filter_append, List.filter_cons, keyed, bne_self_eq_false]
  simp only [Bool.false_eq_true, ite_false, List.filter_nil, List.append_nil]
  rw [List.filter_eq_self]
  intro row rowMem
  have := table.fresh row rowMem
  simp only [bne_iff_ne, ne_eq]
  omega

@[simp]
theorem find?_remove (id other : Nat) :
    (table.remove id).find? other = if other = id then none else table.find? other := by
  unfold find? remove
  rw [List.find?_filter]
  split
  · next same =>
      subst same
      rw [List.find?_eq_none]
      intro row _
      simp
  · next different =>
      congr 1
      funext row
      by_cases same : key row = other
      · simp [same, different]
      · simp [same]

theorem mem_deleteWhere_iff {condition : Row → Bool} {row : Row} :
    row ∈ (table.deleteWhere condition).rows ↔
      row ∈ table.rows ∧ condition row = false := by
  simp [deleteWhere]

variable (change : Row → Row) (keeps : ∀ row, key (change row) = key row)

@[simp]
theorem find?_mapRows (id : Nat) :
    (table.mapRows change keeps).find? id = (table.find? id).map change := by
  simp only [find?, mapRows, List.find?_map, Function.comp_def, keeps]

end Updates

section Totals

variable {M : Type*} [AddCommGroup M] (table : KeyedTable Row key)
  (weight : Row → M)

/-- The sum of a weight over all rows. -/
def total : M :=
  (table.rows.map weight).sum

private theorem sum_replace {rows : List Row} {old : Row} (row : Row)
    (nodup : (rows.map key).Nodup) (oldMem : old ∈ rows)
    (same : key old = key row) :
    ((rows.map fun other => if key other = key row then row else other).map
      weight).sum = (rows.map weight).sum - weight old + weight row := by
  induction rows with
  | nil => simp at oldMem
  | cons first rest ih =>
      simp only [List.map_cons, List.nodup_cons, List.sum_cons] at nodup ⊢
      rcases List.mem_cons.mp oldMem with rfl | later
      · have others : (rest.map fun other =>
            if key other = key row then row else other) = rest := by
          conv_rhs => rw [← List.map_id rest]
          apply List.map_congr_left
          intro other otherMem
          have different : key other ≠ key row := fun sameKey =>
            nodup.1 (List.mem_map.mpr ⟨other, otherMem, sameKey.trans same.symm⟩)
          simp [different]
        rw [others, if_pos same]
        abel
      · have different : key first ≠ key row := fun sameKey =>
          nodup.1 (List.mem_map.mpr ⟨old, later, same.trans sameKey.symm⟩)
        rw [if_neg different, ih nodup.2 later]
        abel

theorem total_save_of_find? {row old : Row}
    (found : table.find? (key row) = some old) :
    (table.save row).total weight =
      table.total weight - weight old + weight row := by
  have present : key row ∈ table.rows.map key :=
    table.find?_isSome_iff.mp (by simp [found])
  simp only [total, save, present, dite_true]
  exact sum_replace weight row table.nodup (table.mem_of_find? found)
    (table.key_of_find? found)

@[simp]
theorem total_insert (make : Nat → Row) (keyed : ∀ id, key (make id) = id) :
    (table.insert make keyed).total weight =
      table.total weight + weight (make table.nextId) := by
  simp [total, insert]

end Totals

end KeyedTable
