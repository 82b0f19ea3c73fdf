import Mathlib.Logic.Basic

/-!
# Records and partial records by column

A record has a value of its own type in every column; a patch has values in
some columns.  Writing a patch over a record changes the columns the patch
sets and no others.  An entity that has been loaded and then changed is a
patch over a patch, and saving it is the same as writing its changes alone
exactly when the rest of it is what the record still holds.
-/

namespace ColumnRecords

variable {Column : Type*} {Value : Column → Type*}

abbrev Record (Value : Column → Type*) := ∀ column, Value column

abbrev Patch (Value : Column → Type*) := ∀ column, Option (Value column)

/-- The record with the columns of a patch written over. -/
def assign (record : Record Value) (patch : Patch Value) : Record Value :=
  fun column => (patch column).getD (record column)

/-- The patch with the columns of a later patch put over its own. -/
def overlay (entity patch : Patch Value) : Patch Value :=
  fun column => (patch column).or (entity column)

/-- The columns of a record that a selection names. -/
def select (columns : Column → Bool) (record : Record Value) : Patch Value :=
  fun column => if columns column then some (record column) else none

/-- Whatever the patch has is what the record holds. -/
def Agrees (patch : Patch Value) (record : Record Value) : Prop :=
  ∀ column value, patch column = some value → record column = value

/-- Outside the columns a second patch sets, the first has only what the
record holds. -/
def AgreesOutside (changes entity : Patch Value) (record : Record Value) :
    Prop :=
  ∀ column, changes column = none →
    ∀ value, entity column = some value → record column = value

/-- No column is set by both patches. -/
def Disjoint (first second : Patch Value) : Prop :=
  ∀ column, first column = none ∨ second column = none

instance : Std.Symm (@Disjoint Column Value) :=
  ⟨fun _ _ apart column => (apart column).symm⟩

variable {record : Record Value} {entity patch : Patch Value} {column : Column}

theorem assign_of_none (unset : patch column = none) :
    assign record patch column = record column := by
  simp [assign, unset]

theorem assign_of_some {value : Value column}
    (sets : patch column = some value) :
    assign record patch column = value := by
  simp [assign, sets]

theorem overlay_of_none (unset : patch column = none) :
    overlay entity patch column = entity column := by
  simp [overlay, unset]

theorem overlay_of_some {value : Value column}
    (sets : patch column = some value) :
    overlay entity patch column = some value := by
  simp [overlay, sets]

theorem agrees_select (columns : Column → Bool) (record : Record Value) :
    Agrees (select columns record) record := by
  intro column value selected
  unfold select at selected
  split at selected
  · exact Option.some.inj selected
  · contradiction

/-- Writing what the record holds changes nothing. -/
theorem assign_of_agrees (agrees : Agrees patch record) : assign record patch = record := by
  funext column
  cases sets : patch column with
  | none => exact assign_of_none sets
  | some value => rw [assign_of_some sets, agrees column value sets]

/-- Saving an entity whose unchanged columns are current writes its changes
only. -/
theorem assign_overlay (current : AgreesOutside patch entity record) :
    assign record (overlay entity patch) = assign record patch := by
  funext column
  cases sets : patch column with
  | some value =>
      rw [assign_of_some (overlay_of_some sets), assign_of_some sets]
  | none =>
      rw [assign_of_none sets]
      cases loaded : entity column with
      | none => exact assign_of_none (by rw [overlay_of_none sets, loaded])
      | some value =>
          rw [assign_of_some (by rw [overlay_of_none sets, loaded])]
          exact (current column sets value loaded).symm

section Settled

variable (start row : Record Value) (written : Patch Value → Prop)

/-- The column holds a value that one of the written patches gave it, or, when
none of them sets it, what it held at the start. -/
def SettledAt (column : Column) : Prop :=
  (row column = start column ∧ ∀ patch, written patch → patch column = none) ∨
    ∃ patch, written patch ∧ patch column = some (row column)

/-- Every column is settled. -/
def Settled : Prop :=
  ∀ column, SettledAt start row written column

theorem settled_start (nothing : ∀ patch, ¬ written patch) :
    Settled start start written :=
  fun _ => Or.inl ⟨rfl, fun patch wrote => absurd wrote (nothing patch)⟩

variable {start row written}

/-- Writing one more patch keeps a column accounted for. -/
theorem SettledAt.assign {later : Patch Value → Prop} (patch : Patch Value)
    (settled : SettledAt start row written column)
    (grows : ∀ other, later other ↔ written other ∨ other = patch) :
    SettledAt start (assign row patch) later column := by
  cases sets : patch column with
  | some value =>
      exact Or.inr ⟨patch, (grows patch).mpr (Or.inr rfl),
        by rw [sets, assign_of_some sets]⟩
  | none =>
      unfold SettledAt
      rw [assign_of_none sets]
      rcases settled with ⟨same, unset⟩ | ⟨other, wrote, gave⟩
      · refine Or.inl ⟨same, fun other wrote => ?_⟩
        rcases (grows other).mp wrote with old | rfl
        · exact unset other old
        · exact sets
      · exact Or.inr ⟨other, (grows other).mpr (Or.inl wrote), gave⟩

/-- A change that neither the column nor the written patches see. -/
theorem SettledAt.keep {later : Patch Value → Prop} {after : Record Value}
    (settled : SettledAt start row written column)
    (kept : after column = row column)
    (same : ∀ patch, later patch ↔ written patch) :
    SettledAt start after later column := by
  unfold SettledAt
  rw [kept]
  rcases settled with ⟨unchanged, unset⟩ | ⟨patch, wrote, gave⟩
  · exact Or.inl ⟨unchanged, fun patch wrote => unset patch ((same patch).mp wrote)⟩
  · exact Or.inr ⟨patch, (same patch).mpr wrote, gave⟩

/-- If no two of the written patches set one column, the row has the values of
each of them. -/
theorem Settled.holds (settled : Settled start row written)
    (apart : ∀ first, written first → ∀ second, written second →
      first ≠ second → Disjoint first second)
    {patch : Patch Value} (wrote : written patch) {column : Column}
    {value : Value column} (sets : patch column = some value) :
    row column = value := by
  rcases settled column with ⟨_, unset⟩ | ⟨other, wroteOther, gave⟩
  · rw [unset patch wrote] at sets
    contradiction
  · by_cases same : patch = other
    · rw [same, gave] at sets
      exact Option.some.inj sets
    · rcases apart patch wrote other wroteOther same column with unset | unset
      · rw [unset] at sets
        contradiction
      · rw [unset] at gave
        contradiction

end Settled

end ColumnRecords
