import Mathlib.Logic.Basic

/-!
# Rows that carry names

A row of a table may carry a name, computed from its columns.  At most one row
carries each name.  Taking rows away keeps this; writing a row keeps it exactly
when none of the rows that stay carries the name of the written one.
-/

namespace NamedRows

variable {Row Name : Type*}

/-- No two rows carry one name. -/
def OneEach (name : Row → Option Name) (rows : List Row) : Prop :=
  ∀ first ∈ rows, ∀ second ∈ rows, ∀ shared,
    name first = some shared → name second = some shared → first = second

variable {name : Row → Option Name} {rows after : List Row}

theorem OneEach.nil (name : Row → Option Name) : OneEach name [] := by
  intro first present
  contradiction

theorem OneEach.of_subset (oneEach : OneEach name rows)
    (subset : ∀ row ∈ after, row ∈ rows) : OneEach name after :=
  fun first firstMem second secondMem =>
    oneEach first (subset first firstMem) second (subset second secondMem)

/-- A row is written beside the rows that stay. -/
theorem OneEach.write (oneEach : OneEach name rows) {written : Row}
    {stays : Row → Prop}
    (members : ∀ row ∈ after, row = written ∨ (row ∈ rows ∧ stays row))
    (free : ∀ row ∈ rows, stays row →
      ∀ shared, name written = some shared → name row ≠ some shared) :
    OneEach name after := by
  intro first firstMem second secondMem shared firstName secondName
  rcases members first firstMem with rfl | ⟨firstOld, firstStays⟩
  · rcases members second secondMem with rfl | ⟨secondOld, secondStays⟩
    · rfl
    · exact absurd secondName (free second secondOld secondStays shared firstName)
  · rcases members second secondMem with rfl | ⟨secondOld, _⟩
    · exact absurd firstName (free first firstOld firstStays shared secondName)
    · exact oneEach first firstOld second secondOld shared firstName secondName

/-- A row is added whose name no row carries. -/
theorem OneEach.add (oneEach : OneEach name rows) {added : Row}
    (members : ∀ row ∈ after, row ∈ rows ∨ row = added)
    (free : ∀ row ∈ rows, ∀ shared, name added = some shared →
      name row ≠ some shared) : OneEach name after := by
  refine @OneEach.write _ _ name rows after oneEach added (fun _ => True)
    (fun row present => ?_) fun row present _ => free row present
  rcases members row present with old | new
  · exact Or.inr ⟨old, trivial⟩
  · exact Or.inl new

end NamedRows
