import Mathlib.Data.List.Nodup
import Mathlib.Data.List.Sort

/-!
# Pages of rows in descending order

A query orders the rows that it selects by a key, latest first, and returns a window of
them with the number of all of them.  Rows of one key may come in any order.  When the
keys are pairwise different there is only one order, so that two pages asked for at
different times agree.
-/

namespace PagedQueries

variable {Row : Type*}

/-- How a database answers `ORDER BY key DESC`. -/
structure Descending (key : Row → Int) where
  order : List Row → List Row
  perm : ∀ rows, (order rows).Perm rows
  descends : ∀ rows, (order rows).Pairwise fun first second => key second ≤ key first

/-- `take` and `skip`; a `take` of zero is no limit. -/
def window (limit offset : Nat) (rows : List Row) : List Row :=
  if limit = 0 then
    rows.drop offset
  else
    (rows.drop offset).take limit

/-- The window of the ordered rows and the number of rows, as a paged query gives them. -/
def pageAndCount {key : Row → Int} (descending : Descending key) (rows : List Row)
    (limit offset : Nat) : List Row × Nat :=
  (window limit offset (descending.order rows), rows.length)

variable {key : Row → Int}

/-- The order that sorts the rows and leaves rows of one key as they come. -/
def Descending.stable (key : Row → Int) : Descending key where
  order rows := rows.mergeSort fun first second => decide (key second ≤ key first)
  perm rows := List.mergeSort_perm rows _
  descends rows := by
    have sorted := @List.pairwise_mergeSort Row
      (fun first second => decide (key second ≤ key first)) ?_ ?_ rows
    · exact sorted.imp fun {first second} holds => of_decide_eq_true holds
    · intro first second third below above
      rw [decide_eq_true_eq] at *
      omega
    · intro first second
      rw [Bool.or_eq_true, decide_eq_true_eq, decide_eq_true_eq]
      omega

/-- Rows of pairwise different keys have only one order. -/
theorem Descending.order_unique (first second : Descending key) {rows : List Row}
    (distinct : (rows.map key).Nodup) : first.order rows = second.order rows := by
  have perm := (first.perm rows).trans (second.perm rows).symm
  apply perm.eq_of_pairwise _ (first.descends rows) (second.descends rows)
  intro one other oneMem otherMem atMost atLeast
  apply List.inj_on_of_nodup_map distinct
  · exact (first.perm rows).mem_iff.mp oneMem
  · exact (second.perm rows).mem_iff.mp otherMem
  · omega

/-- Of rows of pairwise different keys, two queries show the same page. -/
theorem pageAndCount_unique (first second : Descending key) {rows : List Row}
    (distinct : (rows.map key).Nodup) (limit offset : Nat) :
    pageAndCount first rows limit offset = pageAndCount second rows limit offset := by
  unfold pageAndCount
  rw [first.order_unique second distinct]

theorem window_subset (limit offset : Nat) (rows : List Row) :
    window limit offset rows ⊆ rows := by
  unfold window
  split
  · exact List.drop_subset offset rows
  · exact fun row present => List.mem_of_mem_drop (List.mem_of_mem_take present)

/-- Every row of a page is one of the rows that the query selects. -/
theorem mem_of_mem_page (descending : Descending key) {rows : List Row} {limit offset : Nat}
    {row : Row} (present : row ∈ (pageAndCount descending rows limit offset).1) :
    row ∈ rows :=
  (descending.perm rows).mem_iff.mp (window_subset _ _ _ present)

/-- Every row that the query selects is on some page. -/
theorem exists_page_iff (descending : Descending key) {rows : List Row} {limit : Nat}
    (positive : 0 < limit) {row : Row} :
    (∃ offset, row ∈ (pageAndCount descending rows limit offset).1) ↔ row ∈ rows := by
  constructor
  · rintro ⟨offset, present⟩
    exact mem_of_mem_page descending present
  · intro selected
    have ordered := (descending.perm rows).mem_iff.mpr selected
    obtain ⟨index, inside, rfl⟩ := List.getElem_of_mem ordered
    refine ⟨index, ?_⟩
    unfold pageAndCount window
    rw [if_neg (Nat.ne_of_gt positive), List.drop_eq_getElem_cons inside]
    obtain ⟨rest, rfl⟩ : ∃ rest, limit = rest + 1 := ⟨limit - 1, by omega⟩
    exact List.mem_cons_self

end PagedQueries
