import Mathlib.Data.Set.Lattice
import Mathlib.Order.CompletePartialOrder
import Mathlib.Order.Interval.Set.Basic
import Mathlib.Order.Interval.Set.LinearOrder
import Mathlib.Order.Lattice
import Mathlib.Order.MinMax

/-!
# Half-open spans and their subtraction

A span is a half-open interval of a linear order given by its two ends.
Cutting busy spans out of free ones yields pieces; a span fits into one of
the pieces exactly when it fits into a free span and meets no busy one.
-/

/-- The half-open interval from `start` up to, but not including, `stop`. -/
structure Span (α : Type*) where
  start : α
  stop : α
  deriving DecidableEq, Repr

namespace Span

variable {α : Type*} [LinearOrder α]

/-- The points of a span. -/
def toSet (span : Span α) : Set α :=
  Set.Ico span.start span.stop

/-- The later start lies before the earlier stop. -/
def Overlaps (first second : Span α) : Prop :=
  max first.start second.start < min first.stop second.stop

instance (first second : Span α) : Decidable (first.Overlaps second) :=
  inferInstanceAs (Decidable (_ < _))

/-- The ends of the first span lie between the ends of the second. -/
def Within (inner outer : Span α) : Prop :=
  outer.start ≤ inner.start ∧ inner.stop ≤ outer.stop

instance (inner outer : Span α) : Decidable (inner.Within outer) :=
  inferInstanceAs (Decidable (_ ∧ _))

theorem overlaps_comm {first second : Span α} :
    first.Overlaps second ↔ second.Overlaps first := by
  unfold Overlaps
  rw [max_comm, min_comm]

/-- Spans overlap exactly when they have a point in common. -/
theorem overlaps_iff_not_disjoint {first second : Span α} :
    first.Overlaps second ↔ ¬ Disjoint first.toSet second.toSet := by
  unfold Overlaps toSet
  rw [Set.disjoint_iff_inter_eq_empty, Set.Ico_inter_Ico, Set.Ico_eq_empty_iff,
    not_not]

theorem disjoint_of_not_overlaps {first second : Span α}
    (apart : ¬ first.Overlaps second) :
    Disjoint first.toSet second.toSet := by
  rwa [overlaps_iff_not_disjoint, not_not] at apart

theorem overlaps_iff_of_nonempty {first second : Span α}
    (firstNonempty : first.start < first.stop)
    (secondNonempty : second.start < second.stop) :
    first.Overlaps second ↔
      first.start < second.stop ∧ second.start < first.stop := by
  simp only [Overlaps, lt_min_iff, max_lt_iff]
  tauto

/-- A non-empty span lies within another exactly when its points do. -/
theorem within_iff_subset {inner outer : Span α}
    (nonempty : inner.start < inner.stop) :
    inner.Within outer ↔ inner.toSet ⊆ outer.toSet :=
  (Set.Ico_subset_Ico_iff nonempty).symm

/-- Cut one busy span out of one free span. -/
def cut (busy piece : Span α) : List (Span α) :=
  if busy.start ≥ piece.stop ∨ busy.stop ≤ piece.start then
    [piece]
  else
    (if piece.start < busy.start then [⟨piece.start, busy.start⟩] else []) ++
      (if piece.stop > busy.stop then [⟨busy.stop, piece.stop⟩] else [])

/-- Cut one busy span out of every free span, keeping their order. -/
def cutEach (free : List (Span α)) (busy : Span α) : List (Span α) :=
  free.flatMap (cut busy)

variable {span piece busy : Span α}

theorem within_of_mem_cut {part : Span α} (partMem : part ∈ cut busy piece)
    (fits : span.Within part) : span.Within piece := by
  unfold cut at partMem
  split at partMem
  · rw [List.mem_singleton.mp partMem] at fits
    exact fits
  · next meets =>
      rw [not_or, not_le, not_le] at meets
      rcases List.mem_append.mp partMem with left | right
      · split at left
        · rw [List.mem_singleton.mp left] at fits
          exact ⟨fits.1, fits.2.trans meets.1.le⟩
        · simp at left
      · split at right
        · rw [List.mem_singleton.mp right] at fits
          exact ⟨meets.2.le.trans fits.1, fits.2⟩
        · simp at right

theorem not_overlaps_of_mem_cut {part : Span α} (partMem : part ∈ cut busy piece)
    (fits : span.Within part) : ¬ span.Overlaps busy := by
  intro meets
  simp only [Overlaps, lt_min_iff, max_lt_iff] at meets
  obtain ⟨⟨_, after⟩, before, _⟩ := meets
  unfold cut at partMem
  split at partMem
  · next apart =>
      rw [List.mem_singleton.mp partMem] at fits
      rcases apart with later | earlier
      · exact absurd (after.trans_le (fits.2.trans later)) (lt_irrefl _)
      · exact absurd (before.trans_le (earlier.trans fits.1)) (lt_irrefl _)
  · rcases List.mem_append.mp partMem with left | right
    · split at left
      · rw [List.mem_singleton.mp left] at fits
        exact absurd (after.trans_le fits.2) (lt_irrefl _)
      · simp at left
    · split at right
      · rw [List.mem_singleton.mp right] at fits
        exact absurd (before.trans_le fits.1) (lt_irrefl _)
      · simp at right

/-- A span that fits into the free span and avoids the busy one fits into one
of the pieces, because it lies on one side of the busy span. -/
theorem exists_mem_cut (nonempty : span.start < span.stop)
    (busyNonempty : busy.start < busy.stop) (fits : span.Within piece)
    (apart : ¬ span.Overlaps busy) :
    ∃ part ∈ cut busy piece, span.Within part := by
  rw [overlaps_iff_of_nonempty nonempty busyNonempty, not_and_or, not_lt,
    not_lt] at apart
  unfold cut
  split
  · exact ⟨piece, List.mem_singleton_self _, fits⟩
  · rcases apart with after | before
    · have room : piece.stop > busy.stop :=
        (after.trans_lt nonempty).trans_le fits.2
      exact ⟨⟨busy.stop, piece.stop⟩, by simp [room], after, fits.2⟩
    · have room : piece.start < busy.start :=
        fits.1.trans_lt (nonempty.trans_le before)
      exact ⟨⟨piece.start, busy.start⟩, by simp [room], fits.1, before⟩

/-- A non-empty span fits into one of the pieces exactly when it fits into one
of the free spans and does not overlap the busy span. -/
theorem within_cutEach_iff {free : List (Span α)}
    (nonempty : span.start < span.stop)
    (busyNonempty : busy.start < busy.stop) :
    (∃ part ∈ cutEach free busy, span.Within part) ↔
      (∃ part ∈ free, span.Within part) ∧ ¬ span.Overlaps busy := by
  constructor
  · rintro ⟨part, partMem, fits⟩
    obtain ⟨whole, wholeMem, cutMem⟩ := List.mem_flatMap.mp partMem
    exact ⟨⟨whole, wholeMem, within_of_mem_cut cutMem fits⟩,
      not_overlaps_of_mem_cut cutMem fits⟩
  · rintro ⟨⟨whole, wholeMem, fits⟩, apart⟩
    obtain ⟨part, partMem, fitsPart⟩ :=
      exists_mem_cut nonempty busyNonempty fits apart
    exact ⟨part, List.mem_flatMap.mpr ⟨whole, wholeMem, partMem⟩, fitsPart⟩

/-- Spans that only a busy span's part from a point on can meet do not notice
when the busy span is cut off at that point. -/
theorem overlaps_max_start_iff {point : α} (late : point ≤ span.start) :
    span.Overlaps ⟨max busy.start point, busy.stop⟩ ↔ span.Overlaps busy := by
  simp only [Overlaps]
  rw [← max_assoc, max_assoc, max_comm busy.start, ← max_assoc,
    max_eq_left late]

end Span
