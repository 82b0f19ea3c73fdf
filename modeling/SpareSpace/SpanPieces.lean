import SpareSpace.HalfOpenSpans
import Mathlib.Data.List.Pairwise

/-!
# The pieces of a set of points

A list of spans decomposes a set when the spans are non-empty, follow one another
with a gap between them, and together have the points of the set.  The spans of
such a list are exactly the maximal non-empty spans inside the set, so a set has at
most one decomposition.  Cutting a busy span out of every span of a decomposition
decomposes what is left of the set.
-/

namespace Span

variable {α : Type*} [LinearOrder α]

/-- A non-empty span inside a set that no other span inside the set contains. -/
structure IsMaximalIn (points : Set α) (span : Span α) : Prop where
  nonempty : span.start < span.stop
  inside : span.toSet ⊆ points
  maximal : ∀ other : Span α, span.toSet ⊆ other.toSet → other.toSet ⊆ points →
    other = span

/-- The points of some span of a list. -/
def pointsOf (spans : List (Span α)) : Set α :=
  {point | ∃ span ∈ spans, point ∈ span.toSet}

/-- The spans are non-empty, in increasing order with gaps, and have the points of
the set. -/
structure Decomposes (points : Set α) (spans : List (Span α)) : Prop where
  nonempty : ∀ span ∈ spans, span.start < span.stop
  apart : spans.Pairwise fun first second => first.stop < second.start
  covers : pointsOf spans = points

variable {points : Set α} {spans : List (Span α)} {span busy piece : Span α}

@[simp]
theorem mem_toSet {point : α} :
    point ∈ span.toSet ↔ span.start ≤ point ∧ point < span.stop :=
  Iff.rfl

/-- Non-empty spans with the same points have the same ends. -/
theorem eq_of_subsets {first second : Span α} (into : first.toSet ⊆ second.toSet)
    (onto : second.toSet ⊆ first.toSet) (firstNonempty : first.start < first.stop)
    (secondNonempty : second.start < second.stop) : first = second := by
  obtain ⟨starts, stops⟩ := (within_iff_subset firstNonempty).mpr into
  obtain ⟨starts', stops'⟩ := (within_iff_subset secondNonempty).mpr onto
  cases first
  cases second
  exact congr (congrArg Span.mk (le_antisymm starts' starts)) (le_antisymm stops stops')

theorem mem_pointsOf {point : α} :
    point ∈ pointsOf spans ↔ ∃ span ∈ spans, point ∈ span.toSet :=
  Iff.rfl

namespace Decomposes

theorem inside (decomposes : Decomposes points spans) (spanMem : span ∈ spans) :
    span.toSet ⊆ points := by
  intro point pointMem
  rw [← decomposes.covers]
  exact ⟨span, spanMem, pointMem⟩

/-- Two spans of the list are the same, or one ends before the other begins. -/
theorem order (decomposes : Decomposes points spans) {first second : Span α}
    (firstMem : first ∈ spans) (secondMem : second ∈ spans) :
    first = second ∨ first.stop < second.start ∨ second.stop < first.start := by
  refine List.Pairwise.forall_of_forall_of_flip (R := fun first second : Span α =>
    first = second ∨ first.stop < second.start ∨ second.stop < first.start)
    (fun _ _ => Or.inl rfl) (decomposes.apart.imp fun before => Or.inr (Or.inl before))
    (decomposes.apart.imp fun before => Or.inr (Or.inr before)) firstMem secondMem

/-- The point at which a span of the list ends is not in the set. -/
theorem stop_not_mem (decomposes : Decomposes points spans) (spanMem : span ∈ spans) :
    span.stop ∉ points := by
  intro stopMem
  rw [← decomposes.covers] at stopMem
  obtain ⟨other, otherMem, starts, stops⟩ := stopMem
  have otherNonempty := decomposes.nonempty other otherMem
  rcases decomposes.order spanMem otherMem with rfl | before | after
  · exact absurd stops (lt_irrefl _)
  · exact absurd (before.trans_le starts) (lt_irrefl _)
  · exact absurd ((after.trans (decomposes.nonempty span spanMem)).trans stops)
      (lt_irrefl _)

/-- A span inside the set that begins in a span of the list stays in it. -/
theorem subset_of_start (decomposes : Decomposes points spans) (spanMem : span ∈ spans)
    {other : Span α} (inside : other.toSet ⊆ points)
    (starts : other.start ∈ span.toSet) : other.toSet ⊆ span.toSet := by
  intro point pointMem
  refine ⟨starts.1.trans pointMem.1, ?_⟩
  by_contra beyond
  rw [not_lt] at beyond
  exact decomposes.stop_not_mem spanMem
    (inside ⟨starts.2.le, beyond.trans_lt pointMem.2⟩)

/-- The spans of a decomposition are the maximal ones inside the set. -/
theorem mem_iff (decomposes : Decomposes points spans) :
    span ∈ spans ↔ IsMaximalIn points span := by
  constructor
  · intro spanMem
    have nonempty := decomposes.nonempty span spanMem
    refine ⟨nonempty, decomposes.inside spanMem, fun other contains inside => ?_⟩
    have starts : other.start ≤ span.start ∧ span.start < other.stop :=
      contains ⟨le_rfl, nonempty⟩
    have otherNonempty := starts.1.trans_lt starts.2
    -- The other span begins in a span of the list, which contains it as a whole.
    obtain ⟨host, hostMem, begins⟩ : other.start ∈ pointsOf spans :=
      decomposes.covers ▸ inside ⟨le_rfl, otherNonempty⟩
    have within := decomposes.subset_of_start hostMem inside begins
    have shared : span.start ∈ host.toSet := within starts
    rcases decomposes.order spanMem hostMem with rfl | before | after
    · exact eq_of_subsets within contains otherNonempty nonempty
    · exact absurd ((nonempty.trans before).trans_le shared.1) (lt_irrefl _)
    · exact absurd (after.trans shared.2) (lt_irrefl _)
  · intro isMaximal
    obtain ⟨host, hostMem, begins⟩ : span.start ∈ pointsOf spans :=
      decomposes.covers ▸ isMaximal.inside ⟨le_rfl, isMaximal.nonempty⟩
    have within := decomposes.subset_of_start hostMem isMaximal.inside begins
    rwa [← isMaximal.maximal host within (decomposes.inside hostMem)]

theorem nodup (decomposes : Decomposes points spans) : spans.Nodup := by
  refine List.Pairwise.imp_of_mem ?_ decomposes.apart
  rintro first second firstMem _ before rfl
  exact absurd (before.trans (decomposes.nonempty first firstMem)) (lt_irrefl _)

/-- A set has at most one decomposition. -/
theorem unique {others : List (Span α)} (first : Decomposes points spans)
    (second : Decomposes points others) : spans = others := by
  have perm : spans.Perm others := by
    rw [List.perm_ext_iff_of_nodup first.nodup second.nodup]
    intro span
    rw [first.mem_iff, second.mem_iff]
  refine perm.eq_of_pairwise ?_ first.apart second.apart
  intro one other oneMem otherMem before after
  have oneNonempty := first.nonempty one oneMem
  have otherNonempty := second.nonempty other otherMem
  exact absurd ((before.trans otherNonempty).trans (after.trans oneNonempty))
    (lt_irrefl _)

theorem empty : Decomposes (∅ : Set α) [] where
  nonempty := nofun
  apart := List.Pairwise.nil
  covers := by
    ext point
    simp [mem_pointsOf]

theorem single (nonempty : span.start < span.stop) :
    Decomposes span.toSet [span] where
  nonempty other otherMem := List.mem_singleton.mp otherMem ▸ nonempty
  apart := List.pairwise_singleton _ _
  covers := by
    ext point
    simp [mem_pointsOf]

end Decomposes

section Cuts

/-- The pieces of a cut lie inside the span that was cut. -/
theorem ends_of_mem_cut {part : Span α} (partMem : part ∈ cut busy piece)
    (nonempty : piece.start < piece.stop) :
    part.start < part.stop ∧ piece.start ≤ part.start ∧ part.stop ≤ piece.stop := by
  unfold cut at partMem
  split at partMem
  · obtain rfl := List.mem_singleton.mp partMem
    exact ⟨nonempty, le_rfl, le_rfl⟩
  · next meets =>
      rw [not_or, not_le, not_le] at meets
      rcases List.mem_append.mp partMem with left | right
      · split at left
        · next room =>
            obtain rfl := List.mem_singleton.mp left
            exact ⟨room, le_rfl, meets.1.le⟩
        · simp at left
      · split at right
        · next room =>
            obtain rfl := List.mem_singleton.mp right
            exact ⟨room, meets.2.le, le_rfl⟩
        · simp at right

/-- The two pieces of a cut have the busy span between them. -/
theorem apart_cut (busyNonempty : busy.start < busy.stop) :
    (cut busy piece).Pairwise fun first second => first.stop < second.start := by
  unfold cut
  split
  · exact List.pairwise_singleton _ _
  · split <;> split <;> simp [busyNonempty]

/-- A cut keeps the points that are not in the busy span. -/
theorem pointsOf_cut : pointsOf (cut busy piece) = piece.toSet \ busy.toSet := by
  ext point
  simp only [mem_pointsOf, Set.mem_sdiff, mem_toSet, not_and, not_lt]
  unfold cut
  split
  · next apart =>
      simp only [List.mem_singleton, exists_eq_left]
      refine iff_self_and.mpr ?_
      rintro ⟨starts, stops⟩ begun
      rcases apart with later | earlier
      · exact absurd (stops.trans_le (le_trans later begun)) (lt_irrefl _)
      · exact earlier.trans starts
  · next meets =>
      rw [not_or, not_le, not_le] at meets
      constructor
      · rintro ⟨part, partMem, starts, stops⟩
        rcases List.mem_append.mp partMem with left | right
        · split at left
          · obtain rfl := List.mem_singleton.mp left
            exact ⟨⟨starts, stops.trans meets.1⟩,
              fun begun => absurd (stops.trans_le begun) (lt_irrefl _)⟩
          · simp at left
        · split at right
          · obtain rfl := List.mem_singleton.mp right
            exact ⟨⟨meets.2.le.trans starts, stops⟩, fun _ => starts⟩
          · simp at right
      · rintro ⟨⟨starts, stops⟩, free⟩
        rcases lt_or_ge point busy.start with before | begun
        · exact ⟨⟨piece.start, busy.start⟩,
            by simp [starts.trans_lt before], starts, before⟩
        · exact ⟨⟨busy.stop, piece.stop⟩,
            by simp [(free begun).trans_lt stops], free begun, stops⟩

/-- Cutting a busy span out of a decomposition decomposes what is left. -/
theorem Decomposes.cutEach (decomposes : Decomposes points spans)
    (busyNonempty : busy.start < busy.stop) :
    Decomposes (points \ busy.toSet) (cutEach spans busy) where
  nonempty part partMem := by
    obtain ⟨whole, wholeMem, cutMem⟩ := List.mem_flatMap.mp partMem
    exact (ends_of_mem_cut cutMem (decomposes.nonempty whole wholeMem)).1
  apart := by
    refine List.pairwise_flatMap.mpr ⟨fun _ _ => apart_cut busyNonempty, ?_⟩
    refine List.Pairwise.imp_of_mem ?_ decomposes.apart
    intro first second firstMem secondMem before left leftMem right rightMem
    have leftEnds := ends_of_mem_cut leftMem (decomposes.nonempty first firstMem)
    have rightEnds := ends_of_mem_cut rightMem (decomposes.nonempty second secondMem)
    exact leftEnds.2.2.trans_lt (before.trans_le rightEnds.2.1)
  covers := by
    ext point
    have cuts (whole : Span α) : (∃ part ∈ cut busy whole, point ∈ part.toSet) ↔
        point ∈ whole.toSet \ busy.toSet := by
      rw [← pointsOf_cut, mem_pointsOf]
    simp only [mem_pointsOf, Span.cutEach, List.mem_flatMap, ← decomposes.covers,
      Set.mem_sdiff] at cuts ⊢
    constructor
    · rintro ⟨part, ⟨whole, wholeMem, cutMem⟩, pointMem⟩
      obtain ⟨inWhole, free⟩ := (cuts whole).mp ⟨part, cutMem, pointMem⟩
      exact ⟨⟨whole, wholeMem, inWhole⟩, free⟩
    · rintro ⟨⟨whole, wholeMem, inWhole⟩, free⟩
      obtain ⟨part, cutMem, pointMem⟩ := (cuts whole).mpr ⟨inWhole, free⟩
      exact ⟨part, ⟨whole, wholeMem, cutMem⟩, pointMem⟩

end Cuts

end Span
