import Mathlib.Order.Compare
import Mathlib.Tactic.Linarith
import Mathlib.Tactic.Ring

/-!
# Prices in floating point

Decimal columns with two digits are read as doubles, and a product of prices or a
difference of them may lie a little beside its value in hundredths.  Doubles are written
here in units of `2 ^ -64`, of which every double from `2 ^ -12` up is a multiple.  For
ten digits and at most a hundred periods the error stays far below a hundredth, so a
comparison of doubles is one of hundredths except between equal values.
-/

namespace SpareSpace

namespace DoublePrices

/-- A fraction rounded to the 53 significant bits of a double, ties to even. -/
def round (numerator denominator : Nat) : Nat :=
  let excess := (numerator / denominator).log2 - 52
  let step := denominator * 2 ^ excess
  let quotient := numerator / step
  let rest := numerator % step
  let roundsUp := decide (step < 2 * rest) || 2 * rest == step && quotient % 2 == 1
  (if roundsUp then quotient + 1 else quotient) * 2 ^ excess

/-- The double that a column of so many hundredths is read as. -/
def ofHundredths (hundredths : Nat) : Nat :=
  round (hundredths * 2 ^ 64) 100

/-- A price times a number of periods. -/
def times (price count : Nat) : Nat :=
  round (price * count) 1

/-- The difference of two doubles. -/
def minus (first second : Nat) : Int :=
  if second ≤ first then round (first - second) 1 else -round (second - first) 1

/-- The double nearest to a number of hundredths of either sign. -/
def ofDifference (hundredths : Int) : Int :=
  hundredths.sign * ofHundredths hundredths.natAbs

/-- Two numbers lie at most so far apart. -/
def Near (distance first second : Nat) : Prop :=
  first ≤ second + distance ∧ second ≤ first + distance

theorem Near.mono {distance wider first second : Nat} (near : Near distance first second)
    (le : distance ≤ wider) : Near wider first second :=
  ⟨near.1.trans (Nat.add_le_add_left le _), near.2.trans (Nat.add_le_add_left le _)⟩

theorem Near.mul_right {distance first second : Nat} (near : Near distance first second)
    (factor : Nat) : Near (distance * factor) (first * factor) (second * factor) := by
  unfold Near
  rw [← Nat.add_mul, ← Nat.add_mul]
  exact ⟨Nat.mul_le_mul_right factor near.1, Nat.mul_le_mul_right factor near.2⟩

/-- Rounding moves a fraction by half a step at most. -/
theorem round_near_step (numerator : Nat) {denominator : Nat} (positive : 0 < denominator) :
    Near (denominator * 2 ^ ((numerator / denominator).log2 - 52))
      (2 * (round numerator denominator * denominator)) (2 * numerator) := by
  unfold round
  simp only
  generalize (numerator / denominator).log2 - 52 = excess
  have steps : 0 < denominator * 2 ^ excess := Nat.mul_pos positive (Nat.two_pow_pos excess)
  have whole := Nat.div_add_mod numerator (denominator * 2 ^ excess)
  have less := Nat.mod_lt numerator steps
  generalize numerator / (denominator * 2 ^ excess) = quotient at *
  generalize numerator % (denominator * 2 ^ excess) = rest at *
  have down : quotient * 2 ^ excess * denominator = denominator * 2 ^ excess * quotient := by
    ring
  have up : (quotient + 1) * 2 ^ excess * denominator =
      denominator * 2 ^ excess * quotient + denominator * 2 ^ excess := by
    ring
  generalize denominator * 2 ^ excess = step at *
  unfold Near
  split
  · next rounds =>
      have half : step ≤ 2 * rest := by
        simp only [Bool.or_eq_true, decide_eq_true_eq, Bool.and_eq_true, beq_iff_eq] at rounds
        omega
      rw [up]
      omega
  · next rounds =>
      have half : 2 * rest ≤ step := by
        simp only [Bool.or_eq_true, decide_eq_true_eq, not_or, not_lt] at rounds
        exact rounds.1
      rw [down]
      omega

/-- The step is small where the fraction is. -/
theorem round_near (numerator : Nat) {denominator excess : Nat} (positive : 0 < denominator)
    (bounded : numerator < denominator * 2 ^ (53 + excess)) :
    Near (denominator * 2 ^ excess) (2 * (round numerator denominator * denominator))
      (2 * numerator) := by
  refine (round_near_step numerator positive).mono (Nat.mul_le_mul_left denominator ?_)
  refine Nat.pow_le_pow_right two_pos ?_
  have quotient : numerator / denominator < 2 ^ (53 + excess) :=
    Nat.div_lt_of_lt_mul bounded
  by_cases zero : numerator / denominator = 0
  · simp [zero]
  · have digits := (Nat.log2_lt zero).mpr quotient
    omega

/-- A double lies near a number of hundredths, by a distance in 200ths of its unit. -/
def Shows (distance double hundredths : Nat) : Prop :=
  Near distance (200 * double) (2 ^ 65 * hundredths)

section Bounds

variable {price count previous balance : Nat}

theorem ofHundredths_shows (bounded : price < 10 ^ 10) :
    Shows (100 * 2 ^ 38) (ofHundredths price) price := by
  have near := @round_near (price * 2 ^ 64) 100 38 (by decide) (by omega)
  unfold Near at near
  unfold Shows Near ofHundredths
  omega

theorem times_shows (bounded : price * count < 10 ^ 10) (few : count ≤ 100)
    (known : price < 10 ^ 10) :
    Shows (10100 * 2 ^ 38) (times (ofHundredths price) count) (price * count) := by
  have exact := (ofHundredths_shows known).mul_right count
  have product : 200 * ofHundredths price * count = 200 * (ofHundredths price * count) :=
    Nat.mul_assoc _ _ _
  have hundredths : 2 ^ 65 * price * count = 2 ^ 65 * (price * count) := Nat.mul_assoc _ _ _
  rw [product, hundredths] at exact
  have near := @round_near (ofHundredths price * count) 1 38 (by decide)
    (by unfold Near at exact; omega)
  unfold Near at exact near
  unfold Shows Near times
  omega

/-- The difference of two doubles lies near the difference of the hundredths. -/
theorem minus_near {first second hundredths others : Nat}
    (shows : Shows (10100 * 2 ^ 38) first hundredths)
    (less : Shows (100 * 2 ^ 38) second others)
    (bounded : hundredths < 10 ^ 10) (others_bounded : others < 10 ^ 10) :
    200 * minus first second ≤ 2 ^ 65 * ((hundredths : Int) - others) + 10300 * 2 ^ 38 ∧
      2 ^ 65 * ((hundredths : Int) - others) ≤ 200 * minus first second + 10300 * 2 ^ 38 := by
  unfold Shows Near at shows less
  unfold minus
  split
  · have near := @round_near (first - second) 1 38 (by decide) (by omega)
    unfold Near at near
    omega
  · have near := @round_near (second - first) 1 38 (by decide) (by omega)
    unfold Near at near
    omega

end Bounds

theorem ofDifference_natCast (hundredths : Nat) :
    ofDifference hundredths = ofHundredths hundredths := by
  unfold ofDifference
  cases hundredths with
  | zero => decide
  | succ smaller =>
      rw [Int.natAbs_natCast, Int.sign_natCast_of_ne_zero (Nat.succ_ne_zero smaller), one_mul]

section Comparisons

variable {first second hundredths others : Nat}
  (shows : Shows (10100 * 2 ^ 38) first hundredths)
  (less : Shows (100 * 2 ^ 38) second others)
  (bounded : hundredths < 10 ^ 10) (others_bounded : others < 10 ^ 10)

include shows less bounded others_bounded

/-- A balance is less than a difference of doubles if it is less in hundredths, or equal to a
difference that lies above its double. -/
theorem lt_minus_iff {balance : Nat} (balance_bounded : balance < 10 ^ 10) :
    (ofHundredths balance : Int) < minus first second ↔
      (balance : Int) < (hundredths : Int) - others ∨
        (hundredths : Int) - others = balance ∧
          compare (minus first second) (ofDifference ((hundredths : Int) - others)) = .gt := by
  have near := minus_near shows less bounded others_bounded
  have shown := ofHundredths_shows balance_bounded
  unfold Shows Near at shown
  rcases lt_trichotomy (balance : Int) ((hundredths : Int) - others) with below | equal | above
  · exact iff_of_true (by omega) (Or.inl below)
  · rw [← equal, ofDifference_natCast, compare_gt_iff_gt]
    simp
  · refine iff_of_false (by omega) ?_
    rintro (below | ⟨equal, -⟩) <;> omega

theorem minus_pos_iff :
    0 < minus first second ↔ 0 < (hundredths : Int) - others ∨
      (hundredths : Int) - others = 0 ∧
        compare (minus first second) (ofDifference ((hundredths : Int) - others)) = .gt :=
  @lt_minus_iff first second hundredths others shows less bounded others_bounded 0 (by decide)

theorem minus_neg_iff :
    minus first second < 0 ↔ (hundredths : Int) - others < 0 ∨
      (hundredths : Int) - others = 0 ∧
        compare (minus first second) (ofDifference ((hundredths : Int) - others)) = .lt := by
  have near := minus_near shows less bounded others_bounded
  rcases lt_trichotomy ((hundredths : Int) - others) 0 with below | equal | above
  · exact iff_of_true (by omega) (Or.inl below)
  · rw [equal, compare_lt_iff_lt]
    simp [ofDifference]
  · refine iff_of_false (by omega) ?_
    rintro (below | ⟨equal, -⟩) <;> omega

end Comparisons

/-- Three times 0.10, less 0.10, is more than 0.20. -/
example : ofDifference 20 < minus (times (ofHundredths 10) 3) (ofHundredths 10) := by
  decide

end DoublePrices

end SpareSpace
