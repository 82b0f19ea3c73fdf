import Mathlib.Algebra.Group.Basic
import Mathlib.Tactic.Abel

/-!
# The books of an escrow

Money enters and leaves the accounts of an escrow service by deposits and
withdrawals; a hold takes an amount from the accounts into escrow and a release
takes it back to some account.  No sequence of these four moves creates or
destroys money.
-/

namespace EscrowBooks

variable {M : Type*} [AddCommGroup M]

/-- What the accounts contain, what is held in escrow, and what has come in
and gone out so far. -/
@[ext]
structure Books (M : Type*) where
  accounts : M
  held : M
  deposited : M
  withdrawn : M

inductive Move (M : Type*)
  | deposit (amount : M)
  | withdraw (amount : M)
  | hold (amount : M)
  | release (amount : M)

namespace Books

/-- The books after one move. -/
def apply (books : Books M) : Move M → Books M
  | .deposit amount =>
      { books with
        accounts := books.accounts + amount
        deposited := books.deposited + amount }
  | .withdraw amount =>
      { books with
        accounts := books.accounts - amount
        withdrawn := books.withdrawn + amount }
  | .hold amount =>
      { books with
        accounts := books.accounts - amount
        held := books.held + amount }
  | .release amount =>
      { books with
        accounts := books.accounts + amount
        held := books.held - amount }

/-- Accounts and escrow together contain what has come in and not gone out. -/
def Balanced (books : Books M) : Prop :=
  books.accounts + books.held = books.deposited - books.withdrawn

/-- Some sequence of moves leads from one state of the books to another. -/
def Leads (before after : Books M) : Prop :=
  ∃ moves : List (Move M), after = moves.foldl apply before

theorem Leads.refl (books : Books M) : books.Leads books :=
  ⟨[], rfl⟩

theorem Leads.of_apply {before after : Books M} (move : Move M)
    (applied : after = before.apply move) : before.Leads after :=
  ⟨[move], applied⟩

theorem Balanced.apply {books : Books M} (balanced : books.Balanced)
    (move : Move M) : (books.apply move).Balanced := by
  unfold Balanced at balanced ⊢
  cases move with
  | deposit amount =>
      simp only [Books.apply]
      rw [add_right_comm, balanced]
      abel
  | withdraw amount =>
      simp only [Books.apply]
      rw [sub_add_eq_add_sub, balanced]
      abel
  | hold amount =>
      simp only [Books.apply]
      rw [← balanced]
      abel
  | release amount =>
      simp only [Books.apply]
      rw [← balanced]
      abel

/-- Moves keep the books balanced, by induction on their sequence. -/
theorem Leads.balanced {before after : Books M} (leads : before.Leads after)
    (balanced : before.Balanced) : after.Balanced := by
  obtain ⟨moves, rfl⟩ := leads
  induction moves generalizing before with
  | nil => exact balanced
  | cons move rest ih => exact ih (balanced.apply move)

end Books

end EscrowBooks
