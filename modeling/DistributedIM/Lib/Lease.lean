/-
  A lock in one cell: `take` puts the taker's identifier there if the cell is empty, `give` empties
  the cell if it still has the giver's identifier. The cell may also be emptied at any moment, when
  the lock expires. Whoever finds its identifier in the cell is the only one who does.
-/
import Mathlib.Tactic.TypeStar

namespace Lease

variable {ι : Type*}

def take (cell : Option ι) (i : ι) : Option ι :=
  cell.or (some i)

@[simp] theorem take_none (i : ι) : take none i = some i := rfl

variable [DecidableEq ι]

def give (cell : Option ι) (i : ι) : Option ι :=
  if cell = some i then none else cell

@[simp] theorem give_self (i : ι) : give (some i) i = none := if_pos rfl

theorem give_eq_some {cell : Option ι} {i j : ι} :
    give cell i = some j ↔ cell = some j ∧ j ≠ i := by
  unfold give
  split
  · rename_i hcell
    simp [hcell, eq_comm]
  · rename_i hcell
    constructor
    · intro h
      exact ⟨h, fun heq => hcell (heq ▸ h)⟩
    · intro h
      exact h.1

end Lease
