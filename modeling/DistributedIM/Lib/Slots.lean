/-
  Slots that each hold at most one thing, and what they hold together, as a multiset: a slot that is
  added or changed accounts for what it holds, and nothing else does.
-/
import Mathlib.Algebra.Order.Group.Multiset

namespace Slots

variable {α β : Type*} (f : α → Option β)

/-- What the slots hold, if `f` reads a slot. -/
def contents (slots : List α) : Multiset β :=
  ↑(slots.filterMap f)

variable {f}

@[simp] theorem contents_nil : contents f [] = 0 := rfl

@[simp] theorem contents_cons (a : α) (slots : List α) :
    contents f (a :: slots) = (f a).toList + contents f slots := by
  unfold contents
  cases h : f a with
  | none => simp [h]
  | some b => simp [h]

@[simp] theorem contents_append (slots slots' : List α) :
    contents f (slots ++ slots') = contents f slots + contents f slots' := by
  simp [contents]

theorem mem_contents {slots : List α} {b : β} :
    b ∈ contents f slots ↔ ∃ a ∈ slots, f a = some b := by
  simp [contents]

/-- Changing a slot changes what it holds. -/
theorem contents_set {slots : List α} {i : Nat} {a : α} (h : slots[i]? = some a) (a' : α) :
    contents f (slots.set i a') + (f a).toList = contents f slots + (f a').toList := by
  induction slots generalizing i with
  | nil => cases h
  | cons first slots ih =>
    cases i with
    | zero =>
      obtain rfl : first = a := Option.some.inj h
      rw [List.set_cons_zero, contents_cons, contents_cons]
      ac_rfl
    | succ i =>
      rw [List.set_cons_succ, contents_cons, contents_cons, add_assoc, ih h, add_assoc]

end Slots
