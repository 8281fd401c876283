/-
  `Nat.count`, when the property changes at one number: how many of the numbers below a bound have
  it before and after. For counters kept in step with what they count.
-/
import Mathlib.Data.Nat.Count
import Mathlib.Logic.Function.Basic

namespace Count

variable {p q : Nat → Prop} [DecidablePred p] [DecidablePred q] {n k : Nat}

theorem count_congr (h : ∀ i, i < n → (p i ↔ q i)) : Nat.count p n = Nat.count q n :=
  le_antisymm (Nat.count_mono_left fun i hi => (h i hi).mp)
    (Nat.count_mono_left fun i hi => (h i hi).mpr)

/-- The property begins to hold at `k`, and stays as it is elsewhere. -/
theorem count_gain (hk : k < n) (hp : ¬p k) (hq : q k) (hother : ∀ i, i ≠ k → (p i ↔ q i)) :
    Nat.count q n = Nat.count p n + 1 := by
  induction n with
  | zero => exact absurd hk (Nat.not_lt_zero k)
  | succ n ih =>
    rw [Nat.count_succ, Nat.count_succ]
    rcases Nat.lt_succ_iff_lt_or_eq.mp hk with hlt | rfl
    · have hsame : (if q n then 1 else 0) = if p n then 1 else 0 := by
        simp only [hother n (Nat.ne_of_gt hlt)]
      rw [ih hlt, hsame]
      exact Nat.add_right_comm ..
    · have hbelow : Nat.count p k = Nat.count q k :=
        count_congr fun i hi => hother i (Nat.ne_of_lt hi)
      rw [hbelow, if_pos hq, if_neg hp]

/-- A flag that is set or cleared changes the count by what it changes itself. -/
theorem count_update (f : Nat → Bool) (hk : k < n) (b : Bool) :
    Nat.count (fun i => Function.update f k b i = true) n + (f k).toNat =
      Nat.count (fun i => f i = true) n + b.toNat := by
  have hother (i : Nat) (hi : i ≠ k) : f i = true ↔ Function.update f k b i = true := by
    rw [Function.update_of_ne hi]
  cases hold : f k with
  | false =>
    cases b with
    | false => rw [← hold, Function.update_eq_self]
    | true => exact count_gain hk (by simp [hold]) (Function.update_self ..) hother
  | true =>
    cases b with
    | false =>
      exact (count_gain hk (by simp) hold fun i hi => (hother i hi).symm).symm
    | true => rw [← hold, Function.update_eq_self]

end Count
