/-
  `while` loops with early exits. `body` says what one pass does: go on with a new state, or leave
  the loop with a result. `run` plays at most `fuel` passes; the loop terminates when some fuel
  gives a result, and then every larger fuel gives the same one (`run_mono`). A pass that changes
  nothing repeats for ever (`run_eq_none_of_next_self`). `run_invariant` is the rule for loop
  invariants.
-/
import Mathlib.Tactic.TypeStar

namespace Loop

variable {σ ρ : Type*}

/-- What one pass of a loop does. -/
inductive Pass (σ ρ : Type*)
  | next (s : σ)
  | done (r : ρ)
  deriving DecidableEq, Repr

variable (body : σ → Pass σ ρ)

/-- The result of the loop, if it ends within `fuel` passes. -/
def run : Nat → σ → Option ρ
  | 0, _ => none
  | fuel + 1, s =>
    match body s with
    | .next s' => run fuel s'
    | .done r => some r

variable {body}

theorem run_succ_of_next {s s' : σ} (h : body s = .next s') (fuel : Nat) :
    run body (fuel + 1) s = run body fuel s' := by
  simp only [run, h]

theorem run_succ_of_done {s : σ} {r : ρ} (h : body s = .done r) (fuel : Nat) :
    run body (fuel + 1) s = some r := by
  simp only [run, h]

theorem run_mono {fuel fuel' : Nat} {s : σ} {r : ρ} (h : run body fuel s = some r)
    (hle : fuel ≤ fuel') : run body fuel' s = some r := by
  induction fuel generalizing fuel' s with
  | zero => cases h
  | succ fuel ih =>
    obtain ⟨fuel', rfl⟩ : ∃ k, fuel' = k + 1 := ⟨fuel' - 1, by omega⟩
    cases hb : body s with
    | next s' =>
      rw [run_succ_of_next hb] at h ⊢
      exact ih h (by omega)
    | done r' =>
      rw [run_succ_of_done hb] at h ⊢
      exact h

theorem run_unique {fuel fuel' : Nat} {s : σ} {r r' : ρ} (h : run body fuel s = some r)
    (h' : run body fuel' s = some r') : r = r' := by
  have hmax := run_mono h (Nat.le_max_left fuel fuel')
  rw [run_mono h' (Nat.le_max_right fuel fuel')] at hmax
  exact (Option.some.inj hmax).symm

theorem run_eq_none_of_next_self {s : σ} (h : body s = .next s) (fuel : Nat) :
    run body fuel s = none := by
  induction fuel with
  | zero => rfl
  | succ fuel ih => rw [run_succ_of_next h, ih]

/-- What holds on entry and is kept by every pass that goes on holds on exit. -/
theorem run_invariant {P : σ → Prop} {Q : ρ → Prop}
    (hnext : ∀ s s', P s → body s = .next s' → P s')
    (hdone : ∀ s r, P s → body s = .done r → Q r) {fuel : Nat} {s : σ} {r : ρ} (hs : P s)
    (h : run body fuel s = some r) : Q r := by
  induction fuel generalizing s with
  | zero => cases h
  | succ fuel ih =>
    cases hb : body s with
    | next s' =>
      rw [run_succ_of_next hb] at h
      exact ih (hnext s s' hs hb) h
    | done r' =>
      rw [run_succ_of_done hb] at h
      rw [← Option.some.inj h]
      exact hdone s r' hs hb

end Loop
