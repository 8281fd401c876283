/-
  Partial maps as dictionaries: which keys an entry adds, and a map whose values are exactly the keys
  of another, each of them the value of one key.
-/
import Mathlib.Logic.Function.Basic

namespace Matching

variable {φ κ α : Type*} [DecidableEq φ]

theorem isSome_update_iff [DecidableEq κ] (m : κ → Option α) (k k' : κ) (a : α) :
    (Function.update m k (some a) k').isSome = true ↔ k' = k ∨ (m k').isSome = true := by
  by_cases heq : k' = k
  · rw [heq, Function.update_self]
    exact iff_of_true rfl (Or.inl rfl)
  · rw [Function.update_of_ne heq, or_iff_right heq]

theorem update_eq_some_iff {on : φ → Option κ} {f f' : φ} {k k' : κ} :
    Function.update on f (some k) f' = some k' ↔ f' = f ∧ k' = k ∨ f' ≠ f ∧ on f' = some k' := by
  by_cases heq : f' = f
  · rw [heq, Function.update_self, Option.some_inj]
    simp [eq_comm]
  · rw [Function.update_of_ne heq]
    simp [heq]

/-- The values of `on` are the known keys, each of one argument. -/
structure Matches (known : κ → Prop) (on : φ → Option κ) : Prop where
  onto : ∀ k, known k ↔ ∃ f, on f = some k
  oneEach : ∀ f f' k, on f = some k → on f' = some k → f = f'

/-- A new key is matched with a new argument. -/
theorem Matches.update {known known' : κ → Prop} {on : φ → Option κ} (h : Matches known on) {k : κ}
    {f : φ} (hk : ¬known k) (hf : on f = none)
    (hknown : ∀ k', known' k' ↔ k' = k ∨ known k') :
    Matches known' (Function.update on f (some k)) where
  onto := by
    intro k'
    rw [hknown, h.onto]
    constructor
    · rintro (rfl | ⟨f', hf'⟩)
      · exact ⟨f, Function.update_self ..⟩
      · have hne : f' ≠ f := by
          intro heq
          rw [heq, hf] at hf'
          cases hf'
        exact ⟨f', update_eq_some_iff.mpr (Or.inr ⟨hne, hf'⟩)⟩
    · rintro ⟨f', hf'⟩
      rcases update_eq_some_iff.mp hf' with ⟨-, rfl⟩ | ⟨-, hold⟩
      · exact Or.inl rfl
      · exact Or.inr ⟨f', hold⟩
  oneEach := by
    intro f₁ f₂ k' h₁ h₂
    have hnew (f' : φ) : on f' ≠ some k := fun hf' => hk ((h.onto k).mpr ⟨f', hf'⟩)
    rcases update_eq_some_iff.mp h₁ with ⟨rfl, rfl⟩ | ⟨-, hold₁⟩
    · rcases update_eq_some_iff.mp h₂ with ⟨rfl, -⟩ | ⟨-, hold₂⟩
      · rfl
      · exact absurd hold₂ (hnew f₂)
    · rcases update_eq_some_iff.mp h₂ with ⟨-, rfl⟩ | ⟨-, hold₂⟩
      · exact absurd hold₁ (hnew f₁)
      · exact h.oneEach f₁ f₂ k' hold₁ hold₂

end Matching
