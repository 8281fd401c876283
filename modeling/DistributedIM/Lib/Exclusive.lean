/-
  Keys with at most one holder each. `Exclusive H`: no key is held twice. Fewer holders keep it
  (`Exclusive.mono`), and so does passing keys on (`Exclusive.pass`); granting one more key keeps it
  exactly when all other holders of the key lose it (`exclusive_grant_iff`).
-/
import Mathlib.Tactic.ByContra
import Mathlib.Tactic.TypeStar

variable {ι κ : Type*}

/-- No key has two holders. -/
def Exclusive (H : ι → κ → Prop) : Prop :=
  ∀ k i j, H i k → H j k → i = j

theorem Exclusive.mono {H H' : ι → κ → Prop} (h : Exclusive H) (hle : ∀ i k, H' i k → H i k) :
    Exclusive H' := by
  intro k i j hi hj
  exact h k i j (hle i k hi) (hle j k hj)

/-- `i` passes what it holds on to `j`. -/
theorem Exclusive.pass {H H' : ι → κ → Prop} {i j : ι} (h : Exclusive H)
    (hle : ∀ l k, H' l k → l = j ∧ H i k ∨ l ≠ i ∧ H l k) : Exclusive H' := by
  intro k a b ha hb
  rcases hle a k ha with ⟨rfl, ha⟩ | ⟨hai, ha⟩
  · rcases hle b k hb with ⟨rfl, -⟩ | ⟨hbi, hb⟩
    · rfl
    · exact absurd (h k b i hb ha) hbi
  · rcases hle b k hb with ⟨rfl, hb⟩ | ⟨-, hb⟩
    · exact absurd (h k a i ha hb) hai
    · exact h k a b ha hb

/-- `i` gets the key `k`, and the holders in `K` lose what they hold. -/
theorem exclusive_grant_iff {H H' : ι → κ → Prop} {K : ι → Prop} {i : ι} {k : κ}
    (h : Exclusive H) (hself : ∀ l, H' i l ↔ H i l ∨ l = k)
    (hother : ∀ j, j ≠ i → ∀ l, H' j l ↔ H j l ∧ ¬K j) :
    Exclusive H' ↔ ∀ j, j ≠ i → H j k → K j := by
  have hheld : H' i k := (hself k).mpr (Or.inr rfl)
  constructor
  · intro h' j hne hj
    by_contra hkept
    exact hne (h' k j i ((hother j hne k).mpr ⟨hj, hkept⟩) hheld)
  · intro hlose
    -- nobody but `i` holds what `i` holds
    have honly (j : ι) (hne : j ≠ i) (l : κ) (hi : H' i l) : ¬H' j l := by
      intro hj
      obtain ⟨hj, hkept⟩ := (hother j hne l).mp hj
      rcases (hself l).mp hi with hi | rfl
      · exact hne (h l j i hj hi)
      · exact hkept (hlose j hne hj)
    intro l a b ha hb
    by_cases hai : a = i
    · subst hai
      by_contra hne
      exact honly b (Ne.symm hne) l ha hb
    · by_cases hbi : b = i
      · subst hbi
        exact absurd ha (honly a hai l hb)
      · exact h l a b ((hother a hai l).mp ha).1 ((hother b hbi l).mp hb).1
