/-
  Taking a computation in `Except` apart: from the fact that the whole of it ends well, the facts
  about its parts.
-/
import Mathlib.Data.List.Forall2

namespace Outcome

universe u v

variable {ε : Type u} {α β : Type v}

theorem bind_eq_ok {x : Except ε α} {f : α → Except ε β} {b : β} :
    (x >>= f) = .ok b ↔ ∃ a, x = .ok a ∧ f a = .ok b := by
  cases x with
  | error err => simp [bind, Except.bind]
  | ok a => simp [bind, Except.bind]

theorem bind_eq_error {x : Except ε α} {f : α → Except ε β} {err : ε} :
    (x >>= f) = .error err ↔ x = .error err ∨ ∃ a, x = .ok a ∧ f a = .error err := by
  cases x with
  | error err' => simp [bind, Except.bind]
  | ok a => simp [bind, Except.bind]

theorem map_eq_ok {x : Except ε α} {f : α → β} {b : β} :
    x.map f = .ok b ↔ ∃ a, x = .ok a ∧ f a = b := by
  cases x with
  | error err => simp [Except.map]
  | ok a => simp [Except.map]

theorem toOption_eq_some {x : Except ε α} {a : α} : x.toOption = some a ↔ x = .ok a := by
  cases x with
  | error err => simp [Except.toOption]
  | ok b => simp [Except.toOption]

/-- A list that is gone through ends well if every element does. -/
theorem mapM_eq_ok {f : α → Except ε β} {l : List α} {bs : List β} :
    l.mapM f = .ok bs ↔ List.Forall₂ (fun a b => f a = .ok b) l bs := by
  induction l generalizing bs with
  | nil =>
    rw [List.mapM_nil, List.forall₂_nil_left_iff]
    exact ⟨fun h => (Except.ok.inj h).symm, fun h => congrArg Except.ok h.symm⟩
  | cons a l ih =>
    simp only [List.mapM_cons, bind_eq_ok, List.forall₂_cons_left_iff, ih]
    constructor
    · rintro ⟨b, hb, cs, hcs, heq⟩
      exact ⟨b, cs, hb, hcs, (Except.ok.inj heq).symm⟩
    · rintro ⟨b, cs, hb, hcs, rfl⟩
      exact ⟨b, hb, cs, hcs, rfl⟩

theorem mapM_append_eq_ok {f : α → Except ε β} {l₁ l₂ : List α} {bs : List β} :
    (l₁ ++ l₂).mapM f = .ok bs ↔
      ∃ bs₁ bs₂, l₁.mapM f = .ok bs₁ ∧ l₂.mapM f = .ok bs₂ ∧ bs₁ ++ bs₂ = bs := by
  simp only [List.mapM_append, bind_eq_ok]
  constructor
  · rintro ⟨bs₁, h₁, bs₂, h₂, heq⟩
    exact ⟨bs₁, bs₂, h₁, h₂, Except.ok.inj heq⟩
  · rintro ⟨bs₁, bs₂, h₁, h₂, rfl⟩
    exact ⟨bs₁, h₁, bs₂, h₂, rfl⟩

theorem exists_mapM {f : α → Except ε β} {l : List α} (h : ∀ a ∈ l, ∃ b, f a = .ok b) :
    ∃ bs, l.mapM f = .ok bs := by
  simp only [mapM_eq_ok]
  induction l with
  | nil => exact ⟨[], .nil⟩
  | cons a l ih =>
    obtain ⟨b, hb⟩ := h a List.mem_cons_self
    obtain ⟨bs, hbs⟩ := ih fun a' ha' => h a' (List.mem_cons_of_mem a ha')
    exact ⟨b :: bs, .cons hb hbs⟩

/-- What each result shares with its element, the lists share. -/
theorem map_eq_map_of_mapM {γ : Type*} {f : α → Except ε β} {l : List α} {bs : List β}
    (h : l.mapM f = .ok bs) {g : β → γ} {k : α → γ} (hf : ∀ a b, f a = .ok b → g b = k a) :
    bs.map g = l.map k := by
  have hall := mapM_eq_ok.mp h
  clear h
  induction hall with
  | nil => rfl
  | cons hb _ ih => rw [List.map_cons, List.map_cons, hf _ _ hb, ih]

end Outcome
