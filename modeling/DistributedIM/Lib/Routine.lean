/-
  Routines on a state that may be left early: what a routine has done stays done, however it is
  left. The ways to leave it are `ε`; one of them may stand for reading an optional that is empty.

  `never_bind` and the rules beside it say when a routine is never left in a given way.
-/

/-- A computation on a state, and how it ended. -/
def Routine (ε σ α : Type) :=
  σ → Except ε α × σ

namespace Routine

variable {ε σ α β : Type}

def pure (a : α) : Routine ε σ α := fun s => (.ok a, s)

def bind (x : Routine ε σ α) (f : α → Routine ε σ β) : Routine ε σ β := fun s =>
  match x s with
  | (.ok a, s') => f a s'
  | (.error err, s') => (.error err, s')

instance : Monad (Routine ε σ) where
  pure := pure
  bind := bind

def leave (err : ε) : Routine ε σ α := fun s => (.error err, s)

def modify (f : σ → σ) : Routine ε σ Unit := fun s => (.ok (), f s)

/-- `*o`, left by `err` if there is nothing in it. -/
def deref (err : ε) (o : Option α) : Routine ε σ α :=
  match o with
  | none => leave err
  | some a => pure a

/-! ## Steps -/

@[simp] theorem leave_apply (err : ε) (s : σ) :
    (leave err : Routine ε σ α) s = (.error err, s) := rfl

@[simp] theorem modify_apply (f : σ → σ) (s : σ) :
    (modify f : Routine ε σ Unit) s = (.ok (), f s) := rfl

@[simp] theorem deref_some (err : ε) (a : α) :
    (deref err (some a) : Routine ε σ α) = Pure.pure a := rfl

@[simp] theorem deref_none (err : ε) : (deref err none : Routine ε σ α) = leave err := rfl

@[simp] theorem pure_bind (a : α) (f : α → Routine ε σ β) : (Pure.pure a >>= f) = f a := rfl

@[simp] theorem leave_bind (err : ε) (f : α → Routine ε σ β) : (leave err >>= f) = leave err := rfl

theorem bind_apply_ok {x : Routine ε σ α} {s s' : σ} {a : α} (hx : x s = (.ok a, s'))
    (f : α → Routine ε σ β) : (x >>= f) s = f a s' := by
  show bind x f s = _
  simp only [bind, hx]

theorem bind_apply_error {x : Routine ε σ α} {s s' : σ} {err : ε} (hx : x s = (.error err, s'))
    (f : α → Routine ε σ β) : (x >>= f) s = (.error err, s') := by
  show bind x f s = _
  simp only [bind, hx]

@[simp] theorem modify_bind_apply (f : σ → σ) (g : Unit → Routine ε σ β) (s : σ) :
    (modify f >>= g) s = g () (f s) := rfl

@[simp] theorem bind_assoc {γ : Type} (x : Routine ε σ α) (f : α → Routine ε σ β)
    (g : β → Routine ε σ γ) : (x >>= f >>= g) = x >>= fun a => f a >>= g := by
  funext s
  show bind (bind x f) g s = bind x (fun a => bind (f a) g) s
  unfold bind
  cases x s with
  | mk r s' =>
    cases r with
    | ok a => rfl
    | error err => rfl

/-! ## Ways a routine is never left -/

/-- Whatever the state, `x` is not left by `err`. -/
def Never (err : ε) (x : Routine ε σ α) : Prop :=
  ∀ s, (x s).1 ≠ .error err

variable {err : ε}

theorem never_pure (a : α) : Never err (Pure.pure a : Routine ε σ α) := by
  intro s h
  cases h

theorem never_modify (f : σ → σ) : Never err (modify f : Routine ε σ Unit) := by
  intro s h
  cases h

theorem never_leave {err' : ε} (hne : err' ≠ err) : Never err (leave err' : Routine ε σ α) := by
  intro s h
  exact hne (Except.error.inj h)

theorem never_bind {x : Routine ε σ α} {f : α → Routine ε σ β} (hx : Never err x)
    (hf : ∀ a, Never err (f a)) : Never err (x >>= f) := by
  intro s h
  cases hs : x s with
  | mk r s' =>
    cases r with
    | ok a =>
      rw [bind_apply_ok hs] at h
      exact hf a s' h
    | error err' =>
      rw [bind_apply_error hs] at h
      have hleft : (x s).1 = .error err := by
        rw [hs]
        exact congrArg Except.error (Except.error.inj h)
      exact hx s hleft

theorem never_ite {p : Prop} [Decidable p] {x y : Routine ε σ α} (hx : p → Never err x)
    (hy : ¬p → Never err y) : Never err (if p then x else y) := by
  split
  · exact hx ‹p›
  · exact hy ‹¬p›

/-- An optional that holds something is read. -/
theorem never_deref {o : Option α} (ho : o.isSome) : Never err (deref err o : Routine ε σ α) := by
  obtain ⟨a, rfl⟩ := Option.isSome_iff_exists.mp ho
  exact never_pure a

end Routine
