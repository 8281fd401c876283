/-
  Calls on a database connection that may throw, and transactions around them.

  A store has tables and counters; a rollback restores the tables and leaves the counters where
  they are, as auto-increment counters stay. A statement fails on its own (`none`) or because the
  connection says so: `faults` lists which of the next statements fail.

  `guarded` is a block whose guard rolls back unless the block commits, whichever way it is left.
  `guarded_cases` is how facts about a block reach its caller: either the block ran to its commit,
  or the tables are what they were.
-/
import Mathlib.Order.Defs.PartialOrder

namespace Transaction

/-- What the database keeps. -/
structure Store (τ κ : Type) where
  tables : τ
  counters : κ

/-- A connection, as the calls on it see it. -/
structure Conn (τ κ : Type) where
  store : Store τ κ
  faults : List Bool

/-- A call on a connection, with exceptions in `ε`. -/
def Call (ε τ κ α : Type) :=
  Conn τ κ → Except ε α × Conn τ κ

/-- The next `n` statements are not made to fail. -/
def Clear : Nat → List Bool → Prop
  | 0, _ => True
  | n + 1, faults => faults.headD false = false ∧ Clear n faults.tail

/-- How a guarded block is left, other than by an exception. -/
inductive Ending (α : Type)
  | commit (a : α)
  | leave (a : α)

variable {ε τ κ α β : Type}

/-- The tables of the connection are those of `start` again. -/
def Conn.rollback (c start : Conn τ κ) : Conn τ κ where
  store := { tables := start.store.tables, counters := c.store.counters }
  faults := c.faults.tail

namespace Call

def pure (a : α) : Call ε τ κ α := fun c => (.ok a, c)

def throw (err : ε) : Call ε τ κ α := fun c => (.error err, c)

def bind (x : Call ε τ κ α) (f : α → Call ε τ κ β) : Call ε τ κ β := fun c =>
  match x c with
  | (.ok a, c') => f a c'
  | (.error err, c') => (.error err, c')

instance : Monad (Call ε τ κ) where
  pure := pure
  bind := bind

/-- A statement: `none` is an error the server reports. One that fails has not been executed; a
    connection that is lost between the execution and the answer is not described. -/
def execute (err : ε) (stmt : Store τ κ → Option (α × Store τ κ)) : Call ε τ κ α := fun c =>
  if c.faults.headD false then (.error err, { c with faults := c.faults.tail })
  else
    match stmt c.store with
    | none => (.error err, { c with faults := c.faults.tail })
    | some r => (.ok r.1, { store := r.2, faults := c.faults.tail })

/-- `START TRANSACTION` and `COMMIT`. -/
def control (err : ε) : Call ε τ κ Unit :=
  execute err fun s => some ((), s)

/-- A block under a guard that rolls back unless the block commits. A rollback that fails loses
    the connection, and the server rolls back. -/
def guarded (err : ε) (body : Call ε τ κ (Ending α)) : Call ε τ κ α := fun c =>
  match control err c with
  | (.error e, c₁) => (.error e, c₁)
  | (.ok _, c₁) =>
    match body c₁ with
    | (.error e, c₂) => (.error e, c₂.rollback c)
    | (.ok (.leave a), c₂) => (.ok a, c₂.rollback c)
    | (.ok (.commit a), c₂) =>
      match control err c₂ with
      | (.error e, c₃) => (.error e, c₃.rollback c)
      | (.ok _, c₃) => (.ok a, c₃)

/-- A handler for one exception. -/
def catching [DecidableEq ε] (err : ε) (a : α) (x : Call ε τ κ α) : Call ε τ κ α := fun c =>
  match x c with
  | (.ok b, c') => (.ok b, c')
  | (.error e, c') => (if e = err then .ok a else .error e, c')

/-! ## Rules -/

theorem clear_nil (n : Nat) : Clear n [] := by
  induction n with
  | zero => trivial
  | succ n ih => exact ⟨rfl, ih⟩

theorem bind_apply_ok {x : Call ε τ κ α} {c m : Conn τ κ} {a : α} (hx : x c = (.ok a, m))
    (f : α → Call ε τ κ β) : (x >>= f) c = f a m := by
  show bind x f c = _
  simp only [bind, hx]

theorem bind_apply_error {x : Call ε τ κ α} {c m : Conn τ κ} {err : ε}
    (hx : x c = (.error err, m)) (f : α → Call ε τ κ β) : (x >>= f) c = (.error err, m) := by
  show bind x f c = _
  simp only [bind, hx]

/-- A sequence that went through went through its first part. -/
theorem bind_eq_ok {x : Call ε τ κ α} {f : α → Call ε τ κ β} {c c' : Conn τ κ} {b : β}
    (h : (x >>= f) c = (.ok b, c')) : ∃ a m, x c = (.ok a, m) ∧ f a m = (.ok b, c') := by
  cases hx : x c with
  | mk r m =>
    cases r with
    | ok a => exact ⟨a, m, rfl, (bind_apply_ok hx f).symm.trans h⟩
    | error err =>
      rw [bind_apply_error hx f] at h
      exact absurd (Prod.mk.inj h).1 nofun

/-- A sequence is left by its first part, or went through it. -/
theorem bind_cases {x : Call ε τ κ α} {f : α → Call ε τ κ β} {c c' : Conn τ κ} {r : Except ε β}
    (h : (x >>= f) c = (r, c')) : (∃ err, x c = (.error err, c') ∧ r = .error err) ∨
      ∃ a m, x c = (.ok a, m) ∧ f a m = (r, c') := by
  cases hx : x c with
  | mk r₁ m =>
    cases r₁ with
    | ok a => exact Or.inr ⟨a, m, rfl, (bind_apply_ok hx f).symm.trans h⟩
    | error err =>
      rw [bind_apply_error hx f] at h
      obtain ⟨rfl, rfl⟩ := Prod.mk.inj h
      exact Or.inl ⟨err, rfl, rfl⟩

/-- A statement fails and changes nothing, or goes through. -/
theorem execute_cases {err : ε} {stmt : Store τ κ → Option (α × Store τ κ)} {c c' : Conn τ κ}
    {r : Except ε α} (h : execute err stmt c = (r, c')) : (r = .error err ∧ c'.store = c.store) ∨
      ∃ a, r = .ok a ∧ stmt c.store = some (a, c'.store) := by
  unfold execute at h
  split at h
  · obtain ⟨rfl, rfl⟩ := Prod.mk.inj h
    exact Or.inl ⟨rfl, rfl⟩
  · split at h
    · obtain ⟨rfl, rfl⟩ := Prod.mk.inj h
      exact Or.inl ⟨rfl, rfl⟩
    · rename_i q hq
      obtain ⟨rfl, rfl⟩ := Prod.mk.inj h
      exact Or.inr ⟨q.1, rfl, hq⟩

/-- What a statement that went through did. -/
theorem execute_eq_ok {err : ε} {stmt : Store τ κ → Option (α × Store τ κ)} {c c' : Conn τ κ}
    {a : α} (h : execute err stmt c = (.ok a, c')) : stmt c.store = some (a, c'.store) := by
  obtain ⟨hr, -⟩ | ⟨b, hr, hstmt⟩ := execute_cases h
  · cases hr
  · rw [Except.ok.inj hr]
    exact hstmt

/-- `START TRANSACTION` and `COMMIT` leave the store alone. -/
theorem control_store {err : ε} {c c' : Conn τ κ} {r : Except ε Unit}
    (h : control err c = (r, c')) : c'.store = c.store := by
  unfold control execute at h
  split at h
  · obtain ⟨-, rfl⟩ := Prod.mk.inj h
    rfl
  · obtain ⟨-, rfl⟩ := Prod.mk.inj h
    rfl

/-- A statement that is not made to fail is its effect on the store. -/
theorem execute_of_clear {err : ε} {stmt : Store τ κ → Option (α × Store τ κ)}
    {s s' : Store τ κ} {a : α} {faults : List Bool} (hclear : faults.headD false = false)
    (h : stmt s = some (a, s')) :
    execute err stmt ⟨s, faults⟩ = (.ok a, ⟨s', faults.tail⟩) := by
  have hgoes : ¬faults.headD false = true := by
    rw [hclear]
    exact Bool.false_ne_true
  unfold execute
  rw [if_neg hgoes]
  simp only [h]

/-- On a connection without faults a statement is its effect on the store. -/
theorem execute_of_some {err : ε} {stmt : Store τ κ → Option (α × Store τ κ)}
    {s s' : Store τ κ} {a : α} (h : stmt s = some (a, s')) :
    execute err stmt ⟨s, []⟩ = (.ok a, ⟨s', []⟩) :=
  execute_of_clear rfl h

/-- A statement uses up the next fault, and went through only if it was not to fail. -/
theorem execute_faults {err : ε} {stmt : Store τ κ → Option (α × Store τ κ)} {c c' : Conn τ κ}
    {r : Except ε α} (h : execute err stmt c = (r, c')) :
    c'.faults = c.faults.tail ∧ ∀ a, r = .ok a → c.faults.headD false = false := by
  unfold execute at h
  split at h
  · obtain ⟨rfl, rfl⟩ := Prod.mk.inj h
    refine ⟨rfl, fun a ha => ?_⟩
    cases ha
  · rename_i hclear
    split at h
    · obtain ⟨rfl, rfl⟩ := Prod.mk.inj h
      refine ⟨rfl, fun a ha => ?_⟩
      cases ha
    · obtain ⟨rfl, rfl⟩ := Prod.mk.inj h
      exact ⟨rfl, fun _ _ => by simpa using hclear⟩

/-- A guarded block ran to its commit, or the tables are what they were: it was left with a result,
    or by an exception. -/
theorem guarded_cases {err : ε} {body : Call ε τ κ (Ending α)} {c c' : Conn τ κ}
    {r : Except ε α} (h : guarded err body c = (r, c')) :
    (∃ a c₁ c₂, r = .ok a ∧ c₁.store = c.store ∧ body c₁ = (.ok (.commit a), c₂) ∧
      c'.store = c₂.store) ∨
    (c'.store.tables = c.store.tables ∧ ((∃ e, r = .error e) ∨
      ∃ a c₁ c₂, r = .ok a ∧ c₁.store = c.store ∧ body c₁ = (.ok (.leave a), c₂))) := by
  unfold guarded at h
  cases hstart : control err c with
  | mk r₁ c₁ =>
    have hstore : c₁.store = c.store := control_store hstart
    cases r₁ with
    | error e =>
      simp only [hstart] at h
      obtain ⟨rfl, rfl⟩ := Prod.mk.inj h
      exact Or.inr ⟨congrArg Store.tables hstore, Or.inl ⟨e, rfl⟩⟩
    | ok u =>
      cases hbody : body c₁ with
      | mk r₂ c₂ =>
        simp only [hstart, hbody] at h
        cases r₂ with
        | error e =>
          obtain ⟨rfl, rfl⟩ := Prod.mk.inj h
          exact Or.inr ⟨rfl, Or.inl ⟨e, rfl⟩⟩
        | ok ending =>
          cases ending with
          | leave a =>
            obtain ⟨rfl, rfl⟩ := Prod.mk.inj h
            exact Or.inr ⟨rfl, Or.inr ⟨a, c₁, c₂, rfl, hstore, hbody⟩⟩
          | commit a =>
            cases hcommit : control err c₂ with
            | mk r₃ c₃ =>
              simp only [hcommit] at h
              cases r₃ with
              | error e =>
                obtain ⟨rfl, rfl⟩ := Prod.mk.inj h
                exact Or.inr ⟨rfl, Or.inl ⟨e, rfl⟩⟩
              | ok u' =>
                obtain ⟨hr, rfl⟩ := Prod.mk.inj h
                exact Or.inl ⟨a, c₁, c₂, hr.symm, hstore, hbody, control_store hcommit⟩

theorem execute_error {err e : ε} {stmt : Store τ κ → Option (α × Store τ κ)} {c c' : Conn τ κ}
    (h : execute err stmt c = (.error e, c')) : e = err := by
  obtain ⟨he, -⟩ | ⟨a, ha, -⟩ := execute_cases h
  · exact Except.error.inj he
  · cases ha

/-- Another exception than that of statements comes from the block. -/
theorem guarded_eq_error {err e : ε} {body : Call ε τ κ (Ending α)} {c c' : Conn τ κ}
    (h : guarded err body c = (.error e, c')) (hne : e ≠ err) :
    ∃ c₁ c₂, c₁.store = c.store ∧ body c₁ = (.error e, c₂) := by
  unfold guarded at h
  cases hstart : control err c with
  | mk r₁ c₁ =>
    cases r₁ with
    | error e₁ =>
      simp only [hstart] at h
      obtain rfl := Except.error.inj (Prod.mk.inj h).1
      exact absurd (execute_error hstart) hne
    | ok u =>
      cases hbody : body c₁ with
      | mk r₂ c₂ =>
        simp only [hstart, hbody] at h
        cases r₂ with
        | error e₂ =>
          obtain rfl := Except.error.inj (Prod.mk.inj h).1
          exact ⟨c₁, c₂, control_store hstart, hbody⟩
        | ok ending =>
          cases ending with
          | leave a => cases (Prod.mk.inj h).1
          | commit a =>
            cases hcommit : control err c₂ with
            | mk r₃ c₃ =>
              simp only [hcommit] at h
              cases r₃ with
              | error e₃ =>
                obtain rfl := Except.error.inj (Prod.mk.inj h).1
                exact absurd (execute_error hcommit) hne
              | ok u' => cases (Prod.mk.inj h).1

/-- A block that commits, between a start and a commit that are not made to fail. -/
theorem guarded_of_commit {err : ε} {body : Call ε τ κ (Ending α)} {s s' : Store τ κ} {a : α}
    {faults faults' : List Bool} (hstart : faults.headD false = false)
    (hcommit : faults'.headD false = false)
    (h : body ⟨s, faults.tail⟩ = (.ok (.commit a), ⟨s', faults'⟩)) :
    guarded err body ⟨s, faults⟩ = (.ok a, ⟨s', faults'.tail⟩) := by
  have hcontrol : control err ⟨s, faults⟩ = (.ok (), ⟨s, faults.tail⟩) :=
    execute_of_clear hstart rfl
  have hcontrol' : control err ⟨s', faults'⟩ = (.ok (), ⟨s', faults'.tail⟩) :=
    execute_of_clear hcommit rfl
  simp only [guarded, hcontrol, h, hcontrol']

/-- A guarded block that went through ran to its commit between a start and a commit that were not
    to fail, or was left. -/
theorem guarded_eq_ok {err : ε} {body : Call ε τ κ (Ending α)} {c c' : Conn τ κ} {a : α}
    (h : guarded err body c = (.ok a, c')) :
    (∃ c₂, c.faults.headD false = false ∧
      body ⟨c.store, c.faults.tail⟩ = (.ok (.commit a), c₂) ∧
      c₂.faults.headD false = false ∧ c'.faults = c₂.faults.tail) ∨
    ∃ c₁ c₂, c₁.store = c.store ∧ body c₁ = (.ok (.leave a), c₂) := by
  unfold guarded at h
  cases hstart : control err c with
  | mk r₁ c₁ =>
    obtain ⟨hfaults, hclear⟩ := execute_faults hstart
    have hc₁ : c₁ = ⟨c.store, c.faults.tail⟩ := by
      rw [← hfaults, ← control_store hstart]
    cases r₁ with
    | error e =>
      simp only [hstart] at h
      cases (Prod.mk.inj h).1
    | ok u =>
      cases hbody : body c₁ with
      | mk r₂ c₂ =>
        simp only [hstart, hbody] at h
        cases r₂ with
        | error e => cases (Prod.mk.inj h).1
        | ok ending =>
          cases ending with
          | leave b =>
            obtain ⟨hb, -⟩ := Prod.mk.inj h
            rw [Except.ok.inj hb] at hbody
            exact Or.inr ⟨c₁, c₂, control_store hstart, hbody⟩
          | commit b =>
            cases hcommit : control err c₂ with
            | mk r₃ c₃ =>
              obtain ⟨hfaults', hclear'⟩ := execute_faults hcommit
              simp only [hcommit] at h
              cases r₃ with
              | error e => cases (Prod.mk.inj h).1
              | ok u' =>
                obtain ⟨hb, rfl⟩ := Prod.mk.inj h
                rw [Except.ok.inj hb, hc₁] at hbody
                exact Or.inl ⟨c₂, hclear () rfl, hbody, hclear' () rfl, hfaults'⟩

/-- A block that throws before it has changed anything. -/
theorem guarded_of_error {err e : ε} {body : Call ε τ κ (Ending α)} {s : Store τ κ}
    (h : body ⟨s, []⟩ = (.error e, ⟨s, []⟩)) :
    guarded err body ⟨s, []⟩ = (.error e, ⟨s, []⟩) := by
  have hcontrol : control err ⟨s, []⟩ = (.ok (), ⟨s, []⟩) := execute_of_some rfl
  simp only [guarded, hcontrol, h, Conn.rollback, List.tail_nil]

/-- A handler does not touch the store; results and the other exceptions pass it. -/
theorem catching_cases [DecidableEq ε] {err : ε} {a : α} {x : Call ε τ κ α} {c c' : Conn τ κ}
    {r : Except ε α} (h : catching err a x c = (r, c')) :
    (∃ b, x c = (.ok b, c') ∧ r = .ok b) ∨ (x c = (.error err, c') ∧ r = .ok a) ∨
      ∃ e, e ≠ err ∧ x c = (.error e, c') ∧ r = .error e := by
  unfold catching at h
  cases hx : x c with
  | mk r₀ m =>
    simp only [hx] at h
    cases r₀ with
    | ok b =>
      obtain ⟨rfl, rfl⟩ := Prod.mk.inj h
      exact Or.inl ⟨b, rfl, rfl⟩
    | error e =>
      obtain ⟨hr, rfl⟩ := Prod.mk.inj h
      split at hr
      · rename_i heq
        subst heq
        exact Or.inr (Or.inl ⟨rfl, hr.symm⟩)
      · rename_i hne
        exact Or.inr (Or.inr ⟨e, hne, rfl, hr.symm⟩)

theorem catching_of_ok [DecidableEq ε] {err : ε} {a b : α} {x : Call ε τ κ α} {c c' : Conn τ κ}
    (h : x c = (.ok b, c')) : catching err a x c = (.ok b, c') := by
  simp only [catching, h]

/-- Another exception passes a handler. -/
theorem catching_of_error [DecidableEq ε] {err e : ε} {a : α} {x : Call ε τ κ α}
    {c c' : Conn τ κ} (h : x c = (.error e, c')) (hne : e ≠ err) :
    catching err a x c = (.error e, c') := by
  simp only [catching, h, if_neg hne]

/-! ## Counters -/

section Counters

variable {ν : Type} [Preorder ν] {f : κ → ν}

/-- A counter never goes back. -/
def Monotone (f : κ → ν) (x : Call ε τ κ α) : Prop :=
  ∀ c, f c.store.counters ≤ f (x c).2.store.counters

theorem monotone_pure (a : α) : Monotone f (Pure.pure a : Call ε τ κ α) :=
  fun _ => le_refl _

theorem monotone_throw (err : ε) : Monotone f (throw err : Call ε τ κ α) :=
  fun _ => le_refl _

theorem monotone_bind {x : Call ε τ κ α} {g : α → Call ε τ κ β} (hx : Monotone f x)
    (hg : ∀ a, Monotone f (g a)) : Monotone f (x >>= g) := by
  intro c
  cases h : x c with
  | mk r m =>
    have hm : f c.store.counters ≤ f m.store.counters := by
      have := hx c
      rwa [h] at this
    cases r with
    | ok a =>
      rw [bind_apply_ok h]
      exact le_trans hm (hg a m)
    | error err =>
      rw [bind_apply_error h]
      exact hm

theorem monotone_ite {p : Prop} [Decidable p] {x y : Call ε τ κ α} (hx : Monotone f x)
    (hy : Monotone f y) : Monotone f (if p then x else y) := by
  split
  · exact hx
  · exact hy

theorem monotone_execute {err : ε} {stmt : Store τ κ → Option (α × Store τ κ)}
    (h : ∀ s a s', stmt s = some (a, s') → f s.counters ≤ f s'.counters) :
    Monotone f (execute err stmt) := by
  intro c
  cases hx : execute err stmt c with
  | mk r m =>
    obtain ⟨-, hstore⟩ | ⟨a, -, hstmt⟩ := execute_cases hx
    · exact le_of_eq (congrArg (fun s => f s.counters) hstore.symm)
    · exact h _ a _ hstmt

theorem monotone_guarded {err : ε} {body : Call ε τ κ (Ending α)} (h : Monotone f body) :
    Monotone f (guarded err body) := by
  intro c
  unfold guarded
  cases hstart : control err c with
  | mk r₁ c₁ =>
    have hstore := control_store hstart
    cases r₁ with
    | error e => exact le_of_eq (congrArg (fun s => f s.counters) hstore.symm)
    | ok u =>
      cases hbody : body c₁ with
      | mk r₂ c₂ =>
        have hle : f c.store.counters ≤ f c₂.store.counters := by
          have := h c₁
          rwa [hbody, hstore] at this
        simp only [hbody]
        cases r₂ with
        | error e => exact hle
        | ok ending =>
          cases ending with
          | leave a => exact hle
          | commit a =>
            cases hcommit : control err c₂ with
            | mk r₃ c₃ =>
              have hend : f c.store.counters ≤ f c₃.store.counters := by
                rw [control_store hcommit]
                exact hle
              simp only [hcommit]
              cases r₃ <;> exact hend

theorem monotone_catching [DecidableEq ε] {err : ε} {a : α} {x : Call ε τ κ α}
    (h : Monotone f x) : Monotone f (catching err a x) := by
  intro c
  have hx := h c
  unfold catching
  cases hr : x c with
  | mk r m =>
    rw [hr] at hx
    cases r <;> exact hx

end Counters

end Call

end Transaction
