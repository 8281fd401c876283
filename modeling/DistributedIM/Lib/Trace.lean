/-
  Runs of a deterministic labelled transition system `step : σ → ε → Option σ`
  (`none`: the event is not enabled in the state).

  `exec` plays a list of events. `Meets C` says that a condition on (state, event) holds at every
  step a run takes, `Always P` that a state predicate holds in every state it visits. The rules
  turn a fact about one step into a fact about every run: `always_of_meets` (an invariant kept by
  the steps that meet a condition), `invariant` (kept by every step) and `meets_iff_meets` (two
  step conditions that agree under an invariant agree along runs). `history` is what a run leaves
  in a history variable; `history_invariant` relates it to the state the run ends in, `recorded`
  keeps it beside the state, for a condition that looks back.

  Not a liveness library: runs are finite and nothing here says that a run goes on.
-/
import Mathlib.Logic.Relation

namespace Trace

variable {σ ε : Type*} (step : σ → ε → Option σ)

/-! ## Runs -/

/-- The state after the events `es`, `none` as soon as one of them is not enabled. -/
def exec : σ → List ε → Option σ
  | s, [] => some s
  | s, e :: es => (step s e).bind fun s' => exec s' es

/-- `s'` is reached from `s` by some run. -/
def Reaches (s s' : σ) : Prop :=
  ∃ es, exec step s es = some s'

/-- `C` holds at every step the run takes. -/
def Meets (C : σ → ε → Prop) : σ → List ε → Prop
  | _, [] => True
  | s, e :: es => ∀ s', step s e = some s' → C s e ∧ Meets C s' es

/-- `P` holds in every state the run visits, the first one included. -/
def Always (P : σ → Prop) : σ → List ε → Prop
  | s, [] => P s
  | s, e :: es => P s ∧ ∀ s', step s e = some s' → Always P s' es

@[simp] theorem exec_cons (s : σ) (e : ε) (es : List ε) :
    exec step s (e :: es) = (step s e).bind fun s' => exec step s' es := rfl

theorem exec_singleton (s : σ) (e : ε) : exec step s [e] = step s e :=
  Option.bind_fun_some _

theorem exec_cons_some {s s' : σ} {e : ε} {es : List ε} :
    exec step s (e :: es) = some s' ↔ ∃ m, step s e = some m ∧ exec step m es = some s' := by
  rw [exec_cons, Option.bind_eq_some_iff]

theorem exec_append (s : σ) (es es' : List ε) :
    exec step s (es ++ es') = (exec step s es).bind fun m => exec step m es' := by
  induction es generalizing s with
  | nil => rfl
  | cons e es ih => simp [ih, Option.bind_assoc]

/-- A run goes on from where another one has ended. -/
theorem Reaches.exec {s m s' : σ} {es : List ε} (h : Reaches step s m)
    (he : Trace.exec step m es = some s') : Reaches step s s' := by
  obtain ⟨before, hbefore⟩ := h
  exact ⟨before ++ es, by rw [exec_append, hbefore, Option.bind_some, he]⟩

theorem always_head {P : σ → Prop} {s : σ} {es : List ε} (h : Always step P s es) : P s := by
  cases es with
  | nil => exact h
  | cons e es => exact h.1

/-- A run that goes on with `s'` meets the condition if the step does and the rest does. -/
theorem meets_cons_of_some {C : σ → ε → Prop} {s s' : σ} {e : ε} {es : List ε}
    (h : step s e = some s') : Meets step C s (e :: es) ↔ C s e ∧ Meets step C s' es := by
  constructor
  · intro hm
    exact hm s' h
  · intro hm t ht
    obtain rfl := Option.some.inj (h.symm.trans ht)
    exact hm

instance decidableMeets (C : σ → ε → Prop) [∀ s e, Decidable (C s e)] :
    ∀ s es, Decidable (Meets step C s es)
  | _, [] => isTrue trivial
  | s, e :: es =>
    match h : step s e with
    | none => isTrue fun _ hs' => nomatch h.symm.trans hs'
    | some s' =>
      have : Decidable (Meets step C s' es) := decidableMeets C s' es
      decidable_of_iff _ (meets_cons_of_some step h).symm

theorem meets_true (s : σ) (es : List ε) : Meets step (fun _ _ => True) s es := by
  induction es generalizing s with
  | nil => trivial
  | cons e es ih => exact fun s' _ => ⟨trivial, ih s'⟩

/-- A history variable after the run: `note` makes its next value of each step taken. -/
def history {β : Type*} (note : β → σ → ε → β) : β → σ → List ε → β
  | b, _, [] => b
  | b, s, e :: es =>
    match step s e with
    | none => b
    | some s' => history note (note b s e) s' es

/-- The same system, with the history variable kept beside the state. -/
def recorded {β : Type*} (note : β → σ → ε → β) : β × σ → ε → Option (β × σ) :=
  fun p e => (step p.2 e).map fun s' => (note p.1 p.2 e, s')

theorem recorded_eq_some {β : Type*} {note : β → σ → ε → β} {p p' : β × σ} {e : ε} :
    recorded step note p e = some p' ↔ step p.2 e = some p'.2 ∧ p'.1 = note p.1 p.2 e := by
  unfold recorded
  rw [Option.map_eq_some_iff]
  constructor
  · intro h
    obtain ⟨s', hs', rfl⟩ := h
    exact ⟨hs', rfl⟩
  · intro h
    exact ⟨p'.2, h.1, Prod.ext h.2.symm rfl⟩

/-- What a history variable records does not change the states visited. -/
theorem always_recorded {β : Type*} (note : β → σ → ε → β) (P : σ → Prop) (b : β) (s : σ)
    (es : List ε) :
    Always (recorded step note) (fun p => P p.2) (b, s) es ↔ Always step P s es := by
  induction es generalizing b s with
  | nil => exact Iff.rfl
  | cons e es ih =>
    refine and_congr_right fun _ => ?_
    constructor
    · intro h s' hs'
      exact (ih (note b s e) s').mp (h (note b s e, s') ((recorded_eq_some step).mpr ⟨hs', rfl⟩))
    · intro h p' hp'
      obtain ⟨hs', hb⟩ := (recorded_eq_some step).mp hp'
      exact (ih p'.1 p'.2).mpr (h p'.2 hs')

/-! ## From one step to every run -/

section Rules

variable {step}

theorem always_mono {P Q : σ → Prop} (hPQ : ∀ s, P s → Q s) {s : σ} {es : List ε}
    (h : Always step P s es) : Always step Q s es := by
  induction es generalizing s with
  | nil => exact hPQ s h
  | cons e es ih => exact ⟨hPQ s h.1, fun s' hs' => ih (h.2 s' hs')⟩

/-- An invariant kept by the steps that meet `C` holds along every run that meets `C`. -/
theorem always_of_meets (Inv : σ → Prop) {C : σ → ε → Prop}
    (hstep : ∀ s e s', Inv s → C s e → step s e = some s' → Inv s')
    {s : σ} {es : List ε} (hs : Inv s) (hm : Meets step C s es) : Always step Inv s es := by
  induction es generalizing s with
  | nil => exact hs
  | cons e es ih =>
    refine ⟨hs, fun s' hs' => ?_⟩
    obtain ⟨hc, hm'⟩ := hm s' hs'
    exact ih (hstep s e s' hs hc hs') hm'

/-- The last state of a run that goes through. -/
theorem exec_of_always {P : σ → Prop} {s s' : σ} {es : List ε} (h : Always step P s es)
    (he : exec step s es = some s') : P s' := by
  induction es generalizing s with
  | nil =>
    obtain rfl : s = s' := Option.some.inj he
    exact h
  | cons e es ih =>
    obtain ⟨m, hm, hes⟩ := (exec_cons_some step).mp he
    exact ih (h.2 m hm) hes

/-- An invariant of every step holds in every state of every run. -/
theorem always_of_invariant (Inv : σ → Prop)
    (hstep : ∀ s e s', Inv s → step s e = some s' → Inv s') {s : σ} (hs : Inv s) (es : List ε) :
    Always step Inv s es := by
  induction es generalizing s with
  | nil => exact hs
  | cons e es ih => exact ⟨hs, fun s' hs' => ih (hstep s e s' hs hs')⟩

/-- An invariant of every step holds in every state reached. -/
theorem invariant (Inv : σ → Prop) (hstep : ∀ s e s', Inv s → step s e = some s' → Inv s')
    {s s' : σ} (hs : Inv s) (hr : Reaches step s s') : Inv s' := by
  obtain ⟨es, he⟩ := hr
  exact exec_of_always (always_of_invariant Inv hstep hs es) he

/-- Where every step of one system is a run of another one, so is every run. -/
theorem Reaches.refines {τ δ : Type*} {step' : τ → δ → Option τ} (f : σ → τ)
    (hstep : ∀ s e s', step s e = some s' → Reaches step' (f s) (f s')) {s s' : σ}
    (h : Reaches step s s') : Reaches step' (f s) (f s') := by
  obtain ⟨es, he⟩ := h
  induction es generalizing s with
  | nil =>
    obtain rfl : s = s' := Option.some.inj he
    exact ⟨[], rfl⟩
  | cons e es ih =>
    obtain ⟨m, hm, hes⟩ := (exec_cons_some step).mp he
    obtain ⟨rest, hrest⟩ := ih hes
    exact (hstep s e m hm).exec _ hrest

/-- Where every good state with something left goes on to one with less left, there is a run to a
    good state with nothing left. -/
theorem reaches_of_progress (Good : σ → Prop) (left : σ → Nat)
    (hprogress : ∀ s, Good s → left s ≠ 0 → ∃ s', Reaches step s s' ∧ Good s' ∧ left s' < left s)
    {s : σ} (hs : Good s) : ∃ s', Reaches step s s' ∧ Good s' ∧ left s' = 0 := by
  induction hn : left s using Nat.strongRecOn generalizing s with
  | _ n ih =>
    by_cases hzero : left s = 0
    · exact ⟨s, ⟨[], rfl⟩, hs, hzero⟩
    · obtain ⟨m, hm, hgood, hless⟩ := hprogress s hs hzero
      obtain ⟨s', ⟨es, hes⟩, hdone⟩ := ih (left m) (hn ▸ hless) hgood rfl
      exact ⟨s', hm.exec step hes, hdone⟩

/-- A relation between the state and a history variable that every step keeps. -/
theorem history_invariant {β : Type*} {note : β → σ → ε → β} (Inv : σ → β → Prop)
    (hstep : ∀ s b e s', Inv s b → step s e = some s' → Inv s' (note b s e))
    {s s' : σ} {b : β} {es : List ε} (hs : Inv s b) (he : exec step s es = some s') :
    Inv s' (history step note b s es) := by
  induction es generalizing s b with
  | nil =>
    obtain rfl : s = s' := Option.some.inj he
    exact hs
  | cons e es ih =>
    obtain ⟨m, hm, hes⟩ := (exec_cons_some step).mp he
    simp only [history, hm]
    exact ih (hstep s b e m hs hm) hes

/-- Under an invariant that the good steps keep, two step conditions that say the same about each
    step say the same about each run. -/
theorem meets_iff_meets (Inv : σ → Prop) {C D : σ → ε → Prop}
    (hCD : ∀ s e s', Inv s → step s e = some s' → (C s e ↔ D s e))
    (hstep : ∀ s e s', Inv s → D s e → step s e = some s' → Inv s')
    {s : σ} (hs : Inv s) (es : List ε) : Meets step C s es ↔ Meets step D s es := by
  induction es generalizing s with
  | nil => exact Iff.rfl
  | cons e es ih =>
    refine forall₂_congr fun s' hs' => ?_
    rw [hCD s e s' hs hs']
    refine and_congr_right fun hd => ?_
    exact ih (hstep s e s' hs hd hs')

/-- Under an invariant that the steps meeting `C` keep, a weaker step condition holds along every
    run that meets `C`. -/
theorem meets_mono (Inv : σ → Prop) {C D : σ → ε → Prop}
    (hCD : ∀ s e s', Inv s → C s e → step s e = some s' → D s e ∧ Inv s')
    {s : σ} (hs : Inv s) {es : List ε} (h : Meets step C s es) : Meets step D s es := by
  induction es generalizing s with
  | nil => trivial
  | cons e es ih =>
    intro s' hs'
    obtain ⟨hc, htail⟩ := h s' hs'
    obtain ⟨hd, hs''⟩ := hCD s e s' hs hc hs'
    exact ⟨hd, ih hs'' htail⟩

/-- Where the steps outside `C` do damage that no later step repairs, a run keeps the invariant
    if all its steps meet `C`, and ends damaged if one does not. -/
theorem meets_or_damaged (Inv Damaged : σ → Prop) {C : σ → ε → Prop}
    (hgood : ∀ s e s', Inv s → C s e → step s e = some s' → Inv s')
    (hbad : ∀ s e s', Inv s → ¬ C s e → step s e = some s' → Damaged s')
    (hstays : ∀ s e s', Damaged s → step s e = some s' → Damaged s')
    {s s' : σ} {es : List ε} (hs : Inv s) (he : exec step s es = some s') :
    Meets step C s es ∧ Inv s' ∨ ¬ Meets step C s es ∧ Damaged s' := by
  induction es generalizing s with
  | nil =>
    obtain rfl : s = s' := Option.some.inj he
    exact Or.inl ⟨trivial, hs⟩
  | cons e es ih =>
    obtain ⟨m, hm, hes⟩ := (exec_cons_some step).mp he
    rw [meets_cons_of_some step hm]
    by_cases hc : C s e
    · rcases ih (hgood s e m hs hc hm) hes with ⟨hmeets, hinv⟩ | ⟨hfails, hdamaged⟩
      · exact Or.inl ⟨⟨hc, hmeets⟩, hinv⟩
      · exact Or.inr ⟨fun h => hfails h.2, hdamaged⟩
    · right
      refine ⟨fun h => hc h.1, ?_⟩
      exact invariant Damaged hstays (hbad s e m hs hc hm) ⟨es, hes⟩

/-- A property of the states and one of the steps that the invariant and `C` imply, and one of which
    every step outside `C` breaks, hold along a run exactly when all its steps meet `C`. -/
theorem always_and_meets_iff_meets (Inv : σ → Prop) {P : σ → Prop} {C D : σ → ε → Prop}
    (hP : ∀ s, Inv s → P s)
    (hgood : ∀ s e s', Inv s → C s e → step s e = some s' → D s e ∧ Inv s')
    (hbad : ∀ s e s', Inv s → ¬ C s e → step s e = some s' → D s e → ¬ P s')
    {s : σ} (hs : Inv s) (es : List ε) :
    Always step P s es ∧ Meets step D s es ↔ Meets step C s es := by
  constructor
  · intro h
    induction es generalizing s with
    | nil => trivial
    | cons e es ih =>
      intro s' hs'
      have htail := h.1.2 s' hs'
      obtain ⟨hd, hmeets⟩ := h.2 s' hs'
      have hc : C s e := Classical.byContradiction fun hne =>
        hbad s e s' hs hne hs' hd (always_head step htail)
      exact ⟨hc, ih (hgood s e s' hs hc hs').2 ⟨htail, hmeets⟩⟩
  · intro h
    have hinv : Always step Inv s es :=
      always_of_meets Inv (fun s e s' hs hc hs' => (hgood s e s' hs hc hs').2) hs h
    exact ⟨always_mono hP hinv, meets_mono Inv hgood hs h⟩

/-- A property that the invariant implies, and that every step outside `C` breaks, holds along a
    run exactly when all its steps meet `C`. -/
theorem always_iff_meets (Inv : σ → Prop) {P : σ → Prop} {C : σ → ε → Prop}
    (hP : ∀ s, Inv s → P s)
    (hgood : ∀ s e s', Inv s → C s e → step s e = some s' → Inv s')
    (hbad : ∀ s e s', Inv s → ¬ C s e → step s e = some s' → ¬ P s')
    {s : σ} (hs : Inv s) (es : List ε) : Always step P s es ↔ Meets step C s es := by
  have hboth := always_and_meets_iff_meets (D := fun _ _ => True) Inv hP
    (fun s e s' hs hc hs' => ⟨trivial, hgood s e s' hs hc hs'⟩)
    (fun s e s' hs hc hs' _ => hbad s e s' hs hc hs') hs es
  rwa [and_iff_left (meets_true step s es)] at hboth

end Rules

end Trace
