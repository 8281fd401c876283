/-
  `ConnectionPool` and `ConnectionRAII`: a queue of stubs, and guards that take a stub out of the
  queue and bring it back when they are destroyed.

  A guard holds its stub in a `unique_ptr` and says in `status` whether to bring it back. The move
  operations are the defaulted ones: they copy `status` and empty the `unique_ptr` of the source, and
  an assignment destroys the stub of its target.

  `Conserved` is what the pool is for. Along a run it holds in every state exactly if every step is
  `Orderly` (`always_conserved_iff`): no guard is destroyed while it is empty but active, as it is
  after a move, and none that holds a stub to bring back is assigned over.

  Guards are numbered in the order of their construction, stubs too. A construction waits while the
  queue is empty. The pool is not shut down.
-/
import Mathlib.Data.Multiset.Range
import DistributedIM.Lib.Slots
import DistributedIM.Lib.Trace

namespace DistributedIM.ChattingServer

open Slots

/-- `m_stub` is the number of the stub, if there is one. -/
structure ConnectionRAII where
  status : Bool
  stub : Option Nat
  deriving DecidableEq, Repr

namespace ConnectionRAII

def isActive (g : ConnectionRAII) : Bool := g.status

/-- A source after a move, of either kind. -/
def movedFrom (g : ConnectionRAII) : ConnectionRAII := { g with stub := none }

def invalidate (g : ConnectionRAII) : ConnectionRAII := { g with status := false }

/-- The stub that the guard will bring back. -/
def held (g : ConnectionRAII) : Option Nat :=
  if g.isActive then g.stub else none

end ConnectionRAII

structure ConnectionPool where
  stubQueue : List (Option Nat)
  /-- all guards so far; none: destroyed -/
  guards : List (Option ConnectionRAII)
  /-- the stubs made so far -/
  created : Nat
  /-- the stubs whose guard was told not to bring them back -/
  invalidated : List Nat
  deriving DecidableEq, Repr

namespace ConnectionPool

def empty : ConnectionPool := ⟨[], [], 0, []⟩

/-- A guard that is alive. -/
def live (s : ConnectionPool) (i : Nat) : Option ConnectionRAII :=
  s.guards[i]?.join

/-! ## Operations -/

inductive Event
  /-- `connector`: a new stub -/
  | connector
  | construct
  | moveConstruct (source : Nat)
  | moveAssign (target source : Nat)
  | destroy (i : Nat)
  | invalidate (i : Nat)
  deriving DecidableEq, Repr

def connector (s : ConnectionPool) : ConnectionPool :=
  { s with stubQueue := s.stubQueue ++ [some s.created], created := s.created + 1 }

/-- `ConnectionRAII()` with `acquire`; none: it waits. -/
def construct (s : ConnectionPool) : Option ConnectionPool :=
  match s.stubQueue with
  | [] => none
  | stub :: rest => some { s with stubQueue := rest, guards := s.guards ++ [some ⟨true, stub⟩] }

def moveConstruct (s : ConnectionPool) (source : Nat) (g : ConnectionRAII) : ConnectionPool :=
  { s with guards := s.guards.set source (some g.movedFrom) ++ [some g] }

/-- An assignment of a guard to itself changes nothing. -/
def moveAssign (s : ConnectionPool) (target source : Nat) (g : ConnectionRAII) : ConnectionPool :=
  if target = source then s
  else { s with guards := (s.guards.set source (some g.movedFrom)).set target (some g) }

/-- `~ConnectionRAII()` with `release` -/
def destroy (s : ConnectionPool) (i : Nat) (g : ConnectionRAII) : ConnectionPool :=
  { s with
    stubQueue := if g.isActive then s.stubQueue ++ [g.stub] else s.stubQueue
    guards := s.guards.set i none }

def invalidate (s : ConnectionPool) (i : Nat) (g : ConnectionRAII) : ConnectionPool :=
  { s with
    guards := s.guards.set i (some g.invalidate)
    invalidated := s.invalidated ++ g.held.toList }

/-- One operation, on guards that are alive. -/
def step (s : ConnectionPool) : Event → Option ConnectionPool
  | .connector => some s.connector
  | .construct => s.construct
  | .moveConstruct source => (s.live source).map (s.moveConstruct source)
  | .moveAssign target source =>
    (s.live target).bind fun _ => (s.live source).map (s.moveAssign target source)
  | .destroy i => (s.live i).map (s.destroy i)
  | .invalidate i => (s.live i).map (s.invalidate i)

/-! ## What the pool is for -/

/-- The stubs in the queue. -/
def queued (s : ConnectionPool) : Multiset Nat := contents id s.stubQueue

/-- The stubs that the guards will bring back. -/
def held (s : ConnectionPool) : Multiset Nat :=
  contents (fun g => g.bind ConnectionRAII.held) s.guards

structure Conserved (s : ConnectionPool) : Prop where
  noNull : none ∉ s.stubQueue
  apart : ∀ stub i g, some stub ∈ s.stubQueue → s.live i = some g → g.stub ≠ some stub
  counted : s.queued.card + s.held.card + s.invalidated.length = s.created

/-- The guard brings nothing back although it is active: it has been moved from. -/
def Hollow (g : ConnectionRAII) : Prop :=
  g.isActive = true ∧ g.stub = none

def Orderly (s : ConnectionPool) : Event → Prop
  | .destroy i => ∀ g, s.live i = some g → ¬Hollow g
  | .moveAssign target source =>
    target = source ∨ ∀ g, s.live target = some g → g.held = none
  | _ => True

/-! ## The invariant -/

/-- Every stub is in the queue, with a guard, or invalidated, and nowhere twice; a stub that a guard
    keeps but does not bring back is invalidated. -/
structure Inv (s : ConnectionPool) : Prop where
  noNull : none ∉ s.stubQueue
  account : s.queued + s.held + s.invalidated = Multiset.range s.created
  spent : ∀ i g, s.live i = some g → g.isActive = false → ∀ stub, g.stub = some stub →
    stub ∈ s.invalidated

theorem inv_empty : Inv empty where
  noNull := List.not_mem_nil
  account := rfl
  spent := by
    intro i g hlive
    simp [live, empty] at hlive

theorem live_eq_some {s : ConnectionPool} {i : Nat} {g : ConnectionRAII} :
    s.live i = some g ↔ s.guards[i]? = some (some g) := by
  rw [live, Option.join_eq_some_iff]

theorem held_eq_some {g : ConnectionRAII} {stub : Nat} :
    g.held = some stub ↔ g.isActive = true ∧ g.stub = some stub := by
  unfold ConnectionRAII.held
  split
  · rename_i hactive
    simp [hactive]
  · rename_i hactive
    simp [hactive]

theorem conserved_of_inv {s : ConnectionPool} (h : Inv s) : Conserved s where
  noNull := h.noNull
  apart := by
    intro stub i g hqueue hlive hstub
    have hnodup : (s.queued + s.held + s.invalidated).Nodup := by
      rw [h.account]
      exact Multiset.nodup_range s.created
    have hqueued : stub ∈ s.queued := mem_contents.mpr ⟨some stub, hqueue, rfl⟩
    rw [Multiset.nodup_add] at hnodup
    obtain ⟨hnodup, -, hinvalid⟩ := hnodup
    cases hactive : g.isActive with
    | true =>
      have hheld : stub ∈ s.held :=
        mem_contents.mpr ⟨some g, List.mem_of_getElem? (live_eq_some.mp hlive),
          held_eq_some.mpr ⟨hactive, hstub⟩⟩
      exact Multiset.disjoint_left.mp (Multiset.nodup_add.mp hnodup).2.2 hqueued hheld
    | false =>
      have hspent : stub ∈ s.invalidated := h.spent i g hlive hactive stub hstub
      exact Multiset.disjoint_left.mp hinvalid (Multiset.mem_add.mpr (Or.inl hqueued)) hspent
  counted := by
    have hcard := congrArg Multiset.card h.account
    rwa [Multiset.card_add, Multiset.card_add, Multiset.coe_card, Multiset.card_range] at hcard

/-! ## One operation -/

section Guards

variable {guards : List (Option ConnectionRAII)} {x : Option ConnectionRAII} {g : ConnectionRAII}

theorem live_set {i j : Nat} (h : (guards.set i x)[j]?.join = some g) :
    x = some g ∨ guards[j]?.join = some g := by
  rw [List.getElem?_set] at h
  split at h
  · split at h
    · exact Or.inl h
    · cases h
  · exact Or.inr h

theorem live_append {j : Nat} (h : (guards ++ [x])[j]?.join = some g) :
    x = some g ∨ guards[j]?.join = some g := by
  rw [List.getElem?_append] at h
  split at h
  · exact Or.inr h
  · rw [List.getElem?_singleton] at h
    split at h
    · exact Or.inl h
    · cases h

end Guards

theorem held_movedFrom (g : ConnectionRAII) : g.movedFrom.held = none := by
  unfold ConnectionRAII.held
  split
  · rfl
  · rfl

theorem held_invalidate (g : ConnectionRAII) : g.invalidate.held = none := rfl

variable {s s' : ConnectionPool} {g : ConnectionRAII}

theorem inv_connector (h : Inv s) : Inv s.connector where
  noNull := by
    intro hnull
    rcases List.mem_append.mp hnull with hold | hnew
    · exact h.noNull hold
    · simp at hnew
  account := by
    have hqueued : s.connector.queued = s.queued + {s.created} := contents_append s.stubQueue _
    have haccount := h.account
    calc s.connector.queued + s.held + s.invalidated
        = s.created ::ₘ (s.queued + s.held + s.invalidated) := by
          rw [hqueued, ← Multiset.singleton_add]
          ac_rfl
      _ = Multiset.range (s.created + 1) := by rw [haccount, Multiset.range_succ]
  spent := h.spent

theorem inv_construct (h : Inv s) (hstep : s.construct = some s') : Inv s' := by
  unfold construct at hstep
  cases hqueue : s.stubQueue with
  | nil =>
    rw [hqueue] at hstep
    cases hstep
  | cons front rest =>
    rw [hqueue] at hstep
    cases hstep
    have hnull : none ∉ front :: rest := hqueue ▸ h.noNull
    obtain ⟨stub, rfl⟩ : ∃ stub, front = some stub := by
      cases front with
      | none => exact absurd List.mem_cons_self hnull
      | some stub => exact ⟨stub, rfl⟩
    refine ⟨fun hmem => hnull (List.mem_cons_of_mem _ hmem), ?_, ?_⟩
    · have hqueued : s.queued = {stub} + contents id rest := by
        rw [queued, hqueue, contents_cons]
        rfl
      have haccount := h.account
      rw [hqueued] at haccount
      have hheld : contents (fun g => g.bind ConnectionRAII.held)
          (s.guards ++ [some ⟨true, some stub⟩]) = s.held + {stub} :=
        contents_append s.guards _
      rw [queued, held, hheld]
      exact Eq.trans (by ac_rfl) haccount
    · intro i g hlive hactive stub' hstub
      rcases live_append hlive with heq | hold
      · obtain rfl := Option.some.inj heq
        cases hactive
      · exact h.spent i g hold hactive stub' hstub

/-- Nothing is held in another place after a move. -/
theorem held_moveConstruct {i : Nat} (hlive : s.live i = some g) :
    (s.moveConstruct i g).held = s.held := by
  have hset := contents_set (f := fun g => g.bind ConnectionRAII.held) (live_eq_some.mp hlive)
    (some g.movedFrom)
  rw [Option.bind_some, Option.bind_some, held_movedFrom] at hset
  change contents _ (s.guards.set i (some g.movedFrom) ++ [some g]) = _
  rw [contents_append, contents_cons, contents_nil, add_zero, held]
  exact hset.trans (add_zero _)

theorem inv_moveConstruct {i : Nat} (h : Inv s) (hlive : s.live i = some g) :
    Inv (s.moveConstruct i g) where
  noNull := h.noNull
  account := by
    rw [held_moveConstruct hlive]
    exact h.account
  spent := by
    intro j g' hlive' hactive stub hstub
    rcases live_append hlive' with heq | hset
    · obtain rfl := Option.some.inj heq
      exact h.spent i g hlive hactive stub hstub
    · rcases live_set hset with heq | hold
      · obtain rfl := Option.some.inj heq
        cases hstub
      · exact h.spent j g' hold hactive stub hstub

/-- The stub that the target would bring back is lost. -/
theorem held_moveAssign {i j : Nat} {target : ConnectionRAII} (hij : i ≠ j)
    (htarget : s.live i = some target) (hlive : s.live j = some g) :
    (s.moveAssign i j g).held + target.held.toList = s.held := by
  have hsource := contents_set (f := fun g => g.bind ConnectionRAII.held)
    (live_eq_some.mp hlive) (some g.movedFrom)
  have hother : (s.guards.set j (some g.movedFrom))[i]? = some (some target) := by
    rw [List.getElem?_set_ne hij.symm]
    exact live_eq_some.mp htarget
  have hset := contents_set (f := fun g => g.bind ConnectionRAII.held) hother (some g)
  rw [Option.bind_some, Option.bind_some] at hsource hset
  rw [held_movedFrom] at hsource
  rw [moveAssign, if_neg hij]
  exact hset.trans (hsource.trans (add_zero _))

theorem inv_moveAssign {i j : Nat} {target : ConnectionRAII} (h : Inv s)
    (htarget : s.live i = some target) (hlive : s.live j = some g)
    (horderly : i = j ∨ target.held = none) : Inv (s.moveAssign i j g) := by
  by_cases hij : i = j
  · rw [moveAssign, if_pos hij]
    exact h
  have hheld := held_moveAssign hij htarget hlive
  rw [horderly.resolve_left hij] at hheld
  have hqueued : (s.moveAssign i j g).stubQueue = s.stubQueue := by
    rw [moveAssign, if_neg hij]
  refine ⟨hqueued ▸ h.noNull, ?_, ?_⟩
  · have haccount := h.account
    rw [← hheld] at haccount
    rw [queued, hqueued]
    have hrest : (s.moveAssign i j g).invalidated = s.invalidated ∧
        (s.moveAssign i j g).created = s.created := by
      rw [moveAssign, if_neg hij]
      exact ⟨rfl, rfl⟩
    rw [hrest.1, hrest.2, ← haccount]
    simp [queued]
  · intro k g' hlive' hactive stub hstub
    rw [moveAssign, if_neg hij] at hlive' ⊢
    rcases live_set hlive' with heq | hset
    · obtain rfl := Option.some.inj heq
      exact h.spent j g hlive hactive stub hstub
    · rcases live_set hset with heq | hold
      · obtain rfl := Option.some.inj heq
        cases hstub
      · exact h.spent k g' hold hactive stub hstub

/-- The guard gives up what it holds. -/
theorem held_set {i : Nat} (hlive : s.live i = some g) {x : Option ConnectionRAII}
    (hx : x.bind ConnectionRAII.held = none) :
    contents (fun g => g.bind ConnectionRAII.held) (s.guards.set i x) + g.held.toList =
      s.held := by
  have hset := contents_set (f := fun g => g.bind ConnectionRAII.held) (live_eq_some.mp hlive) x
  rw [hx] at hset
  exact hset.trans (add_zero _)

/-- The stub goes back to the queue, or there is none. -/
theorem queued_destroy (s : ConnectionPool) (i : Nat) (g : ConnectionRAII) :
    (s.destroy i g).queued = s.queued + g.held.toList := by
  unfold destroy queued ConnectionRAII.held
  cases g.isActive with
  | false => exact (add_zero _).symm
  | true =>
    rw [if_pos rfl, if_pos rfl, contents_append, contents_cons, contents_nil, add_zero]
    rfl

theorem inv_destroy {i : Nat} (h : Inv s) (hlive : s.live i = some g) (horderly : ¬Hollow g) :
    Inv (s.destroy i g) where
  noNull := by
    intro hnull
    unfold destroy at hnull
    split at hnull
    · rename_i hactive
      rcases List.mem_append.mp hnull with hold | hnew
      · exact h.noNull hold
      · exact horderly ⟨hactive, (List.mem_singleton.mp hnew).symm⟩
    · exact h.noNull hnull
  account := by
    have hheld : (s.destroy i g).held + g.held.toList = s.held := held_set (x := none) hlive rfl
    calc (s.destroy i g).queued + (s.destroy i g).held + s.invalidated
        = s.queued + ((s.destroy i g).held + g.held.toList) + s.invalidated := by
          rw [queued_destroy]
          ac_rfl
      _ = Multiset.range s.created := by rw [hheld, h.account]
  spent := by
    intro j g' hlive' hactive stub hstub
    rcases live_set hlive' with heq | hold
    · cases heq
    · exact h.spent j g' hold hactive stub hstub

theorem inv_invalidate {i : Nat} (h : Inv s) (hlive : s.live i = some g) :
    Inv (s.invalidate i g) where
  noNull := h.noNull
  account := by
    have hheld : (s.invalidate i g).held + g.held.toList = s.held :=
      held_set (x := some g.invalidate) hlive (held_invalidate g)
    have hinvalidated : ((s.invalidate i g).invalidated : Multiset Nat) =
        s.invalidated + g.held.toList := (Multiset.coe_add _ _).symm
    calc s.queued + (s.invalidate i g).held + (s.invalidate i g).invalidated
        = s.queued + ((s.invalidate i g).held + g.held.toList) + s.invalidated := by
          rw [hinvalidated]
          ac_rfl
      _ = Multiset.range s.created := by rw [hheld, h.account]
  spent := by
    intro j g' hlive' hactive stub hstub
    apply List.mem_append.mpr
    rcases live_set hlive' with heq | hold
    · obtain rfl := Option.some.inj heq
      cases hheld : g.isActive with
      | true =>
        right
        rw [held_eq_some.mpr ⟨hheld, hstub⟩]
        exact List.mem_singleton_self stub
      | false => exact Or.inl (h.spent i g hlive hheld stub hstub)
    · exact Or.inl (h.spent j g' hold hactive stub hstub)

/-! ## Runs -/

theorem inv_step {e : Event} (h : Inv s) (horderly : Orderly s e) (hstep : s.step e = some s') :
    Inv s' := by
  cases e with
  | connector =>
    cases hstep
    exact inv_connector h
  | construct => exact inv_construct h hstep
  | moveConstruct source =>
    obtain ⟨g, hlive, rfl⟩ := Option.map_eq_some_iff.mp hstep
    exact inv_moveConstruct h hlive
  | moveAssign target source =>
    obtain ⟨g₀, htarget, hstep⟩ := Option.bind_eq_some_iff.mp hstep
    obtain ⟨g, hlive, rfl⟩ := Option.map_eq_some_iff.mp hstep
    exact inv_moveAssign h htarget hlive (horderly.imp id fun hheld => hheld g₀ htarget)
  | destroy i =>
    obtain ⟨g, hlive, rfl⟩ := Option.map_eq_some_iff.mp hstep
    exact inv_destroy h hlive (horderly g hlive)
  | invalidate i =>
    obtain ⟨g, hlive, rfl⟩ := Option.map_eq_some_iff.mp hstep
    exact inv_invalidate h hlive

/-- Destroying a hollow guard puts null into the queue. -/
theorem null_of_hollow {i : Nat} (hhollow : Hollow g) : none ∈ (s.destroy i g).stubQueue := by
  rw [destroy, if_pos hhollow.1, hhollow.2]
  exact List.mem_append_right _ (List.mem_singleton_self none)

/-- Assigning over a guard that holds a stub leaves one stub too few. -/
theorem lost_of_moveAssign {i j : Nat} {target : ConnectionRAII} (h : Inv s) (hij : i ≠ j)
    (htarget : s.live i = some target) (hlive : s.live j = some g) (hheld : target.held ≠ none) :
    ¬Conserved (s.moveAssign i j g) := by
  intro hconserved
  obtain ⟨stub, hstub⟩ := Option.ne_none_iff_exists'.mp hheld
  have hlost := congrArg Multiset.card (held_moveAssign hij htarget hlive)
  rw [hstub, Multiset.card_add] at hlost
  have hbefore := (conserved_of_inv h).counted
  have hafter := hconserved.counted
  have hrest : (s.moveAssign i j g).queued = s.queued ∧
      (s.moveAssign i j g).invalidated = s.invalidated ∧
      (s.moveAssign i j g).created = s.created := by
    rw [moveAssign, if_neg hij]
    exact ⟨rfl, rfl, rfl⟩
  rw [hrest.1, hrest.2.1, hrest.2.2] at hafter
  simp only [Option.toList_some, Multiset.coe_card, List.length_singleton] at hlost
  omega

theorem not_conserved_of_not_orderly {e : Event} (h : Inv s) (hbad : ¬Orderly s e)
    (hstep : s.step e = some s') : ¬Conserved s' := by
  cases e with
  | connector => exact absurd trivial hbad
  | construct => exact absurd trivial hbad
  | moveConstruct source => exact absurd trivial hbad
  | moveAssign target source =>
    obtain ⟨g₀, htarget, hstep⟩ := Option.bind_eq_some_iff.mp hstep
    obtain ⟨g, hlive, rfl⟩ := Option.map_eq_some_iff.mp hstep
    unfold Orderly at hbad
    push Not at hbad
    obtain ⟨hij, g₁, hlive₁, hheld⟩ := hbad
    exact lost_of_moveAssign h hij hlive₁ hlive hheld
  | destroy i =>
    obtain ⟨g, hlive, rfl⟩ := Option.map_eq_some_iff.mp hstep
    have hhollow : Hollow g := by
      by_contra hnot
      apply hbad
      intro g' hlive'
      obtain rfl := Option.some.inj (hlive.symm.trans hlive')
      exact hnot
    exact fun hconserved => hconserved.noNull (null_of_hollow hhollow)
  | invalidate i => exact absurd trivial hbad

/-- The stubs are conserved in every state of a run exactly if all its steps are orderly. -/
theorem always_conserved_iff (es : List Event) :
    Trace.Always step Conserved empty es ↔ Trace.Meets step Orderly empty es :=
  Trace.always_iff_meets Inv (fun _ => conserved_of_inv)
    (fun _ _ _ h horderly hstep => inv_step h horderly hstep)
    (fun _ _ _ h hbad hstep => not_conserved_of_not_orderly h hbad hstep) inv_empty es

/-- One stub, a guard for it, a second guard made from the first by a move, and the end of the first:
    the queue then has a null stub. -/
theorem not_conserved_movedFrom :
    ¬Trace.Always step Conserved empty [.connector, .construct, .moveConstruct 0, .destroy 0] := by
  intro h
  have hlast : Conserved ⟨[none], [none, some ⟨true, some 0⟩], 1, []⟩ :=
    Trace.exec_of_always h rfl
  exact hlast.noNull (List.mem_singleton_self none)

end ConnectionPool

end DistributedIM.ChattingServer
