/-
  `IOServicePool::getIOServiceContext`, called by any number of threads: the `fetch_add` on
  `m_curr`, the `at` on the vector of contexts, the `load` that compares `m_curr` with the size of
  the pool and the `store` that sends it back to 0.

  `m_curr` is brought back by a call that sees it equal to the size, some steps after the
  `fetch_add` that made it so. `inRange_iff`: `at` gets an index of the pool in every call of a
  run exactly if each `fetch_add` is one of at most `threads` since the last `store`.
  `inRange_of_alone`: so it is for calls that follow one another.
-/
import DistributedIM.Lib.Interleave
import DistributedIM.Lib.Trace
import Mathlib.Algebra.Group.Nat.Even

namespace DistributedIM.ChattingServer

/-- The pool; without a number the constructor takes `std::thread::hardware_concurrency()`, and 2
    where that is less. -/
structure IOServicePool where
  /-- `m_ioc_pool.size()` -/
  threads : Nat
  two_le : 2 ≤ threads
  /-- a `std::size_t` -/
  fits : threads < 2 ^ 64

namespace IOServicePool

variable (pool : IOServicePool)

theorem zero_ne : 0 ≠ pool.threads := by
  have htwo := pool.two_le
  omega

/-- The next step of a call; `index` is what `fetch_add` returned and `at` got. -/
inductive Pc
  | fetchAdd
  | load (index : Nat)
  | store (index : Nat)
  | returned (index : Nat)
  /-- `std::out_of_range` -/
  | threw (index : Nat)
  deriving DecidableEq, Repr

/-- The index that the call has passed to `m_ioc_pool.at`. -/
def Pc.index : Pc → Option Nat
  | .fetchAdd => none
  | .load index | .store index | .returned index | .threw index => some index

/-- One atomic step of `getIOServiceContext` on `m_curr`. -/
def advance (curr : Nat) : Pc → Option (Nat × Pc)
  | .fetchAdd =>
    let next := (curr + 1) % 2 ^ 64
    -- `at` touches nothing that the calls share
    if curr < pool.threads then some (next, .load curr) else some (next, .threw curr)
  | .load index =>
    if curr = pool.threads then some (curr, .store index) else some (curr, .returned index)
  | .store index => some (0, .returned index)
  | .returned _ => none
  | .threw _ => none

/-- `m_curr` and the calls. -/
abbrev Calls := Pool Nat Pc

def init : Calls where
  shared := 0
  procs := []

inductive Event
  /-- a thread calls `getIOServiceContext` -/
  | call
  | run (i : Nat)
  deriving DecidableEq, Repr

def step (s : Calls) : Event → Option Calls
  | .call => some (s.spawn .fetchAdd)
  | .run i => s.runProc pool.advance i

/-- Every index that a call has passed to `at` is an index of the pool. -/
def InRange (s : Calls) : Prop :=
  ∀ pc ∈ s.procs, ∀ index, pc.index = some index → index < pool.threads

/-- How many `fetch_add` there were since the last `store`. -/
def sinceStore (n : Nat) (s : Calls) : Event → Nat
  | .call => n
  | .run i =>
    match s.procs[i]? with
    | some .fetchAdd => n + 1
    | some (.store _) => 0
    | _ => n

/-- A `fetch_add` comes after fewer than `threads` others since the last `store`. -/
def Spaced (p : Nat × Calls) : Event → Prop
  | .call => True
  | .run i => p.2.procs[i]? = some .fetchAdd → p.1 < pool.threads

instance (p : Nat × Calls) : ∀ e, Decidable (pool.Spaced p e)
  | .call => inferInstanceAs (Decidable True)
  | .run _ => inferInstanceAs (Decidable (_ → _))

/-! ## The index -/

/-- `m_curr` counts the `fetch_add` since the last `store`, and no call has thrown. -/
structure Inv (p : Nat × Calls) : Prop where
  counted : p.2.shared = p.1
  le : p.1 ≤ pool.threads
  inRange : pool.InRange p.2

variable {pool}

theorem inRange_spawn {s : Calls} (h : pool.InRange s) : pool.InRange (s.spawn .fetchAdd) := by
  intro pc hpc index hindex
  rcases List.mem_append.mp hpc with hold | hnew
  · exact h pc hold index hindex
  · rw [List.mem_singleton.mp hnew] at hindex
    cases hindex

/-- A `fetch_add` below the size of the pool, and every later step of a call, keeps the indices in
    range. -/
theorem inRange_run {s s' : Calls} {i : Nat} (h : pool.InRange s)
    (hlt : s.procs[i]? = some .fetchAdd → s.shared < pool.threads)
    (hrun : pool.step s (.run i) = some s') : pool.InRange s' := by
  obtain ⟨pc, r, hpc, hadvance, rfl⟩ := Pool.runProc_eq_some.mp hrun
  have hold : ∀ index, pc.index = some index → index < pool.threads :=
    h pc (List.mem_of_getElem? hpc)
  intro q hq
  rcases List.mem_or_eq_of_mem_set hq with hq | rfl
  · exact h q hq
  · intro index hindex
    cases pc with
    | fetchAdd =>
      simp only [advance, if_pos (hlt hpc), Option.some.injEq] at hadvance
      subst hadvance
      obtain rfl := Option.some.inj hindex
      exact hlt hpc
    | load k =>
      simp only [advance] at hadvance
      split at hadvance <;>
      · obtain rfl := Option.some.inj hadvance
        exact hold index hindex
    | store k =>
      obtain rfl := Option.some.inj hadvance
      exact hold index hindex
    | returned k => cases hadvance
    | threw k => cases hadvance

/-- A step of a call, with what the history makes of it. -/
theorem inv_run {p p' : Nat × Calls} {i : Nat} (h : pool.Inv p) (hspaced : pool.Spaced p (.run i))
    (hstep : Trace.recorded pool.step sinceStore p (.run i) = some p') : pool.Inv p' := by
  obtain ⟨n, s⟩ := p
  obtain ⟨n', s'⟩ := p'
  obtain ⟨hrun, hn⟩ := (Trace.recorded_eq_some _).mp hstep
  obtain rfl : s.shared = n := h.counted
  have hin : pool.InRange s' := inRange_run h.inRange hspaced hrun
  obtain ⟨pc, r, hpc, hadvance, rfl⟩ := Pool.runProc_eq_some.mp hrun
  simp only [sinceStore, hpc] at hn
  subst hn
  cases pc with
  | fetchAdd =>
    have hlt : s.shared < pool.threads := hspaced hpc
    have hfits := pool.fits
    simp only [advance, if_pos hlt, Option.some.injEq] at hadvance
    subst hadvance
    exact ⟨Nat.mod_eq_of_lt (by omega), hlt, hin⟩
  | load index =>
    simp only [advance] at hadvance
    split at hadvance <;>
    · obtain rfl := Option.some.inj hadvance
      exact ⟨rfl, h.le, hin⟩
  | store index =>
    obtain rfl := Option.some.inj hadvance
    exact ⟨rfl, Nat.zero_le _, hin⟩
  | returned index => cases hadvance
  | threw index => cases hadvance

theorem inv_step {p p' : Nat × Calls} {e : Event} (h : pool.Inv p) (hspaced : pool.Spaced p e)
    (hstep : Trace.recorded pool.step sinceStore p e = some p') : pool.Inv p' := by
  cases e with
  | call =>
    obtain ⟨hcall, hn⟩ := (Trace.recorded_eq_some _).mp hstep
    obtain ⟨n', s'⟩ := p'
    obtain rfl := Option.some.inj hcall
    obtain rfl : n' = p.1 := hn
    exact ⟨h.counted, h.le, inRange_spawn h.inRange⟩
  | run i => exact inv_run h hspaced hstep

/-- The `fetch_add` after `threads` others gets the size of the pool. -/
theorem not_inRange_of_not_spaced {p p' : Nat × Calls} {e : Event} (h : pool.Inv p)
    (hspaced : ¬ pool.Spaced p e)
    (hstep : Trace.recorded pool.step sinceStore p e = some p') : ¬ pool.InRange p'.2 := by
  cases e with
  | call => exact absurd trivial hspaced
  | run i =>
    obtain ⟨hpc, hle⟩ := Classical.not_imp.mp hspaced
    obtain ⟨hrun, -⟩ := (Trace.recorded_eq_some _).mp hstep
    obtain ⟨pc, r, hpc', hadvance, hs'⟩ := Pool.runProc_eq_some.mp hrun
    obtain rfl := Option.some.inj (hpc.symm.trans hpc')
    rw [← h.counted] at hle
    simp only [advance, if_neg hle, Option.some.injEq] at hadvance
    subst hadvance
    intro hin
    rw [hs'] at hin
    have hi := (List.getElem?_eq_some_iff.mp hpc).1
    exact hle (hin _ (List.mem_set hi _) _ rfl)

theorem inv_init (pool : IOServicePool) : pool.Inv (0, init) :=
  ⟨rfl, Nat.zero_le _, fun pc hpc => by cases hpc⟩

/-- Every call gets an index of the pool exactly if each `fetch_add` is one of at most `threads`
    since the last `store`. -/
theorem inRange_iff (pool : IOServicePool) (es : List Event) :
    Trace.Always pool.step pool.InRange init es ↔
      Trace.Meets (Trace.recorded pool.step sinceStore) pool.Spaced (0, init) es := by
  rw [← Trace.always_recorded pool.step sinceStore pool.InRange 0 init es]
  exact Trace.always_iff_meets pool.Inv (fun _ h => h.inRange)
    (fun _ _ _ h hspaced hstep => inv_step h hspaced hstep)
    (fun _ _ _ h hspaced hstep => not_inRange_of_not_spaced h hspaced hstep) (inv_init pool) es

/-- Three callers on a pool of two contexts take their index before the second one has compared
    and stored: the third gets index 2. -/
theorem inRange_fails :
    ¬ ∀ (pool : IOServicePool) (es : List Event),
      Trace.Always pool.step pool.InRange init es := by
  intro h
  have hin := Trace.exec_of_always
    (h ⟨2, by decide, by decide⟩ [.call, .call, .call, .run 0, .run 1, .run 2]) rfl
  have hlt : 2 < 2 := hin (.threw 2) (by decide) 2 rfl
  exact absurd hlt (by decide)

/-! ## One call at a time -/

/-- The call has taken its index and is not done. -/
def Pc.inside : Pc → Bool
  | .load _ | .store _ => true
  | _ => false

/-- A call takes its index while no other is between its `fetch_add` and its end. -/
def Alone (s : Calls) : Event → Prop
  | .call => True
  | .run i => s.procs[i]? = some .fetchAdd → s.count Pc.inside = 0

/-- Only while a call is inside is `m_curr` the size of the pool. -/
structure Returning (pool : IOServicePool) (s : Calls) : Prop where
  le : s.shared ≤ pool.threads
  inside : s.shared = pool.threads → 0 < s.count Pc.inside
  inRange : pool.InRange s

theorem Returning.lt {s : Calls} (h : pool.Returning s) {i : Nat} (halone : Alone s (.run i))
    (hpc : s.procs[i]? = some .fetchAdd) : s.shared < pool.threads := by
  refine Nat.lt_of_le_of_ne h.le fun heq => ?_
  have hpos := h.inside heq
  rw [halone hpc] at hpos
  exact Nat.lt_irrefl 0 hpos

theorem returning_run {s s' : Calls} {i : Nat} (h : pool.Returning s) (halone : Alone s (.run i))
    (hrun : pool.step s (.run i) = some s') : pool.Returning s' := by
  have hin : pool.InRange s' := inRange_run h.inRange (h.lt halone) hrun
  obtain ⟨pc, r, hpc, hadvance, rfl⟩ := Pool.runProc_eq_some.mp hrun
  have hcount := Pool.count_set hpc r.1 r.2 Pc.inside
  cases pc with
  | fetchAdd =>
    have hlt := h.lt halone hpc
    have hfits := pool.fits
    simp only [advance, if_pos hlt, Option.some.injEq] at hadvance
    subst hadvance
    have hnext : (s.shared + 1) % 2 ^ 64 = s.shared + 1 := Nat.mod_eq_of_lt (by omega)
    refine ⟨?_, fun _ => ?_, hin⟩
    · show (s.shared + 1) % 2 ^ 64 ≤ pool.threads
      rw [hnext]
      exact hlt
    · simp only [Pc.inside, Bool.toNat_true, Bool.toNat_false] at hcount ⊢
      omega
  | load index =>
    simp only [advance] at hadvance
    split at hadvance
    · rename_i hsize
      obtain rfl := Option.some.inj hadvance
      have hpos := h.inside hsize
      refine ⟨h.le, fun _ => ?_, hin⟩
      simp only [Pc.inside, Bool.toNat_true] at hcount ⊢
      omega
    · rename_i hsize
      obtain rfl := Option.some.inj hadvance
      exact ⟨h.le, fun heq => absurd heq hsize, hin⟩
  | store index =>
    obtain rfl := Option.some.inj hadvance
    exact ⟨Nat.zero_le _, fun heq => absurd heq pool.zero_ne, hin⟩
  | returned index => cases hadvance
  | threw index => cases hadvance

/-- Calls that follow one another all get an index of the pool. -/
theorem inRange_of_alone (pool : IOServicePool) (es : List Event)
    (h : Trace.Meets pool.step Alone init es) : Trace.Always pool.step pool.InRange init es := by
  have hreturning : Trace.Always pool.step pool.Returning init es := by
    refine Trace.always_of_meets pool.Returning (fun s e s' hs halone hstep => ?_) ?_ h
    · cases e with
      | call =>
        obtain rfl := Option.some.inj hstep
        have hcount := Pool.count_spawn s .fetchAdd Pc.inside
        refine ⟨hs.le, fun heq => ?_, inRange_spawn hs.inRange⟩
        have hpos := hs.inside heq
        omega
      | run i => exact returning_run hs halone hstep
    · exact ⟨Nat.zero_le _, fun heq => absurd heq pool.zero_ne, (inv_init pool).inRange⟩
  exact Trace.always_mono (fun _ hs => hs.inRange) hreturning

end IOServicePool

end DistributedIM.ChattingServer
