/-
  The connection counter of one chatting server, updated by any number of threads:
  `incrementConnection` and `decrementConnection`, each an acquire, an `HGET`, an `HSET` and a
  release that Redis executes one by one, while the lock key may expire at any moment.

  A call that has read the counter writes it whether or not it still has the lock. The number is a
  `std::size_t`: the increment wraps, and reading a larger number throws, with the lock still taken.
  `always_counted_of_fresh`: the counter accounts for every `HSET` along a run, and no call throws,
  exactly if each `HSET` writes over the number its call has read and the numbers fit; then no
  update is lost. `fresh_of_punctual`: the number is the one read while no lock expires between the
  acquire and the `HSET` of the call that has it.

  The commands succeed here.
-/
import DistributedIM.Lib.Interleave
import DistributedIM.Lib.Lease
import DistributedIM.Lib.Trace
import Mathlib.Algebra.Group.Int.Defs
import Mathlib.Algebra.Group.Nat.Even

namespace DistributedIM.Protocol

namespace CounterUpdates

inductive Change
  /-- `SyncLogic::incrementConnection` -/
  | increment
  /-- `Session::decrementConnection` -/
  | decrement
  deriving DecidableEq, Repr

/-- The next command of a call. -/
inductive Pc
  | acquire
  | hget
  /-- with the number that `HGET` returned -/
  | hset (number : Nat)
  | release (wrote : Bool)
  /-- none: without the lock -/
  | returned (wrote : Option Bool)
  /-- the number that `HGET` returned is no `std::size_t` -/
  | thrown
  deriving DecidableEq, Repr

structure Call where
  /-- stands for the identifier of the lock -/
  id : Nat
  change : Change
  pc : Pc
  deriving DecidableEq, Repr

/-- What the calls share in Redis. -/
structure Shared where
  /-- the entry of the server in the hash `redis_server` -/
  redisServer : Option Nat
  lock : Option Nat
  deriving DecidableEq, Repr

namespace Shared

/-- The number the entry stands for. -/
def number (o : Shared) : Nat :=
  o.redisServer.getD 0

/-- One command of a call. -/
def advance (o : Shared) (c : Call) : Option (Shared × Call) :=
  match c.pc with
  | .acquire =>
    if o.lock = none then
      some ({ o with lock := Lease.take o.lock c.id }, { c with pc := .hget })
    else some (o, c)
  | .hget =>
    if o.number < 2 ^ 64 then
      match c.change with
      | .increment => some (o, { c with pc := .hset o.number })
      | .decrement =>
        if o.number > 0 then some (o, { c with pc := .hset o.number })
        else some (o, { c with pc := .release false })
    else some (o, { c with pc := .thrown })
  | .hset number =>
    let written :=
      match c.change with
      | .increment => (number + 1) % 2 ^ 64
      | .decrement => number - 1
    some ({ o with redisServer := some written }, { c with pc := .release true })
  | .release wrote =>
    some ({ o with lock := Lease.give o.lock c.id }, { c with pc := .returned (some wrote) })
  | .returned _ | .thrown => none

/-- The waiting time of `acquire` is over. -/
def giveUp (o : Shared) (c : Call) : Option (Shared × Call) :=
  if c.pc = .acquire then some (o, { c with pc := .returned none }) else none

end Shared

abbrev Counter := Pool Shared Call

def init (initial : Option Nat) : Counter where
  shared := { redisServer := initial, lock := none }
  procs := []

inductive Event
  /-- a thread starts a call -/
  | call (change : Change)
  | run (i : Nat)
  | giveUp (i : Nat)
  /-- the lock key expires -/
  | expire
  deriving DecidableEq, Repr

def step (s : Counter) : Event → Option Counter
  | .call change => some (s.spawn ⟨s.procs.length, change, .acquire⟩)
  | .run i => s.runProc Shared.advance i
  | .giveUp i => s.runProc Shared.giveUp i
  | .expire => some { s with shared := { s.shared with lock := none } }

/-! ## What the counter is to say -/

/-- The call has written. -/
def wrote (change : Change) (c : Call) : Bool :=
  c.change = change && match c.pc with
    | .release true => true
    | .returned (some true) => true
    | _ => false

def gotLock (change : Change) (c : Call) : Bool :=
  c.change = change && c.pc ≠ .acquire && c.pc ≠ .returned none

/-- The counter accounts for all that has been written. -/
def Tallied (initial : Option Nat) (s : Counter) : Prop :=
  s.shared.number + s.count (wrote .decrement) = initial.getD 0 + s.count (wrote .increment)

def NoneThrown (s : Counter) : Prop :=
  ∀ c ∈ s.procs, c.pc ≠ .thrown

def Pc.isFinished : Pc → Bool
  | .returned _ | .thrown => true
  | _ => false

def Finished (s : Counter) : Prop :=
  ∀ c ∈ s.procs, c.pc.isFinished = true

instance (s : Counter) : Decidable (Finished s) :=
  inferInstanceAs (Decidable (∀ c ∈ _, _))

/-- No decrement has found the counter at zero. -/
def NeverBelowZero (s : Counter) : Prop :=
  ∀ c ∈ s.procs, c.pc ≠ .release false ∧ c.pc ≠ .returned (some false)

instance (s : Counter) : Decidable (NeverBelowZero s) :=
  inferInstanceAs (Decidable (∀ c ∈ _, _))

/-- Once all calls have finished, the counter is the initial value plus the increments minus the
    decrements that got the lock. -/
def Counted (initial : Option Nat) (s : Counter) : Prop :=
  Finished s → NeverBelowZero s →
    (s.shared.number : Int) =
      initial.getD 0 + s.count (gotLock .increment) - s.count (gotLock .decrement)

/-- The number that a call writes over is the one it has read. -/
def Fresh (s : Counter) : Event → Prop
  | .run i => ∀ c number, s.procs[i]? = some c → c.pc = .hset number → s.shared.number = number
  | _ => True

/-- The number read is a `std::size_t`, and so is the one after it that is written. -/
def Fits (s : Counter) : Event → Prop
  | .run i => ∀ c, s.procs[i]? = some c → (c.pc = .hget → s.shared.number < 2 ^ 64) ∧
      ∀ number, c.pc = .hset number → c.change = .increment → number + 1 < 2 ^ 64
  | _ => True

/-- The lock does not expire between the acquire and the `HSET` of the call that has it. -/
def Punctual (s : Counter) : Event → Prop
  | .expire => ∀ c ∈ s.procs, s.shared.lock = some c.id → c.pc ≠ .hget ∧ ∀ n, c.pc ≠ .hset n
  | _ => True

/-! ## The tally -/

/-- What a command other than `HSET` does to its call. -/
theorem advance_cases {o : Shared} {c : Call} {r : Shared × Call} (h : o.advance c = some r)
    (hpc : ∀ n, c.pc ≠ .hset n) :
    r.1.redisServer = o.redisServer ∧ (∀ change, wrote change r.2 = wrote change c) ∧
      (r.2.pc = .thrown → c.pc = .hget ∧ ¬o.number < 2 ^ 64) ∧
      ∀ n, r.2.pc = .hset n → n < 2 ^ 64 ∧ (r.2.change = .decrement → 0 < n) := by
  unfold Shared.advance at h
  split at h
  · rename_i hacquire
    split at h <;>
    · obtain rfl := Option.some.inj h
      simp [wrote, hacquire]
  · rename_i hget
    split at h
    · rename_i hfits
      have hread (hpositive : c.change = .decrement → 0 < o.number) (n : Nat)
          (hn : Pc.hset o.number = .hset n) : n < 2 ^ 64 ∧ (c.change = .decrement → 0 < n) := by
        obtain rfl := Pc.hset.inj hn
        exact ⟨hfits, hpositive⟩
      split at h
      · rename_i hincrement
        obtain rfl := Option.some.inj h
        exact ⟨rfl, fun _ => by simp [wrote, hget], by simp, hread (by simp [hincrement])⟩
      · split at h
        · rename_i hpositive
          obtain rfl := Option.some.inj h
          exact ⟨rfl, fun _ => by simp [wrote, hget], by simp, hread fun _ => hpositive⟩
        · obtain rfl := Option.some.inj h
          simp [wrote, hget]
    · rename_i hfits
      obtain rfl := Option.some.inj h
      exact ⟨rfl, fun _ => by simp [wrote, hget], fun _ => ⟨hget, hfits⟩, by simp⟩
  · rename_i n hset
    exact absurd hset (hpc n)
  · rename_i w hrelease
    obtain rfl := Option.some.inj h
    cases w <;> simp [wrote, hrelease]
  · cases h
  · cases h

/-- A step in which no call executes its `HSET` keeps the tally. -/
theorem tallied_set {initial : Option Nat} {s : Counter} {i : Nat} {c : Call}
    {r : Shared × Call} (hc : s.procs[i]? = some c)
    (hserver : r.1.redisServer = s.shared.redisServer)
    (hwrote : ∀ change, wrote change r.2 = wrote change c) :
    Tallied initial { shared := r.1, procs := s.procs.set i r.2 } ↔ Tallied initial s := by
  have hcount (change : Change) :
      (Pool.mk r.1 (s.procs.set i r.2)).count (wrote change) = s.count (wrote change) := by
    have hset := Pool.count_set hc r.1 r.2 (wrote change)
    rw [hwrote] at hset
    omega
  unfold Tallied Shared.number
  rw [hcount, hcount, hserver]

/-- What a call is about to write over is a `std::size_t`, and a decrement writes only if it has
    read more than zero. -/
def HasRead (c : Call) : Prop :=
  ∀ n, c.pc = .hset n → n < 2 ^ 64 ∧ (c.change = .decrement → 0 < n)

structure Inv (initial : Option Nat) (s : Counter) : Prop where
  tallied : Tallied initial s
  noneThrown : NoneThrown s
  hasRead : ∀ c ∈ s.procs, HasRead c

/-- Every call but `i` is as before; call `i` is now `c'`. -/
theorem forall_mem_set {l : List Call} {i : Nat} {c' : Call} {P : Call → Prop}
    (h : ∀ c ∈ l, P c) (hc' : P c') : ∀ c ∈ l.set i c', P c := by
  intro c hc
  rcases List.mem_or_eq_of_mem_set hc with hc | rfl
  · exact h c hc
  · exact hc'

/-- After an `HSET` the counter is tallied exactly if the number read was still there, and the one
    written did not wrap. -/
theorem tallied_hset_iff {initial : Option Nat} {s : Counter} (h : Inv initial s) {i n : Nat}
    {c : Call} {r : Shared × Call} (hc : s.procs[i]? = some c) (hpc : c.pc = .hset n)
    (hadvance : s.shared.advance c = some r) :
    Tallied initial { shared := r.1, procs := s.procs.set i r.2 } ↔
      s.shared.number = n ∧ (c.change = .increment → n + 1 < 2 ^ 64) := by
  have htallied := h.tallied
  obtain ⟨hsize, hpositive⟩ := h.hasRead c (List.mem_of_getElem? hc) n hpc
  have hincrements := Pool.count_set hc r.1 r.2 (wrote .increment)
  have hdecrements := Pool.count_set hc r.1 r.2 (wrote .decrement)
  unfold Tallied at htallied ⊢
  simp only [Shared.advance, hpc] at hadvance
  obtain rfl := Option.some.inj hadvance
  cases hchange : c.change with
  | increment =>
    simp [wrote, hpc, hchange, -Nat.reducePow] at hincrements hdecrements
    simp only [Shared.number, Option.getD_some, true_imp_iff] at htallied ⊢
    omega
  | decrement =>
    simp [wrote, hpc, hchange, -Nat.reducePow] at hincrements hdecrements
    simp only [Shared.number, Option.getD_some, reduceCtorEq, false_imp_iff, and_true]
      at htallied ⊢
    have hn := hpositive hchange
    omega

/-- A call goes on: the counter is tallied and nothing is thrown exactly if the call writes over the
    number it has read, and the numbers fit. -/
theorem tallied_iff_fresh_run {initial : Option Nat} {s s' : Counter} {i : Nat}
    (h : Inv initial s) (hstep : step s (.run i) = some s') :
    Tallied initial s' ∧ NoneThrown s' ↔ Fresh s (.run i) ∧ Fits s (.run i) := by
  obtain ⟨c, r, hc, hadvance, rfl⟩ := Pool.runProc_eq_some.mp hstep
  have hthrown : NoneThrown { shared := r.1, procs := s.procs.set i r.2 } ↔ r.2.pc ≠ .thrown := by
    constructor
    · intro hnone
      exact hnone r.2 (List.mem_set (List.getElem?_eq_some_iff.mp hc).1 r.2)
    · intro hr
      exact forall_mem_set h.noneThrown hr
  have honly {c' : Call} (hc' : s.procs[i]? = some c') : c' = c :=
    Option.some.inj (hc'.symm.trans hc)
  by_cases hhset : ∃ n, c.pc = .hset n
  · obtain ⟨n, hpc⟩ := hhset
    have hr : r.2.pc ≠ .thrown := by
      simp only [Shared.advance, hpc] at hadvance
      obtain rfl := Option.some.inj hadvance
      simp
    rw [hthrown, and_iff_left hr, tallied_hset_iff h hc hpc hadvance]
    constructor
    · intro ⟨hnumber, hfits⟩
      constructor
      · intro c' m hc' hm
        rw [honly hc', hpc] at hm
        rw [hnumber]
        exact Pc.hset.inj hm
      · intro c' hc'
        rw [honly hc', hpc]
        refine ⟨by simp, fun m hm => ?_⟩
        rw [← Pc.hset.inj hm]
        exact hfits
    · intro ⟨hfresh, hfits⟩
      exact ⟨hfresh c n hc hpc, (hfits c hc).2 n hpc⟩
  · have hother : ∀ n, c.pc ≠ .hset n := fun n hpc => hhset ⟨n, hpc⟩
    obtain ⟨hserver, hwrote, hthrows, -⟩ := advance_cases hadvance hother
    rw [hthrown, tallied_set hc hserver hwrote, and_iff_right h.tallied]
    constructor
    · intro hr
      constructor
      · intro c' n hc' hn
        rw [honly hc'] at hn
        exact absurd hn (hother n)
      · intro c' hc'
        rw [honly hc']
        refine ⟨fun hget => ?_, fun n hn => absurd hn (hother n)⟩
        by_contra hfits
        apply hr
        simp only [Shared.advance, hget, if_neg hfits] at hadvance
        obtain rfl := Option.some.inj hadvance
        rfl
    · rintro ⟨-, hfits⟩ hr
      obtain ⟨hget, hlarge⟩ := hthrows hr
      exact hlarge ((hfits c hc).1 hget)

theorem hasRead_advance {o : Shared} {c : Call} {r : Shared × Call} (h : o.advance c = some r) :
    HasRead r.2 := by
  by_cases hhset : ∃ n, c.pc = .hset n
  · obtain ⟨n, hpc⟩ := hhset
    simp only [Shared.advance, hpc] at h
    obtain rfl := Option.some.inj h
    intro m hm
    cases hm
  · exact (advance_cases h fun n hpc => hhset ⟨n, hpc⟩).2.2.2

theorem giveUp_eq_some {o : Shared} {c : Call} {r : Shared × Call} (h : o.giveUp c = some r) :
    c.pc = .acquire ∧ r = (o, { c with pc := .returned none }) := by
  unfold Shared.giveUp at h
  split at h
  · rename_i hacquire
    exact ⟨hacquire, (Option.some.inj h).symm⟩
  · cases h

theorem inv_step {initial : Option Nat} {s s' : Counter} {e : Event} (h : Inv initial s)
    (hfresh : Fresh s e ∧ Fits s e) (hstep : step s e = some s') : Inv initial s' := by
  cases e with
  | call change =>
    obtain rfl := Option.some.inj hstep
    have hnew (c : Call) (hc : c ∈ (s.spawn ⟨s.procs.length, change, .acquire⟩).procs) :
        c ∈ s.procs ∨ c.pc = .acquire := by
      rcases List.mem_append.mp hc with hc | hc
      · exact Or.inl hc
      · rw [List.mem_singleton.mp hc]
        exact Or.inr rfl
    constructor
    · have htallied := h.tallied
      unfold Tallied at htallied ⊢
      rw [Pool.count_spawn, Pool.count_spawn]
      simpa [wrote, Pool.spawn] using htallied
    · intro c hc
      rcases hnew c hc with hold | hacquire
      · exact h.noneThrown c hold
      · simp [hacquire]
    · intro c hc
      rcases hnew c hc with hold | hacquire
      · exact h.hasRead c hold
      · simp [HasRead, hacquire]
  | run i =>
    obtain ⟨htallied, hthrown⟩ := (tallied_iff_fresh_run h hstep).mpr hfresh
    refine ⟨htallied, hthrown, ?_⟩
    obtain ⟨c, r, hc, hadvance, rfl⟩ := Pool.runProc_eq_some.mp hstep
    exact forall_mem_set h.hasRead (hasRead_advance hadvance)
  | giveUp i =>
    obtain ⟨c, r, hc, hgiveUp, rfl⟩ := Pool.runProc_eq_some.mp hstep
    obtain ⟨hacquire, rfl⟩ := giveUp_eq_some hgiveUp
    constructor
    · rw [tallied_set hc rfl fun change => by simp [wrote, hacquire]]
      exact h.tallied
    · exact forall_mem_set h.noneThrown (by simp)
    · exact forall_mem_set h.hasRead fun n hn => by cases hn
  | expire =>
    obtain rfl := Option.some.inj hstep
    exact ⟨h.tallied, h.noneThrown, h.hasRead⟩

theorem not_tallied_step {initial : Option Nat} {s s' : Counter} {e : Event} (h : Inv initial s)
    (hstale : ¬(Fresh s e ∧ Fits s e)) (hstep : step s e = some s') :
    ¬(Tallied initial s' ∧ NoneThrown s') := by
  cases e with
  | run i =>
    rw [tallied_iff_fresh_run h hstep]
    exact hstale
  | call change => exact absurd ⟨trivial, trivial⟩ hstale
  | giveUp i => exact absurd ⟨trivial, trivial⟩ hstale
  | expire => exact absurd ⟨trivial, trivial⟩ hstale

theorem inv_init (initial : Option Nat) : Inv initial (init initial) where
  tallied := rfl
  noneThrown := by
    intro c hc
    cases hc
  hasRead := by
    intro c hc
    cases hc

/-- When all calls have finished, a tallied counter is the number to be. -/
theorem counted_of_tallied {initial : Option Nat} {s : Counter} (h : Tallied initial s)
    (hthrown : NoneThrown s) : Counted initial s := by
  intro hfinished hnever
  have hcount (change : Change) : s.count (gotLock change) = s.count (wrote change) := by
    apply List.countP_congr
    intro c hc
    have hreturned := hfinished c hc
    have hnot := (hnever c hc).2
    match hpc : c.pc with
    | .returned none => simp [gotLock, wrote, hpc]
    | .returned (some true) => simp [gotLock, wrote, hpc]
    | .returned (some false) => exact absurd hpc hnot
    | .thrown => exact absurd hpc (hthrown c hc)
    | .acquire | .hget | .hset _ | .release _ =>
      rw [hpc] at hreturned
      cases hreturned
  rw [hcount, hcount]
  unfold Tallied at h
  omega

/-- Along a run the counter accounts for all that has been written and no call throws exactly if
    every call writes over the number it has read and the numbers fit; and then, once all calls have
    finished, no update is lost. -/
theorem always_counted_of_fresh (initial : Option Nat) (es : List Event) :
    (Trace.Always step (fun s => Tallied initial s ∧ NoneThrown s) (init initial) es ↔
        Trace.Meets step (fun s e => Fresh s e ∧ Fits s e) (init initial) es) ∧
      (Trace.Meets step (fun s e => Fresh s e ∧ Fits s e) (init initial) es →
        Trace.Always step (Counted initial) (init initial) es) := by
  have hiff : Trace.Always step (fun s => Tallied initial s ∧ NoneThrown s) (init initial) es ↔
      Trace.Meets step (fun s e => Fresh s e ∧ Fits s e) (init initial) es := by
    apply Trace.always_iff_meets (Inv initial)
    · intro s h
      exact ⟨h.tallied, h.noneThrown⟩
    · intro s e s' h hfresh hstep
      exact inv_step h hfresh hstep
    · intro s e s' h hstale hstep
      exact not_tallied_step h hstale hstep
    · exact inv_init initial
  refine ⟨hiff, fun hfresh => ?_⟩
  exact Trace.always_mono (fun s h => counted_of_tallied h.1 h.2) (hiff.mpr hfresh)

/-- Call 0 reads the counter, and its lock expires; call 1 runs from acquire to release; then call
    0 writes over what call 1 wrote. -/
def expiresAfterHget : List Event :=
  [.call .increment, .run 0, .run 0, .expire, .call .increment, .run 1, .run 1, .run 1, .run 1,
    .run 0, .run 0]

/-- Both increments got the lock, and the counter is 1. -/
theorem not_counted_expiresAfterHget :
    ∃ s, Trace.exec step (init (some 0)) expiresAfterHget = some s ∧ Finished s ∧
      NeverBelowZero s ∧ s.count (gotLock .increment) = 2 ∧ s.shared.redisServer = some 1 ∧
      ¬ Counted (some 0) s := by
  refine ⟨_, rfl, by decide, by decide, rfl, rfl, ?_⟩
  intro h
  have hcounted := h (by decide) (by decide)
  exact absurd hcounted (by decide)

/-! ## Locks that do not expire early -/

/-- A call between its acquire and its `HSET` has the lock, and the counter is what it read. -/
structure Guarded (s : Counter) (i : Nat) (c : Call) : Prop where
  id_eq : c.id = i
  hget : c.pc = .hget → s.shared.lock = some i
  hset : ∀ n, c.pc = .hset n → s.shared.lock = some i ∧ s.shared.number = n

def AllGuarded (s : Counter) : Prop :=
  ∀ i c, s.procs[i]? = some c → Guarded s i c

/-- What the other calls do does not matter. -/
theorem Guarded.of_shared {s s' : Counter} {i : Nat} {c : Call} (h : Guarded s i c)
    (hshared : s'.shared = s.shared) : Guarded s' i c where
  id_eq := h.id_eq
  hget hpc := hshared ▸ h.hget hpc
  hset n hpc := hshared ▸ h.hset n hpc

/-- A call outside that part is guarded by its number alone. -/
theorem guarded_of_outside {s : Counter} {i : Nat} {c : Call} (hid : c.id = i)
    (hget : c.pc ≠ .hget) (hset : ∀ n, c.pc ≠ .hset n) : Guarded s i c where
  id_eq := hid
  hget h := absurd h hget
  hset n h := absurd h (hset n)

/-- The calls are guarded after call `i` has taken a step to `r`. -/
theorem allGuarded_set {s : Counter} {i : Nat} {r : Shared × Call}
    (hself : Guarded { shared := r.1, procs := s.procs.set i r.2 } i r.2)
    (hothers : ∀ j c, j ≠ i → s.procs[j]? = some c →
      Guarded { shared := r.1, procs := s.procs.set i r.2 } j c) :
    AllGuarded { shared := r.1, procs := s.procs.set i r.2 } := by
  intro j c hc
  by_cases hji : j = i
  · subst hji
    have hget : (s.procs.set j r.2)[j]? = some c := hc
    rw [List.getElem?_set_self'] at hget
    obtain ⟨_, -, rfl⟩ := Option.map_eq_some_iff.mp hget
    exact hself
  · have hget : (s.procs.set i r.2)[j]? = some c := hc
    rw [List.getElem?_set_ne (Ne.symm hji)] at hget
    exact hothers j c hji hget

theorem allGuarded_run {s s' : Counter} {i : Nat} (h : AllGuarded s)
    (hstep : step s (.run i) = some s') : AllGuarded s' := by
  obtain ⟨c, r, hc, hadvance, rfl⟩ := Pool.runProc_eq_some.mp hstep
  have hi := h i c hc
  have hid := hi.id_eq
  match hpc : c.pc with
  | .acquire =>
    simp only [Shared.advance, hpc] at hadvance
    split at hadvance
    · rename_i hfree
      obtain rfl := Option.some.inj hadvance
      refine allGuarded_set ⟨hid, fun _ => by simp [hfree, hid], fun n hn => by cases hn⟩ ?_
      intro j c' hji hc'
      -- the lock was free, so nobody else is in that part
      have hj := h j c' hc'
      refine guarded_of_outside hj.id_eq (fun hget => ?_) (fun n hset => ?_)
      · cases hfree.symm.trans (hj.hget hget)
      · cases hfree.symm.trans (hj.hset n hset).1
    · obtain rfl := Option.some.inj hadvance
      apply allGuarded_set
      · exact guarded_of_outside hid (by simp [hpc]) (by simp [hpc])
      · intro j c' _ hc'
        exact (h j c' hc').of_shared rfl
  | .hget =>
    have hlock := hi.hget hpc
    have hothers : ∀ r : Call, ∀ j c', j ≠ i → s.procs[j]? = some c' →
        Guarded { shared := s.shared, procs := s.procs.set i r } j c' := fun _ j c' _ hc' =>
      (h j c' hc').of_shared rfl
    have hread : AllGuarded
        { shared := s.shared, procs := s.procs.set i { c with pc := .hset s.shared.number } } := by
      have hself : Guarded
          { shared := s.shared, procs := s.procs.set i { c with pc := .hset s.shared.number } } i
          { c with pc := .hset s.shared.number } :=
        ⟨hid, fun hget => (by cases hget), fun n hn => ⟨hlock, Pc.hset.inj hn⟩⟩
      exact allGuarded_set (r := (s.shared, { c with pc := .hset s.shared.number })) hself
        (hothers _)
    simp only [Shared.advance, hpc] at hadvance
    split at hadvance
    · split at hadvance
      · obtain rfl := Option.some.inj hadvance
        exact hread
      · split at hadvance
        · obtain rfl := Option.some.inj hadvance
          exact hread
        · obtain rfl := Option.some.inj hadvance
          exact allGuarded_set (guarded_of_outside hid (by simp) (by simp)) (hothers _)
    · obtain rfl := Option.some.inj hadvance
      exact allGuarded_set (guarded_of_outside hid (by simp) (by simp)) (hothers _)
  | .hset n =>
    have hlock := (hi.hset n hpc).1
    simp only [Shared.advance, hpc] at hadvance
    obtain rfl := Option.some.inj hadvance
    refine allGuarded_set (guarded_of_outside hid (by simp) (by simp)) ?_
    intro j c' hji hc'
    have hj := h j c' hc'
    refine ⟨hj.id_eq, hj.hget, fun m hm => ?_⟩
    exact absurd (Option.some.inj ((hj.hset m hm).1.symm.trans hlock)) hji
  | .release w =>
    simp only [Shared.advance, hpc] at hadvance
    obtain rfl := Option.some.inj hadvance
    refine allGuarded_set (guarded_of_outside hid (by simp) (by simp)) ?_
    intro j c' hji hc'
    have hj := h j c' hc'
    have hkeeps : s.shared.lock = some j → Lease.give s.shared.lock c.id = some j := by
      intro hlock
      exact Lease.give_eq_some.mpr ⟨hlock, hid ▸ hji⟩
    refine ⟨hj.id_eq, fun hget => hkeeps (hj.hget hget), fun m hm => ?_⟩
    exact ⟨hkeeps (hj.hset m hm).1, (hj.hset m hm).2⟩
  | .returned _ | .thrown =>
    simp only [Shared.advance, hpc] at hadvance
    cases hadvance

theorem allGuarded_step {s s' : Counter} {e : Event} (h : AllGuarded s) (hpunctual : Punctual s e)
    (hstep : step s e = some s') : AllGuarded s' := by
  cases e with
  | run i => exact allGuarded_run h hstep
  | call change =>
    obtain rfl := Option.some.inj hstep
    intro j c hc
    rcases Nat.lt_or_ge j s.procs.length with hj | hj
    · have hold : s.procs[j]? = some c := (List.getElem?_append_left hj).symm.trans hc
      exact (h j c hold).of_shared rfl
    · have hnew : [(⟨s.procs.length, change, .acquire⟩ : Call)][j - s.procs.length]? = some c :=
        (List.getElem?_append_right hj).symm.trans hc
      obtain ⟨hlast, rfl⟩ := List.getElem?_eq_some_iff.mp hnew
      rw [List.length_singleton] at hlast
      have hlast : j = s.procs.length := by omega
      subst hlast
      simp only [List.getElem_singleton]
      exact guarded_of_outside rfl (by simp) (by simp)
  | giveUp i =>
    obtain ⟨c, r, hc, hgiveUp, rfl⟩ := Pool.runProc_eq_some.mp hstep
    obtain ⟨-, rfl⟩ := giveUp_eq_some hgiveUp
    apply allGuarded_set
    · exact guarded_of_outside (h i c hc).id_eq (by simp) (by simp)
    · intro j c' _ hc'
      exact (h j c' hc').of_shared rfl
  | expire =>
    obtain rfl := Option.some.inj hstep
    intro j c hc
    have hj := h j c hc
    have hout := hpunctual c (List.mem_of_getElem? hc)
    rw [hj.id_eq] at hout
    refine guarded_of_outside hj.id_eq (fun hget => ?_) (fun n hset => ?_)
    · exact (hout (hj.hget hget)).1 hget
    · exact (hout (hj.hset n hset).1).2 n hset

/-- While no lock expires too early, every call writes over the number it has read. -/
theorem fresh_of_punctual (initial : Option Nat) {es : List Event}
    (h : Trace.Meets step Punctual (init initial) es) :
    Trace.Meets step Fresh (init initial) es := by
  refine Trace.meets_mono AllGuarded ?_ ?_ h
  · intro s e s' hguarded hpunctual hstep
    refine ⟨?_, allGuarded_step hguarded hpunctual hstep⟩
    cases e with
    | run i =>
      intro c n hc hpc
      exact ((hguarded i c hc).hset n hpc).2
    | call change => trivial
    | giveUp i => trivial
    | expire => trivial
  · intro i c hc
    cases hc

end CounterUpdates

end DistributedIM.Protocol
