/-
  A queue behind a mutex and a condition variable: threads that wait until there is something in the
  queue or a flag says stop, and others that put something in and notify one of them.

  A thread that waits looks at the queue with the mutex held. If it finds nothing it gives the mutex
  up and falls asleep, both at once; when it is notified, or wakes up for no reason, it has to get
  the mutex back and looks again. The flag is set and all are notified without the mutex, so both
  can come between the look and the sleep.

  `Served` is why nothing put into the queue stays there unnoticed: while a thread is asleep, there
  is a thread awake for each element of the queue. `served_push` and the lemmas beside it say which
  steps keep it; `queue_eq_nil_of_idle` is what it means once nobody is awake.
-/
import Mathlib.Algebra.BigOperators.Group.List.Basic
import Mathlib.Tactic.Push
import DistributedIM.Lib.Interleave

/-- The queue and the flag. -/
structure Buffer (τ : Type*) where
  queue : List τ
  stop : Bool
  deriving DecidableEq, Repr

/-- Where a thread stands with respect to `wait(lock, pred)`. -/
inductive Wait
  | outside
  /-- it has the mutex and is about to look at the predicate -/
  | testing
  /-- it has the mutex and has found the predicate false -/
  | blocking
  | asleep
  /-- it has been notified and wants the mutex back -/
  | woken
  /-- it has the mutex and has found the predicate true -/
  | inside
  deriving DecidableEq, Repr

def Wait.holdsMutex : Wait → Bool
  | .testing | .blocking | .inside => true
  | _ => false

/-- The thread will look at the queue, or has, and there was something. -/
def Wait.awake : Wait → Bool
  | .woken | .testing | .inside => true
  | _ => false

def Wait.notified : Wait → Wait
  | .asleep => .woken
  | w => w

/-- The queue, and the threads that may wait for it. -/
abbrev Monitor (τ : Type*) := Pool (Buffer τ) Wait

namespace Monitor

variable {τ : Type*}

/-! ## Steps -/

/-- Nobody has the mutex. -/
def Free (m : Monitor τ) : Prop :=
  ∀ w ∈ m.procs, w.holdsMutex = false

instance (m : Monitor τ) : Decidable m.Free :=
  inferInstanceAs (Decidable (∀ w ∈ m.procs, _))

/-- Thread `i` goes from one point to another. -/
def move (m : Monitor τ) (i : Nat) (src dst : Wait) : Option (Monitor τ) :=
  if m.procs[i]? = some src then some ⟨m.shared, m.procs.set i dst⟩ else none

/-- The thread takes the mutex. -/
def enter (m : Monitor τ) (i : Nat) : Option (Monitor τ) :=
  if m.Free then m.move i .outside .testing else none

/-- `pred()` -/
def test (m : Monitor τ) (i : Nat) : Option (Monitor τ) :=
  m.move i .testing (if m.shared.queue.isEmpty && !m.shared.stop then .blocking else .inside)

/-- The mutex is given up and the thread falls asleep. -/
def block (m : Monitor τ) (i : Nat) : Option (Monitor τ) :=
  m.move i .blocking .asleep

/-- A thread is notified, or wakes up for no reason. -/
def rouse (m : Monitor τ) (i : Nat) : Option (Monitor τ) :=
  m.move i .asleep .woken

/-- The mutex again, after a wake-up. -/
def relock (m : Monitor τ) (i : Nat) : Option (Monitor τ) :=
  if m.Free then m.move i .woken .testing else none

/-- The steps of a `wait`, from taking the mutex on. -/
inductive Step
  | enter
  | test
  | block
  | rouse
  | relock
  deriving DecidableEq, Repr

/-- Thread `i` takes the step. -/
def wait (m : Monitor τ) (i : Nat) : Step → Option (Monitor τ)
  | .enter => m.enter i
  | .test => m.test i
  | .block => m.block i
  | .rouse => m.rouse i
  | .relock => m.relock i

/-- The mutex is given back. -/
def leave (m : Monitor τ) (i : Nat) : Option (Monitor τ) :=
  m.move i .inside .outside

def pop (m : Monitor τ) : Monitor τ :=
  { m with shared := { m.shared with queue := m.shared.queue.tail } }

def put (m : Monitor τ) (x : τ) : Monitor τ :=
  { m with shared := { m.shared with queue := m.shared.queue ++ [x] } }

/-- `notify_one`; none: nobody is asleep. -/
def notifyOne (m : Monitor τ) : Option Nat → Option (Monitor τ)
  | some j => m.rouse j
  | none => if .asleep ∈ m.procs then none else some m

/-- With the mutex: `x` is put into the queue, and one thread is notified. -/
def push (m : Monitor τ) (x : τ) (target : Option Nat) : Option (Monitor τ) :=
  if m.Free then (m.put x).notifyOne target else none

def halt (m : Monitor τ) : Monitor τ :=
  { m with shared := { m.shared with stop := true } }

def notifyAll (m : Monitor τ) : Monitor τ :=
  { m with procs := m.procs.map Wait.notified }

/-! ## What a step does -/

theorem move_eq_some {m m' : Monitor τ} {i : Nat} {src dst : Wait} :
    m.move i src dst = some m' ↔
      m.procs[i]? = some src ∧ m' = ⟨m.shared, m.procs.set i dst⟩ := by
  unfold move
  rw [Option.ite_none_right_eq_some, Option.some.injEq, eq_comm (a := m')]

theorem enter_eq_some {m m' : Monitor τ} {i : Nat} :
    m.enter i = some m' ↔ m.Free ∧ m.move i .outside .testing = some m' :=
  Option.ite_none_right_eq_some

theorem relock_eq_some {m m' : Monitor τ} {i : Nat} :
    m.relock i = some m' ↔ m.Free ∧ m.move i .woken .testing = some m' :=
  Option.ite_none_right_eq_some

theorem push_eq_some {m m' : Monitor τ} {x : τ} {target : Option Nat} :
    m.push x target = some m' ↔ m.Free ∧ (m.put x).notifyOne target = some m' :=
  Option.ite_none_right_eq_some

theorem notifyOne_eq_some {m m' : Monitor τ} {target : Option Nat} :
    m.notifyOne target = some m' ↔
      (∃ j, target = some j ∧ m.rouse j = some m') ∨
        target = none ∧ .asleep ∉ m.procs ∧ m' = m := by
  cases target with
  | none =>
    simp only [notifyOne, Option.ite_none_left_eq_some, Option.some.injEq, reduceCtorEq, false_and,
      exists_false, true_and, false_or, eq_comm (a := m')]
  | some j => simp [notifyOne]

variable {m m' : Monitor τ} {i : Nat} {src dst : Wait}

theorem shared_move (h : m.move i src dst = some m') : m'.shared = m.shared := by
  rw [(move_eq_some.mp h).2]

/-- A move changes the number of threads at some points as it should. -/
theorem count_move (h : m.move i src dst = some m') (f : Wait → Bool) :
    m'.count f + (f src).toNat = m.count f + (f dst).toNat := by
  obtain ⟨hsrc, rfl⟩ := move_eq_some.mp h
  exact Pool.count_set hsrc m.shared dst f

/-- A point that a thread has not moved to is one where some thread was. -/
theorem mem_of_move {w : Wait} (h : m.move i src dst = some m') (hw : w ∈ m'.procs)
    (hne : w ≠ dst) : w ∈ m.procs := by
  obtain ⟨-, rfl⟩ := move_eq_some.mp h
  exact (List.mem_or_eq_of_mem_set hw).resolve_right hne

/-- Nobody has the mutex exactly if the number of those who have is 0. -/
theorem free_iff : m.Free ↔ m.count Wait.holdsMutex = 0 := by
  rw [Pool.count, List.countP_eq_zero, Free]
  simp

/-! ## One thread at a time has the mutex -/

structure Safe (m : Monitor τ) : Prop where
  exclusive : m.count Wait.holdsMutex ≤ 1
  /-- What a thread has found stays so while it has the mutex. -/
  blocking : .blocking ∈ m.procs → m.shared.queue = []

/-- A move between two points with the mutex, or two points without, or one that gives it up. -/
theorem Safe.move (h : Safe m) (hmove : m.move i src dst = some m')
    (hmutex : dst.holdsMutex = true → src.holdsMutex = true)
    (hblocking : dst = .blocking → m.shared.queue = []) : Safe m' := by
  have hcount := count_move hmove Wait.holdsMutex
  refine ⟨?_, fun hb => ?_⟩
  · have hle : dst.holdsMutex.toNat ≤ src.holdsMutex.toNat := by
      cases hd : dst.holdsMutex with
      | false => exact Nat.zero_le _
      | true => exact Nat.le_of_eq (congrArg Bool.toNat (hmutex hd)).symm
    have := h.exclusive
    omega
  · rw [shared_move hmove]
    by_cases hd : dst = .blocking
    · exact hblocking hd
    · exact h.blocking (mem_of_move hmove hb (Ne.symm hd))

/-- A thread takes the mutex while it is free. -/
theorem Safe.lock (hfree : m.Free) (hmove : m.move i src .testing = some m') : Safe m' := by
  have hcount := count_move hmove Wait.holdsMutex
  rw [free_iff.mp hfree] at hcount
  refine ⟨?_, fun hb => ?_⟩
  · have : Wait.testing.holdsMutex.toNat = 1 := rfl
    omega
  · have hold : .blocking ∈ m.procs := mem_of_move hmove hb (by decide)
    exact absurd (hfree _ hold) (by decide)

/-- Whatever becomes of the queue while nobody has the mutex. -/
theorem Safe.of_free (hfree : m.Free) (hprocs : m'.procs = m.procs) : Safe m' := by
  have hfree' : m'.Free := by
    intro w hw
    rw [hprocs] at hw
    exact hfree w hw
  refine ⟨by rw [free_iff.mp hfree']; exact Nat.zero_le 1, fun hb => ?_⟩
  exact absurd (hfree' _ hb) (by decide)

theorem Safe.rouse (h : Safe m) (hrouse : m.rouse i = some m') : Safe m' :=
  h.move hrouse (fun hd => absurd hd (by decide)) (fun hd => absurd hd (by decide))

theorem Safe.test (h : Safe m) (htest : m.test i = some m') : Safe m' := by
  refine h.move htest (fun _ => rfl) ?_
  split
  · rename_i hempty
    intro _
    rw [Bool.and_eq_true, List.isEmpty_iff] at hempty
    exact hempty.1
  · intro hd
    cases hd

theorem Safe.block (h : Safe m) (hblock : m.block i = some m') : Safe m' :=
  h.move hblock (fun hd => absurd hd (by decide)) (fun hd => absurd hd (by decide))

theorem Safe.wait {e : Step} (h : Safe m) (hwait : m.wait i e = some m') : Safe m' := by
  cases e with
  | enter =>
    obtain ⟨hfree, hmove⟩ := enter_eq_some.mp hwait
    exact Safe.lock hfree hmove
  | test => exact h.test hwait
  | block => exact h.block hwait
  | rouse => exact h.rouse hwait
  | relock =>
    obtain ⟨hfree, hmove⟩ := relock_eq_some.mp hwait
    exact Safe.lock hfree hmove

theorem Safe.leave (h : Safe m) (hleave : m.leave i = some m') : Safe m' :=
  h.move hleave (fun hd => absurd hd (by decide)) (fun hd => absurd hd (by decide))

theorem Safe.push {x : τ} {target : Option Nat} (hpush : m.push x target = some m') : Safe m' := by
  obtain ⟨hfree, hnotify⟩ := push_eq_some.mp hpush
  have hput : Safe (m.put x) := Safe.of_free hfree rfl
  rcases notifyOne_eq_some.mp hnotify with ⟨j, -, hrouse⟩ | ⟨-, -, rfl⟩
  · exact hput.rouse hrouse
  · exact hput

/-- An element fewer is no harm. -/
theorem Safe.pop (h : Safe m) : Safe m.pop := by
  refine ⟨h.exclusive, fun hb => ?_⟩
  show m.shared.queue.tail = []
  rw [h.blocking hb, List.tail_nil]

theorem holdsMutex_notified (w : Wait) : w.notified.holdsMutex = w.holdsMutex := by
  cases w <;> rfl

theorem Safe.notifyAll (h : Safe m) : Safe m.notifyAll := by
  have hcount : m.notifyAll.count Wait.holdsMutex = m.count Wait.holdsMutex := by
    unfold Pool.count Monitor.notifyAll
    rw [List.countP_map]
    exact List.countP_congr fun w _ => by rw [Function.comp_apply, holdsMutex_notified]
  refine ⟨hcount.symm ▸ h.exclusive, fun hb => h.blocking ?_⟩
  obtain ⟨w, hw, hblocking⟩ := List.mem_map.mp hb
  cases w with
  | blocking => exact hw
  | outside | testing | asleep | woken | inside => cases hblocking

theorem Safe.halt (h : Safe m) : Safe m.halt := ⟨h.exclusive, h.blocking⟩

/-! ## Everything in the queue has somebody awake for it -/

/-- While a thread is asleep, there is one awake for each element of the queue. -/
def Served (m : Monitor τ) : Prop :=
  .asleep ∈ m.procs → m.shared.queue.length ≤ m.count Wait.awake

/-- A thread that does not go away from the queue. -/
theorem served_move (h : Served m) (hmove : m.move i src dst = some m')
    (hawake : src.awake = true → dst.awake = true) (hasleep : dst ≠ .asleep) : Served m' := by
  intro hm'
  have hle := h (mem_of_move hmove hm' (Ne.symm hasleep))
  have hcount := count_move hmove Wait.awake
  have hmono : src.awake.toNat ≤ dst.awake.toNat := by
    cases hs : src.awake with
    | false => exact Nat.zero_le _
    | true => exact Nat.le_of_eq (congrArg Bool.toNat (hawake hs)).symm
  rw [shared_move hmove]
  omega

theorem served_enter (h : Served m) (henter : m.enter i = some m') : Served m' :=
  served_move h (enter_eq_some.mp henter).2 (fun _ => rfl) (by decide)

theorem served_relock (h : Served m) (hrelock : m.relock i = some m') : Served m' :=
  served_move h (relock_eq_some.mp hrelock).2 (fun _ => rfl) (by decide)

theorem served_rouse (h : Served m) (hrouse : m.rouse i = some m') : Served m' :=
  served_move h hrouse (fun _ => rfl) (by decide)

/-- A thread that goes to sleep has found nothing. -/
theorem served_of_nil (hnil : m.shared.queue = []) : Served m := by
  intro _
  rw [hnil]
  exact Nat.zero_le _

theorem served_test (h : Served m) (htest : m.test i = some m') : Served m' := by
  by_cases hempty : m.shared.queue.isEmpty && !m.shared.stop
  · apply served_of_nil
    rw [shared_move htest]
    exact List.isEmpty_iff.mp (Bool.and_eq_true _ _ ▸ hempty).1
  · rw [test, if_neg hempty] at htest
    exact served_move h htest (fun _ => rfl) (by decide)

theorem served_block (h : Safe m) (hblock : m.block i = some m') : Served m' := by
  apply served_of_nil
  rw [shared_move hblock]
  exact h.blocking (List.mem_of_getElem? (move_eq_some.mp hblock).1)

theorem served_wait {e : Step} (hsafe : Safe m) (h : Served m) (hwait : m.wait i e = some m') :
    Served m' := by
  cases e with
  | enter => exact served_enter h hwait
  | test => exact served_test h hwait
  | block => exact served_block hsafe hwait
  | rouse => exact served_rouse h hwait
  | relock => exact served_relock h hwait

/-- A `wait` only moves its own thread. -/
theorem shared_wait {e : Step} (hwait : m.wait i e = some m') : m'.shared = m.shared := by
  cases e with
  | enter => exact shared_move (enter_eq_some.mp hwait).2
  | test => exact shared_move hwait
  | block => exact shared_move hwait
  | rouse => exact shared_move hwait
  | relock => exact shared_move (relock_eq_some.mp hwait).2

/-- A thread goes away and takes an element with it. -/
theorem served_take (h : Served m) (hleave : m.leave i = some m') : Served m'.pop := by
  intro hm'
  have hle := h (mem_of_move hleave hm' (by decide))
  have hcount := count_move hleave Wait.awake
  have hone : Wait.inside.awake.toNat = 1 := rfl
  have hzero : Wait.outside.awake.toNat = 0 := rfl
  show m'.shared.queue.tail.length ≤ m'.count Wait.awake
  rw [List.length_tail, shared_move hleave]
  omega

/-- An element more, and a thread more that is awake; or there is none asleep. -/
theorem served_push {x : τ} {target : Option Nat} (h : Served m)
    (hpush : m.push x target = some m') : Served m' := by
  obtain ⟨-, hnotify⟩ := push_eq_some.mp hpush
  rcases notifyOne_eq_some.mp hnotify with ⟨j, -, hrouse⟩ | ⟨-, hnone, rfl⟩
  · intro _
    have hj : .asleep ∈ (m.put x).procs := List.mem_of_getElem? (move_eq_some.mp hrouse).1
    have hle : m.shared.queue.length ≤ (m.put x).count Wait.awake := h hj
    have hcount := count_move hrouse Wait.awake
    have hone : Wait.woken.awake.toNat = 1 := rfl
    have hzero : Wait.asleep.awake.toNat = 0 := rfl
    have hlength : m'.shared.queue.length = m.shared.queue.length + 1 := by
      rw [shared_move hrouse]
      exact List.length_append
    omega
  · intro hasleep
    exact absurd hasleep hnone

theorem not_asleep_notifyAll : .asleep ∉ m.notifyAll.procs := by
  intro hasleep
  obtain ⟨w, -, hw⟩ := List.mem_map.mp hasleep
  cases w <;> cases hw

theorem served_notifyAll : Served m.notifyAll := fun hasleep =>
  absurd hasleep not_asleep_notifyAll

/-- Threads asleep and nobody awake: there is nothing in the queue. -/
theorem queue_eq_nil_of_idle (h : Served m) (hasleep : .asleep ∈ m.procs)
    (hidle : ∀ w ∈ m.procs, w.awake = false) : m.shared.queue = [] := by
  have hcount : m.count Wait.awake = 0 := by
    rw [Pool.count, List.countP_eq_zero]
    intro w hw
    rw [hidle w hw]
    exact Bool.false_ne_true
  exact List.eq_nil_of_length_eq_zero (Nat.le_zero.mp (hcount ▸ h hasleep))

/-! ## Threads that go on by themselves -/

/-- Everybody is outside or asleep. -/
def Quiet (m : Monitor τ) : Prop :=
  ∀ w ∈ m.procs, w = .outside ∨ w = .asleep

/-- How many steps the thread takes by itself before it is outside or asleep. -/
def rank : Wait → Nat
  | .woken => 3
  | .testing => 2
  | .blocking | .inside => 1
  | .outside | .asleep => 0

def effort (m : Monitor τ) : Nat :=
  (m.procs.map rank).foldr (· + ·) 0

theorem effort_move (h : m.move i src dst = some m') :
    m'.effort + rank src = m.effort + rank dst := by
  obtain ⟨hsrc, rfl⟩ := move_eq_some.mp h
  obtain ⟨hi, rfl⟩ := List.getElem?_eq_some_iff.mp hsrc
  have hsplit := List.sum_take_add_sum_drop (m.procs.map rank) (i + 1)
  have htake : ((m.procs.map rank).take (i + 1)).sum =
      ((m.procs.map rank).take i).sum + rank m.procs[i] := by
    rw [List.sum_take_succ _ _ (by simpa using hi), List.getElem_map]
  have hset : (m.procs.set i dst).map rank = (m.procs.map rank).set i (rank dst) := List.map_set
  have hlength : i < (m.procs.map rank).length := by simpa using hi
  have hsum : ((m.procs.map rank).set i (rank dst)).sum + rank m.procs[i] =
      (m.procs.map rank).sum + rank dst := by
    rw [List.sum_set, if_pos hlength]
    omega
  rw [← hset] at hsum
  exact hsum

/-- Unless everybody is outside or asleep, somebody can go on: the one with the mutex or, while it
    is free, one that has been notified. -/
theorem exists_running (h : ¬Quiet m) :
    (∃ (i : Nat) (w : Wait), m.procs[i]? = some w ∧ w.holdsMutex = true) ∨
      m.Free ∧ ∃ i : Nat, m.procs[i]? = some Wait.woken := by
  by_cases hfree : m.Free
  · refine .inr ⟨hfree, ?_⟩
    unfold Quiet at h
    push Not at h
    obtain ⟨w, hw, houtside, hasleep⟩ := h
    have hwoken : w = .woken := by
      have hmutex := hfree w hw
      cases w with
      | woken => rfl
      | outside => exact absurd rfl houtside
      | asleep => exact absurd rfl hasleep
      | testing | blocking | inside => cases hmutex
    subst hwoken
    exact List.mem_iff_getElem?.mp hw
  · refine .inl ?_
    unfold Free at hfree
    push Not at hfree
    obtain ⟨w, hw, hmutex⟩ := hfree
    obtain ⟨i, hi⟩ := List.mem_iff_getElem?.mp hw
    exact ⟨i, w, hi, by simpa using hmutex⟩

end Monitor
