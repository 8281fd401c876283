/-
  `acquire`, `release` and `shutdown` of a connection pool, called by any number of threads. The
  pools of all four servers, for MySQL, Redis and the stubs of gRPC, are this class.

  While the pool is not shut down, every stub is in the queue or with one thread, and once the
  threads that are awake have gone on, a thread waits only if all stubs are taken
  (`waits_only_without_stub`): no notification is lost between the threads.

  `shutdown` sets the flag and notifies without the mutex. A thread between its look at the queue
  and its sleep misses that, and waits until somebody brings a stub back; who brings one back after
  the flag is set does not notify. `leavesAll_iff` says exactly when this does not happen.

  A thread has at most one stub. Whom `notify_one` wakes is part of the event; wake-ups without a
  notification may happen at any time.
-/
import Mathlib.Data.Multiset.Range
import DistributedIM.Lib.Monitor
import DistributedIM.Lib.Slots
import DistributedIM.Lib.Trace

namespace DistributedIM.ChattingServer

open Slots

/-- What a thread has while it is not in `acquire`. -/
inductive Hand
  | empty
  | holding (stub : Nat)
  /-- in `release`, past the look at `m_stop` -/
  | returning (stub : Nat)
  deriving DecidableEq, Repr

def Hand.stub : Hand → Option Nat
  | .empty => none
  | .holding stub | .returning stub => some stub

structure StubWaiters where
  monitor : Monitor Nat
  /-- one for each thread -/
  hands : List Hand
  /-- `shutdown` has notified -/
  notified : Bool

namespace StubWaiters

/-- The stubs have been made, and no thread has one. -/
def start (stubs threads : Nat) : StubWaiters where
  monitor := ⟨⟨List.range stubs, false⟩, List.replicate threads .outside⟩
  hands := List.replicate threads .empty
  notified := false

/-! ## Steps -/

inductive Event
  /-- a step of `m_cv.wait`, or the thread takes the mutex in `acquire` -/
  | wait (i : Nat) (e : Monitor.Step)
  /-- `acquire` from `if (m_stop)` on -/
  | acquire (i : Nat)
  /-- `release` up to its look at `m_stop` -/
  | release (i : Nat)
  /-- the rest of `release`; `target` is the thread that `notify_one` wakes -/
  | push (i : Nat) (target : Option Nat)
  /-- `m_stop = true` -/
  | halt
  /-- `m_cv.notify_all()` -/
  | notifyAll
  /-- the loop of `shutdown`, with the mutex -/
  | clear
  deriving DecidableEq, Repr

variable (s : StubWaiters)

def wait (i : Nat) (e : Monitor.Step) : Option StubWaiters :=
  if e = .enter → s.hands[i]? = some .empty then
    (s.monitor.wait i e).map fun m => { s with monitor := m }
  else none

/-- Without a stub the thread gets `std::nullopt`. -/
def acquire (i : Nat) : Option StubWaiters :=
  (s.monitor.leave i).bind fun m =>
    if m.shared.stop then some { s with monitor := m }
    else
      match m.shared.queue with
      | [] => none
      | stub :: _ => some { s with monitor := m.pop, hands := s.hands.set i (.holding stub) }

/-- After a shutdown the stub is destroyed. -/
def release (i : Nat) : Option StubWaiters :=
  match s.hands[i]? with
  | some (.holding stub) =>
    some { s with
      hands := s.hands.set i (if s.monitor.shared.stop then .empty else .returning stub) }
  | _ => none

def push (i : Nat) (target : Option Nat) : Option StubWaiters :=
  match s.hands[i]? with
  | some (.returning stub) =>
    (s.monitor.push stub target).map fun m =>
      { s with monitor := m, hands := s.hands.set i .empty }
  | _ => none

def clear : StubWaiters :=
  { s with monitor := { s.monitor with shared := { s.monitor.shared with queue := [] } } }

def step : Event → Option StubWaiters
  | .wait i e => s.wait i e
  | .acquire i => s.acquire i
  | .release i => s.release i
  | .push i target => s.push i target
  | .halt => some { s with monitor := s.monitor.halt }
  | .notifyAll =>
    if s.monitor.shared.stop then some { s with monitor := s.monitor.notifyAll, notified := true }
    else none
  | .clear => if s.monitor.shared.stop ∧ s.monitor.Free then some s.clear else none

/-- What a thread that is already in `acquire` does there by itself. -/
def Event.isWaiters : Event → Bool
  | .wait _ .enter | .wait _ .rouse => false
  | .wait _ _ | .acquire _ => true
  | _ => false

/-- The stubs that the threads have. -/
def taken : Multiset Nat := contents Hand.stub s.hands

variable {s}

/-! ## What a step does -/

inductive Steps (s : StubWaiters) : Event → StubWaiters → Prop
  | waited (i : Nat) (e : Monitor.Step) (m : Monitor Nat)
      (hhand : e = .enter → s.hands[i]? = some .empty) (hwait : s.monitor.wait i e = some m) :
    Steps s (.wait i e) { s with monitor := m }
  | refused (i : Nat) (m : Monitor Nat) (hleave : s.monitor.leave i = some m)
      (hstop : m.shared.stop = true) :
    Steps s (.acquire i) { s with monitor := m }
  | acquired (i stub : Nat) (rest : List Nat) (m : Monitor Nat)
      (hleave : s.monitor.leave i = some m) (hstop : m.shared.stop = false)
      (hqueue : m.shared.queue = stub :: rest) :
    Steps s (.acquire i) { s with monitor := m.pop, hands := s.hands.set i (.holding stub) }
  | released (i stub : Nat) (hhand : s.hands[i]? = some (.holding stub)) :
    Steps s (.release i)
      { s with hands := s.hands.set i (if s.monitor.shared.stop then .empty else .returning stub) }
  | pushed (i stub : Nat) (target : Option Nat) (m : Monitor Nat)
      (hhand : s.hands[i]? = some (.returning stub))
      (hpush : s.monitor.push stub target = some m) :
    Steps s (.push i target) { s with monitor := m, hands := s.hands.set i .empty }
  | halted : Steps s .halt { s with monitor := s.monitor.halt }
  | notifiedAll (hstop : s.monitor.shared.stop = true) :
    Steps s .notifyAll { s with monitor := s.monitor.notifyAll, notified := true }
  | cleared (hstop : s.monitor.shared.stop = true) (hfree : s.monitor.Free) :
    Steps s .clear s.clear

variable {s' : StubWaiters}

theorem step_cases {e : Event} (hstep : s.step e = some s') : Steps s e s' := by
  cases e with
  | wait i e =>
    obtain ⟨hhand, hmap⟩ := Option.ite_none_right_eq_some.mp hstep
    obtain ⟨m, hwait, rfl⟩ := Option.map_eq_some_iff.mp hmap
    exact .waited i e m hhand hwait
  | acquire i =>
    obtain ⟨m, hleave, hrest⟩ := Option.bind_eq_some_iff.mp hstep
    split at hrest
    · rename_i hstop
      obtain rfl := Option.some.inj hrest
      exact .refused i m hleave hstop
    · rename_i hstop
      rw [Bool.not_eq_true] at hstop
      split at hrest
      · cases hrest
      · rename_i stub rest hqueue
        obtain rfl := Option.some.inj hrest
        exact .acquired i stub rest m hleave hstop hqueue
  | release i =>
    have hstep : s.release i = some s' := hstep
    unfold release at hstep
    split at hstep
    · rename_i stub hhand
      obtain rfl := Option.some.inj hstep
      exact .released i stub hhand
    · cases hstep
  | push i target =>
    have hstep : s.push i target = some s' := hstep
    unfold push at hstep
    split at hstep
    · rename_i stub hhand
      obtain ⟨m, hpush, rfl⟩ := Option.map_eq_some_iff.mp hstep
      exact .pushed i stub target m hhand hpush
    · cases hstep
  | halt =>
    obtain rfl := Option.some.inj hstep
    exact .halted
  | notifyAll =>
    obtain ⟨hstop, hs⟩ := Option.ite_none_right_eq_some.mp hstep
    obtain rfl := Option.some.inj hs
    exact .notifiedAll hstop
  | clear =>
    obtain ⟨⟨hstop, hfree⟩, hs⟩ := Option.ite_none_right_eq_some.mp hstep
    obtain rfl := Option.some.inj hs
    exact .cleared hstop hfree

/-! ## The invariant -/

/-- There is a hand for each thread, and it is empty while the thread is in `acquire`. -/
structure Apart (procs : List Wait) (hands : List Hand) : Prop where
  length : hands.length = procs.length
  empty : ∀ (i : Nat) (w : Wait) (hand : Hand), procs[i]? = some w → hands[i]? = some hand →
    w = .outside ∨ hand = .empty

structure Inv (stubs : Nat) (s : StubWaiters) : Prop where
  safe : s.monitor.Safe
  served : s.monitor.shared.stop = false → s.monitor.Served
  /-- A thread past the wait has found something. -/
  found : .inside ∈ s.monitor.procs → s.monitor.shared.queue ≠ [] ∨ s.monitor.shared.stop = true
  apart : Apart s.monitor.procs s.hands
  account : s.monitor.shared.stop = false → ↑s.monitor.shared.queue + s.taken = Multiset.range stubs

variable {stubs : Nat}

theorem inv_start (threads : Nat) : Inv stubs (start stubs threads) where
  safe := by
    refine Monitor.Safe.of_free (m := (start stubs threads).monitor) ?_ rfl
    intro w hw
    rw [List.eq_of_mem_replicate hw]
    rfl
  served := by
    intro _ hasleep
    cases List.eq_of_mem_replicate hasleep
  found := by
    intro hinside
    cases List.eq_of_mem_replicate hinside
  apart := by
    refine ⟨?_, fun i w hand hw _ => .inl (List.eq_of_mem_replicate (List.mem_of_getElem? hw))⟩
    show (List.replicate threads Hand.empty).length = (List.replicate threads Wait.outside).length
    rw [List.length_replicate, List.length_replicate]
  account := by
    intro _
    have htaken : (start stubs threads).taken = 0 := by
      rw [Multiset.eq_zero_iff_forall_notMem]
      intro stub hstub
      obtain ⟨hand, hhand, hsome⟩ := mem_contents.mp hstub
      rw [List.eq_of_mem_replicate hhand] at hsome
      cases hsome
    rw [htaken, add_zero]
    rfl

/-- A thread goes into `acquire` with nothing, and in there it still has nothing. -/
theorem apart_move {m m' : Monitor Nat} {hands : List Hand} {i : Nat} {src dst : Wait}
    (h : Apart m.procs hands) (hmove : m.move i src dst = some m')
    (hhand : src = .outside → hands[i]? = some .empty) : Apart m'.procs hands := by
  obtain ⟨hsrc, rfl⟩ := Monitor.move_eq_some.mp hmove
  refine ⟨by rw [List.length_set]; exact h.length, fun j w hand hw hj => ?_⟩
  by_cases hij : i = j
  · subst hij
    by_cases hout : src = .outside
    · rw [hhand hout] at hj
      exact .inr (Option.some.inj hj).symm
    · exact .inr ((h.empty i src hand hsrc hj).resolve_left hout)
  · rw [List.getElem?_set_ne hij] at hw
    exact h.empty j w hand hw hj

/-- A hand is filled outside only. -/
theorem apart_set {procs : List Wait} {hands : List Hand} {i : Nat} {hand : Hand}
    (h : Apart procs hands) (hi : procs[i]? = some .outside ∨ hand = .empty) :
    Apart procs (hands.set i hand) := by
  refine ⟨by rw [List.length_set]; exact h.length, fun j w hand' hw hj => ?_⟩
  rw [List.getElem?_set] at hj
  split at hj
  · rename_i hij
    subst hij
    split at hj
    · obtain rfl := Option.some.inj hj
      rcases hi with hi | hempty
      · exact .inl (Option.some.inj (hw.symm.trans hi))
      · exact .inr hempty
    · cases hj
  · exact h.empty j w hand' hw hj

theorem apart_notifyAll {m : Monitor Nat} {hands : List Hand} (h : Apart m.procs hands) :
    Apart m.notifyAll.procs hands := by
  refine ⟨?_, fun i w hand hw hi => ?_⟩
  · show hands.length = (m.procs.map Wait.notified).length
    rw [List.length_map]
    exact h.length
  · have hw : (m.procs.map Wait.notified)[i]? = some w := hw
    rw [List.getElem?_map, Option.map_eq_some_iff] at hw
    obtain ⟨w', hw', rfl⟩ := hw
    rcases h.empty i w' hand hw' hi with rfl | hempty
    · exact .inl rfl
    · exact .inr hempty

theorem inv_move {m : Monitor Nat} {i : Nat} {src dst : Wait} (h : Inv stubs s)
    (hmove : s.monitor.move i src dst = some m) (hsafe : m.Safe)
    (hserved : m.shared.stop = false → m.Served)
    (hhand : src = .outside → s.hands[i]? = some .empty)
    (hfound : dst = .inside → s.monitor.shared.queue ≠ [] ∨ s.monitor.shared.stop = true) :
    Inv stubs { s with monitor := m } := by
  have hshared := Monitor.shared_move hmove
  refine ⟨hsafe, hserved, fun hinside => ?_, apart_move h.apart hmove hhand, ?_⟩
  · show m.shared.queue ≠ [] ∨ m.shared.stop = true
    rw [hshared]
    by_cases hdst : dst = .inside
    · exact hfound hdst
    · exact h.found (Monitor.mem_of_move hmove hinside (Ne.symm hdst))
  · show m.shared.stop = false → ↑m.shared.queue + s.taken = Multiset.range stubs
    rw [hshared]
    exact h.account

theorem inv_waited {i : Nat} {e : Monitor.Step} {m : Monitor Nat} (h : Inv stubs s)
    (hhand : e = .enter → s.hands[i]? = some .empty) (hwait : s.monitor.wait i e = some m) :
    Inv stubs { s with monitor := m } := by
  have hsafe := h.safe.wait hwait
  have hserved : m.shared.stop = false → m.Served := by
    intro hstop
    rw [Monitor.shared_wait hwait] at hstop
    exact Monitor.served_wait h.safe (h.served hstop) hwait
  cases e with
  | enter =>
    exact inv_move h (Monitor.enter_eq_some.mp hwait).2 hsafe hserved (fun _ => hhand rfl)
      (fun hd => by cases hd)
  | test =>
    refine inv_move h hwait hsafe hserved (fun hs => by cases hs) fun hinside => ?_
    split at hinside
    · cases hinside
    · rename_i hpred
      rwa [Bool.and_eq_true, List.isEmpty_iff, Bool.not_eq_true', not_and_or,
        Bool.not_eq_false] at hpred
  | block =>
    exact inv_move h hwait hsafe hserved (fun hs => by cases hs) (fun hd => by cases hd)
  | rouse =>
    exact inv_move h hwait hsafe hserved (fun hs => by cases hs) (fun hd => by cases hd)
  | relock =>
    exact inv_move h (Monitor.relock_eq_some.mp hwait).2 hsafe hserved (fun hs => by cases hs)
      (fun hd => by cases hd)

/-- Nobody else has the mutex while one has it. -/
theorem not_inside_of_leave {m : Monitor Nat} {i : Nat} (h : Inv stubs s)
    (hleave : s.monitor.leave i = some m) : .inside ∉ m.procs := by
  have hcount := Monitor.count_move hleave Wait.holdsMutex
  have hone : Wait.inside.holdsMutex.toNat = 1 := rfl
  have hzero : Wait.outside.holdsMutex.toNat = 0 := rfl
  have hexclusive := h.safe.exclusive
  have hfree : m.Free := Monitor.free_iff.mpr (by omega)
  exact fun hinside => absurd (hfree _ hinside) (by decide)

theorem inv_refused {i : Nat} {m : Monitor Nat} (h : Inv stubs s)
    (hleave : s.monitor.leave i = some m) (hstop : m.shared.stop = true) :
    Inv stubs { s with monitor := m } := by
  refine inv_move h hleave (h.safe.leave hleave) (fun hrunning => ?_) (fun hs => by cases hs)
    (fun hd => by cases hd)
  rw [hstop] at hrunning
  cases hrunning

/-- The hands after thread `i` has something else in its own. -/
theorem taken_set {i : Nat} {hand : Hand} (hi : s.hands[i]? = some hand) (hand' : Hand) :
    contents Hand.stub (s.hands.set i hand') + hand.stub.toList =
      s.taken + hand'.stub.toList :=
  contents_set hi hand'

theorem inv_acquired {i stub : Nat} {rest : List Nat} {m : Monitor Nat} (h : Inv stubs s)
    (hleave : s.monitor.leave i = some m) (hstop : m.shared.stop = false)
    (hqueue : m.shared.queue = stub :: rest) :
    Inv stubs { s with monitor := m.pop, hands := s.hands.set i (.holding stub) } := by
  have hapart := apart_move h.apart hleave fun hs => by cases hs
  have hinside := not_inside_of_leave h hleave
  have hsafe := (h.safe.leave hleave).pop
  obtain ⟨hi, rfl⟩ := Monitor.move_eq_some.mp hleave
  have hold : s.hands[i]? = some .empty := by
    obtain ⟨hlt, -⟩ := List.getElem?_eq_some_iff.mp hi
    have hhand := List.getElem?_eq_getElem (h.apart.length.symm ▸ hlt)
    rcases h.apart.empty i _ _ hi hhand with hout | hempty
    · cases hout
    · rw [hhand, hempty]
  have hout : (s.monitor.procs.set i .outside)[i]? = some Wait.outside := by
    obtain ⟨hlt, -⟩ := List.getElem?_eq_some_iff.mp hi
    rw [List.getElem?_set_self hlt]
  refine ⟨hsafe, fun _ => Monitor.served_take (h.served hstop) hleave,
    fun hin => absurd hin hinside, apart_set hapart (.inl hout), fun _ => ?_⟩
  have haccount := h.account hstop
  have htaken := taken_set hold (.holding stub)
  have hrest : s.monitor.shared.queue.tail = rest := by
    rw [show s.monitor.shared.queue = stub :: rest from hqueue, List.tail_cons]
  show ↑s.monitor.shared.queue.tail + contents Hand.stub (s.hands.set i (.holding stub)) = _
  rw [show s.monitor.shared.queue = stub :: rest from hqueue] at haccount
  have htaken' : contents Hand.stub (s.hands.set i (.holding stub)) = s.taken + {stub} := by
    simpa [Hand.stub] using htaken
  rw [hrest, htaken', ← haccount, ← Multiset.cons_coe, ← Multiset.singleton_add]
  ac_rfl

theorem outside_of_hand {i : Nat} {hand : Hand} (h : Inv stubs s) (hhand : s.hands[i]? = some hand)
    (hne : hand ≠ .empty) : s.monitor.procs[i]? = some .outside := by
  obtain ⟨hlt, -⟩ := List.getElem?_eq_some_iff.mp hhand
  have hi := List.getElem?_eq_getElem (h.apart.length ▸ hlt)
  rw [hi, (h.apart.empty i _ _ hi hhand).resolve_right hne]

theorem inv_released {i stub : Nat} (h : Inv stubs s) (hhand : s.hands[i]? = some (.holding stub)) :
    Inv stubs { s with
      hands := s.hands.set i (if s.monitor.shared.stop then .empty else .returning stub) } := by
  have hout := outside_of_hand h hhand (by simp)
  refine ⟨h.safe, h.served, h.found, apart_set h.apart (.inl hout), fun hstop => ?_⟩
  have hstop : s.monitor.shared.stop = false := hstop
  have htaken := taken_set hhand (.returning stub)
  show ↑s.monitor.shared.queue + contents Hand.stub (s.hands.set i _) = _
  rw [hstop]
  have hsame : contents Hand.stub (s.hands.set i (.returning stub)) = s.taken :=
    add_right_cancel htaken
  exact hsame ▸ h.account hstop

theorem inv_pushed {i stub : Nat} {target : Option Nat} {m : Monitor Nat} (h : Inv stubs s)
    (hhand : s.hands[i]? = some (.returning stub))
    (hpush : s.monitor.push stub target = some m) :
    Inv stubs { s with monitor := m, hands := s.hands.set i .empty } := by
  obtain ⟨hfree, hnotify⟩ := Monitor.push_eq_some.mp hpush
  have hinside : .inside ∉ s.monitor.procs := fun hin => absurd (hfree _ hin) (by decide)
  have hshared : m.shared = (s.monitor.put stub).shared := by
    rcases Monitor.notifyOne_eq_some.mp hnotify with ⟨j, -, hrouse⟩ | ⟨-, -, rfl⟩
    · exact Monitor.shared_move hrouse
    · rfl
  obtain ⟨hapart, hin⟩ : Apart m.procs s.hands ∧ .inside ∉ m.procs := by
    rcases Monitor.notifyOne_eq_some.mp hnotify with ⟨j, -, hrouse⟩ | ⟨-, -, rfl⟩
    · have hmove : (s.monitor.put stub).move j .asleep .woken = some m := hrouse
      refine ⟨apart_move (m := s.monitor.put stub) h.apart hmove (fun hs => by cases hs), ?_⟩
      intro hin
      have hold := Monitor.mem_of_move hmove hin (by decide)
      exact hinside hold
    · exact ⟨h.apart, hinside⟩
  refine ⟨Monitor.Safe.push hpush, fun hstop => ?_, fun hmem => absurd hmem hin,
    apart_set hapart (.inr rfl), fun hstop => ?_⟩
  · have hstop : m.shared.stop = false := hstop
    rw [hshared] at hstop
    exact Monitor.served_push (h.served hstop) hpush
  · have hstop : m.shared.stop = false := hstop
    rw [hshared] at hstop
    have haccount := h.account hstop
    have htaken : contents Hand.stub (s.hands.set i .empty) + {stub} = s.taken := by
      simpa [Hand.stub] using taken_set hhand .empty
    show ↑m.shared.queue + contents Hand.stub (s.hands.set i .empty) = Multiset.range stubs
    rw [hshared, ← haccount, ← htaken]
    have hput : (↑(s.monitor.put stub).shared.queue : Multiset Nat) =
        ↑s.monitor.shared.queue + {stub} := by
      rw [← Multiset.coe_singleton, Multiset.coe_add]
      rfl
    rw [hput]
    ac_rfl

theorem mem_notifyAll {m : Monitor Nat} {w : Wait} (hw : w ∈ m.notifyAll.procs)
    (hne : w ≠ .woken) : w ∈ m.procs := by
  obtain ⟨w', hw', rfl⟩ := List.mem_map.mp hw
  cases w' with
  | asleep => exact absurd rfl hne
  | outside | testing | blocking | woken | inside => exact hw'

theorem inv_notifiedAll (h : Inv stubs s) :
    Inv stubs { s with monitor := s.monitor.notifyAll, notified := true } := by
  exact ⟨h.safe.notifyAll, fun _ => Monitor.served_notifyAll,
    fun hin => h.found (mem_notifyAll hin (by decide)), apart_notifyAll h.apart, h.account⟩

theorem inv_step {e : Event} (h : Inv stubs s) (hstep : s.step e = some s') : Inv stubs s' := by
  cases step_cases hstep with
  | waited i e m hhand hwait => exact inv_waited h hhand hwait
  | refused i m hleave hstop => exact inv_refused h hleave hstop
  | acquired i stub rest m hleave hstop hqueue => exact inv_acquired h hleave hstop hqueue
  | released i stub hhand => exact inv_released h hhand
  | pushed i stub target m hhand hpush => exact inv_pushed h hhand hpush
  | halted =>
    exact ⟨h.safe.halt, (fun hstop => by cases hstop), fun _ => .inr rfl, h.apart,
      fun hstop => by cases hstop⟩
  | notifiedAll hstop => exact inv_notifiedAll h
  | cleared hstop hfree =>
    refine ⟨Monitor.Safe.of_free hfree rfl, fun hrunning => ?_,
      fun hin => absurd (hfree _ hin) (by decide), h.apart, fun hrunning => ?_⟩ <;>
    · rw [show s.clear.monitor.shared.stop = s.monitor.shared.stop from rfl, hstop] at hrunning
      cases hrunning

theorem inv_of_reaches {threads : Nat} (h : Trace.Reaches step (start stubs threads) s) :
    Inv stubs s :=
  Trace.invariant (Inv stubs) (fun _ _ _ => inv_step) (inv_start threads) h

/-! ## Threads in `acquire` go on by themselves -/

/-- A thread in `acquire` takes a step there, and has one fewer to take. -/
def Advances (s : StubWaiters) : Prop :=
  ∃ e s', e.isWaiters = true ∧ s.step e = some s' ∧ s'.monitor.effort < s.monitor.effort

theorem move_of_getElem? {i : Nat} {src : Wait} (hi : s.monitor.procs[i]? = some src) (dst : Wait) :
    s.monitor.move i src dst = some ⟨s.monitor.shared, s.monitor.procs.set i dst⟩ :=
  Monitor.move_eq_some.mpr ⟨hi, rfl⟩

theorem effort_lt {i : Nat} {src : Wait} (hi : s.monitor.procs[i]? = some src) {dst : Wait}
    (hrank : Monitor.rank dst < Monitor.rank src) (shared : Buffer Nat) :
    Monitor.effort ⟨shared, s.monitor.procs.set i dst⟩ < s.monitor.effort := by
  have heffort := Monitor.effort_move (move_of_getElem? hi dst)
  show Monitor.effort ⟨s.monitor.shared, s.monitor.procs.set i dst⟩ < s.monitor.effort
  omega

theorem advances_wait {i : Nat} {e : Monitor.Step} {src dst : Wait}
    (he : (Event.wait i e).isWaiters = true) (hi : s.monitor.procs[i]? = some src)
    (hstep : s.monitor.wait i e = s.monitor.move i src dst)
    (hrank : Monitor.rank dst < Monitor.rank src) : Advances s := by
  refine ⟨.wait i e, { s with monitor := ⟨s.monitor.shared, s.monitor.procs.set i dst⟩ }, he, ?_,
    effort_lt hi hrank _⟩
  have hguard : e = .enter → s.hands[i]? = some .empty := by
    rintro rfl
    cases he
  show (if _ then _ else _) = _
  rw [if_pos hguard, hstep, move_of_getElem? hi]
  rfl

/-- The thread past the wait leaves `acquire`, with a stub or without. -/
theorem advances_acquire {i : Nat} (h : Inv stubs s) (hi : s.monitor.procs[i]? = some .inside) :
    Advances s := by
  by_cases hstop : s.monitor.shared.stop = true
  · refine ⟨.acquire i, { s with
      monitor := ⟨s.monitor.shared, s.monitor.procs.set i .outside⟩ }, rfl, ?_,
      effort_lt hi (by decide) _⟩
    show (s.monitor.leave i).bind _ = _
    rw [Monitor.leave, move_of_getElem? hi, Option.bind_some, if_pos hstop]
  · have hqueue := (h.found (List.mem_of_getElem? hi)).resolve_right hstop
    obtain ⟨stub, rest, hcons⟩ := List.exists_cons_of_ne_nil hqueue
    refine ⟨.acquire i, { s with
      monitor := Monitor.pop ⟨s.monitor.shared, s.monitor.procs.set i .outside⟩
      hands := s.hands.set i (.holding stub) }, rfl, ?_, effort_lt hi (by decide) _⟩
    show (s.monitor.leave i).bind _ = _
    rw [Monitor.leave, move_of_getElem? hi, Option.bind_some, if_neg hstop]
    simp only [hcons]

/-- Unless everybody is outside or asleep, some thread can go on in `acquire`. -/
theorem advances_of_not_quiet (h : Inv stubs s) (hquiet : ¬s.monitor.Quiet) : Advances s := by
  rcases Monitor.exists_running hquiet with ⟨i, w, hi, hmutex⟩ | ⟨hfree, i, hi⟩
  · cases w with
    | testing =>
      refine advances_wait (e := .test) rfl hi rfl ?_
      split <;> decide
    | blocking => exact advances_wait (e := .block) rfl hi rfl (by decide)
    | inside => exact advances_acquire h hi
    | outside | asleep | woken => cases hmutex
  · exact advances_wait (e := .relock) rfl hi (if_pos hfree) (by decide)

/-- The threads in `acquire` leave the flag alone, and whether `shutdown` has notified. -/
theorem stop_of_waiters {e : Event} (he : e.isWaiters = true) (hstep : s.step e = some s') :
    s'.monitor.shared.stop = s.monitor.shared.stop := by
  cases step_cases hstep with
  | waited i e m _ hwait => exact congrArg Buffer.stop (Monitor.shared_wait hwait)
  | refused i m hleave _ => exact congrArg Buffer.stop (Monitor.shared_move hleave)
  | acquired i stub rest m hleave _ _ =>
    show m.shared.stop = s.monitor.shared.stop
    exact congrArg Buffer.stop (Monitor.shared_move hleave)
  | released _ _ _ | pushed _ _ _ _ _ _ | halted | notifiedAll _ | cleared _ _ => cases he

/-- By themselves the threads in `acquire` come to a point where each is outside or asleep; a
    property they keep still holds there. Induction on how many steps are left. -/
theorem settles {P : StubWaiters → Prop}
    (hkept : ∀ {s s' e}, Inv stubs s → P s → e.isWaiters = true → s.step e = some s' → P s')
    (n : Nat) : ∀ {s : StubWaiters}, Inv stubs s → P s → s.monitor.effort ≤ n →
      ∃ es s', (∀ e ∈ es, e.isWaiters = true) ∧ Trace.exec step s es = some s' ∧
        Inv stubs s' ∧ P s' ∧ s'.monitor.Quiet := by
  induction n with
  | zero =>
    intro s h hP heffort
    by_cases hquiet : s.monitor.Quiet
    · exact ⟨[], s, by simp, rfl, h, hP, hquiet⟩
    · obtain ⟨e, s', -, -, hless⟩ := advances_of_not_quiet h hquiet
      omega
  | succ n ih =>
    intro s h hP heffort
    by_cases hquiet : s.monitor.Quiet
    · exact ⟨[], s, by simp, rfl, h, hP, hquiet⟩
    · obtain ⟨e, m, he, hstep, hless⟩ := advances_of_not_quiet h hquiet
      obtain ⟨es, s', hall, hexec, hrest⟩ :=
        ih (inv_step h hstep) (hkept h hP he hstep) (by omega)
      refine ⟨e :: es, s', ?_, (Trace.exec_cons_some _).mpr ⟨m, hstep, hexec⟩, hrest⟩
      intro e' he'
      rcases List.mem_cons.mp he' with rfl | he'
      · exact he
      · exact hall e' he'

/-- While the pool is not shut down, every stub is in the queue or with one thread; and the threads
    in `acquire` get by themselves to a point where none of them waits but for want of a stub: if
    one is asleep, the threads have them all. -/
theorem waits_only_without_stub {threads : Nat}
    (h : Trace.Reaches step (start stubs threads) s) (hstop : s.monitor.shared.stop = false) :
    ↑s.monitor.shared.queue + s.taken = Multiset.range stubs ∧
      ∃ es s', (∀ e ∈ es, e.isWaiters = true) ∧ Trace.exec step s es = some s' ∧
        s'.monitor.Quiet ∧ (.asleep ∈ s'.monitor.procs → s'.taken = Multiset.range stubs) := by
  have hinv := inv_of_reaches h
  refine ⟨hinv.account hstop, ?_⟩
  obtain ⟨es, s', hall, hexec, hinv', hstop', hquiet⟩ :=
    settles (P := fun s => s.monitor.shared.stop = false)
      (fun _ hrunning he hstep => (stop_of_waiters he hstep).trans hrunning) s.monitor.effort
      hinv hstop (Nat.le_refl _)
  refine ⟨es, s', hall, hexec, hquiet, fun hasleep => ?_⟩
  have hidle : ∀ w ∈ s'.monitor.procs, w.awake = false := by
    intro w hw
    rcases hquiet w hw with rfl | rfl <;> rfl
  have hnil := Monitor.queue_eq_nil_of_idle (hinv'.served hstop') hasleep hidle
  have haccount := hinv'.account hstop'
  rw [hnil, Multiset.coe_nil, zero_add] at haccount
  exact haccount

/-- One stub and two threads: the second waits for the stub of the first. -/
def contended : StubWaiters where
  monitor := ⟨⟨[], false⟩, [.outside, .asleep]⟩
  hands := [.holding 0, .empty]
  notified := false

theorem waits_only_without_stub_contended :
    ↑contended.monitor.shared.queue + contended.taken = Multiset.range 1 ∧
      ∃ es s', (∀ e ∈ es, e.isWaiters = true) ∧ Trace.exec step contended es = some s' ∧
        s'.monitor.Quiet ∧ (.asleep ∈ s'.monitor.procs → s'.taken = Multiset.range 1) :=
  have hreaches : Trace.Reaches step (start 1 2) contended :=
    ⟨[.wait 0 .enter, .wait 0 .test, .acquire 0, .wait 1 .enter, .wait 1 .test, .wait 1 .block],
      rfl⟩
  waits_only_without_stub hreaches rfl

/-! ## Shutdown -/

/-- The threads in `acquire` all get out of it by themselves. -/
def LeavesAll (s : StubWaiters) : Prop :=
  ∃ es s', (∀ e ∈ es, e.isWaiters = true) ∧ Trace.exec step s es = some s' ∧
    ∀ w ∈ s'.monitor.procs, w = .outside

/-- `shutdown` does not notify between a thread's look at the queue and its sleep. -/
def NotifiesAwake (s : StubWaiters) : Event → Prop
  | .notifyAll => .blocking ∉ s.monitor.procs
  | _ => True

/-- The flag is set, nobody is asleep and nobody is about to be. -/
structure Alert (s : StubWaiters) : Prop where
  stop : s.monitor.shared.stop = true
  asleep : .asleep ∉ s.monitor.procs
  blocking : .blocking ∉ s.monitor.procs

theorem alert_move {m : Monitor Nat} {i : Nat} {src dst : Wait} (h : Alert s)
    (hmove : s.monitor.move i src dst = some m) (hasleep : src ≠ .blocking → dst ≠ .asleep)
    (hblocking : dst ≠ .blocking) : Alert { s with monitor := m } := by
  have hsrc : src ≠ .blocking := by
    rintro rfl
    exact h.blocking (List.mem_of_getElem? (Monitor.move_eq_some.mp hmove).1)
  exact ⟨(congrArg Buffer.stop (Monitor.shared_move hmove)).trans h.stop,
    fun hmem => h.asleep (Monitor.mem_of_move hmove hmem (hasleep hsrc).symm),
    fun hmem => h.blocking (Monitor.mem_of_move hmove hmem hblocking.symm)⟩

theorem alert_waited {i : Nat} {e : Monitor.Step} {m : Monitor Nat} (h : Alert s)
    (hwait : s.monitor.wait i e = some m) : Alert { s with monitor := m } := by
  cases e with
  | enter => exact alert_move h (Monitor.enter_eq_some.mp hwait).2 (by decide) (by decide)
  | test =>
    have hpred : ¬(s.monitor.shared.queue.isEmpty && !s.monitor.shared.stop) = true := by
      simp [h.stop]
    have htest : s.monitor.test i = some m := hwait
    rw [Monitor.test, if_neg hpred] at htest
    exact alert_move h htest (by decide) (by decide)
  | block => exact alert_move h hwait (fun hne => absurd rfl hne) (by decide)
  | rouse => exact alert_move h hwait (by decide) (by decide)
  | relock => exact alert_move h (Monitor.relock_eq_some.mp hwait).2 (by decide) (by decide)

theorem alert_step {e : Event} (h : Alert s) (hstep : s.step e = some s') : Alert s' := by
  cases step_cases hstep with
  | waited i e m _ hwait => exact alert_waited h hwait
  | refused i m hleave _ =>
    have hleft := alert_move h hleave (by decide) (by decide)
    exact ⟨hleft.stop, hleft.asleep, hleft.blocking⟩
  | acquired i stub rest m hleave _ _ =>
    have hleft := alert_move h hleave (by decide) (by decide)
    exact ⟨hleft.stop, hleft.asleep, hleft.blocking⟩
  | released i stub _ => exact ⟨h.stop, h.asleep, h.blocking⟩
  | pushed i stub target m _ hpush =>
    obtain ⟨-, hnotify⟩ := Monitor.push_eq_some.mp hpush
    rcases Monitor.notifyOne_eq_some.mp hnotify with ⟨j, -, hrouse⟩ | ⟨-, -, rfl⟩
    · exact absurd (List.mem_of_getElem? (Monitor.move_eq_some.mp hrouse).1) h.asleep
    · exact ⟨h.stop, h.asleep, h.blocking⟩
  | halted => exact ⟨rfl, h.asleep, h.blocking⟩
  | notifiedAll _ =>
    exact ⟨h.stop, Monitor.not_asleep_notifyAll, fun hmem =>
      h.blocking (mem_notifyAll hmem (by decide))⟩
  | cleared _ _ => exact ⟨h.stop, h.asleep, h.blocking⟩

theorem leavesAll_of_alert (h : Inv stubs s) (halert : Alert s) : LeavesAll s := by
  obtain ⟨es, s', hall, hexec, -, halert', hquiet⟩ :=
    settles (P := Alert) (fun _ halert _ hstep => alert_step halert hstep) s.monitor.effort h
      halert (Nat.le_refl _)
  refine ⟨es, s', hall, hexec, fun w hw => (hquiet w hw).resolve_right ?_⟩
  rintro rfl
  exact halert'.asleep hw

/-- Thread `i` is asleep or about to be. -/
def Stuck (i : Nat) (m : Monitor Nat) : Prop :=
  m.procs[i]? = some .blocking ∨ m.procs[i]? = some .asleep

theorem stuck_move {m m' : Monitor Nat} {i j : Nat} {src dst : Wait} (h : Stuck i m)
    (hmove : m.move j src dst = some m')
    (hsrc : src = .blocking ∧ dst = .asleep ∨ src ≠ .blocking ∧ src ≠ .asleep) : Stuck i m' := by
  obtain ⟨hj, rfl⟩ := Monitor.move_eq_some.mp hmove
  unfold Stuck at h ⊢
  dsimp only
  by_cases hij : j = i
  · subst hij
    obtain ⟨hlt, -⟩ := List.getElem?_eq_some_iff.mp hj
    rcases hsrc with ⟨-, rfl⟩ | ⟨hblocking, hasleep⟩
    · exact .inr (List.getElem?_set_self hlt)
    · rw [hj, Option.some.injEq, Option.some.injEq] at h
      exact absurd h (not_or.mpr ⟨hblocking, hasleep⟩)
  · rw [List.getElem?_set_ne hij]
    exact h

/-- Nobody in `acquire` wakes another. -/
theorem stuck_step {e : Event} {i : Nat} (h : Stuck i s.monitor) (he : e.isWaiters = true)
    (hstep : s.step e = some s') : Stuck i s'.monitor := by
  cases step_cases hstep with
  | waited j e m _ hwait =>
    cases e with
    | enter | rouse => cases he
    | test => exact stuck_move h hwait (.inr (by decide))
    | block => exact stuck_move h hwait (by decide)
    | relock => exact stuck_move h (Monitor.relock_eq_some.mp hwait).2 (by decide)
  | refused j m hleave _ => exact stuck_move h hleave (by decide)
  | acquired j stub rest m hleave _ _ =>
    have hleft : Stuck i m := stuck_move h hleave (by decide)
    exact hleft
  | released _ _ _ | pushed _ _ _ _ _ _ | halted | notifiedAll _ | cleared _ _ => cases he

theorem stuck_exec {i : Nat} (es : List Event) : ∀ {s s' : StubWaiters}, Stuck i s.monitor →
    (∀ e ∈ es, e.isWaiters = true) → Trace.exec step s es = some s' → Stuck i s'.monitor := by
  induction es with
  | nil =>
    intro s s' h _ hexec
    obtain rfl := Option.some.inj hexec
    exact h
  | cons e es ih =>
    intro s s' h hall hexec
    obtain ⟨m, hstep, hexec⟩ := (Trace.exec_cons_some _).mp hexec
    exact ih (stuck_step h (hall e (List.mem_cons_self ..)) hstep)
      (fun e' he' => hall e' (List.mem_cons_of_mem _ he')) hexec

theorem not_leavesAll_of_blocking (h : .blocking ∈ s.monitor.procs) : ¬LeavesAll s := by
  rintro ⟨es, s', hall, hexec, hout⟩
  obtain ⟨i, hi⟩ := List.mem_iff_getElem?.mp h
  rcases stuck_exec es (.inl hi) hall hexec with hstuck | hstuck <;>
  · cases hout _ (List.mem_of_getElem? hstuck)

/-- Once `shutdown` has notified, the threads in `acquire` all get out of it by themselves, in every
    state of a run, exactly if it has never notified between the look of one of them at the queue
    and its sleep. -/
theorem leavesAll_iff (stubs threads : Nat) (es : List Event) :
    Trace.Always step (fun s => s.notified = true → LeavesAll s) (start stubs threads) es ↔
      Trace.Meets step NotifiesAwake (start stubs threads) es := by
  refine Trace.always_iff_meets (fun s => Inv stubs s ∧ (s.notified = true → Alert s))
    ?leaves ?good ?bad ⟨inv_start threads, fun hnotified => by cases hnotified⟩ es
  case leaves =>
    intro s h hnotified
    exact leavesAll_of_alert h.1 (h.2 hnotified)
  case good =>
    intro s e s' h hnotifies hstep
    refine ⟨inv_step h.1 hstep, fun hnotified => ?_⟩
    by_cases hold : s.notified = true
    · exact alert_step (h.2 hold) hstep
    · cases step_cases hstep with
      | notifiedAll hstop =>
        exact ⟨hstop, Monitor.not_asleep_notifyAll, fun hmem =>
          hnotifies (mem_notifyAll hmem (by decide))⟩
      | waited _ _ _ _ _ | refused _ _ _ _ | acquired _ _ _ _ _ _ _ | released _ _ _
      | pushed _ _ _ _ _ _ | halted | cleared _ _ => exact absurd hnotified hold
  case bad =>
    intro s e s' h hnot hstep hleaves
    cases e with
    | notifyAll =>
      have hblocking : .blocking ∈ s.monitor.procs := not_not.mp hnot
      obtain ⟨-, hs'⟩ := Option.ite_none_right_eq_some.mp hstep
      obtain rfl := Option.some.inj hs'
      refine not_leavesAll_of_blocking ?_ (hleaves rfl)
      exact List.mem_map.mpr ⟨.blocking, hblocking, rfl⟩
    | wait _ _ | acquire _ | release _ | push _ _ | halt | clear => exact hnot trivial

end StubWaiters

end DistributedIM.ChattingServer
