/-
  The queue of `SyncLogic`: `commit`, the worker's loop `processing` and `shutdown`. The sessions
  commit requests from their own threads; one worker executes them, with the mutex held. The queues
  of the resources server (`SyncLogic`, `RequestHandlerNode` and `FileProcessingNode`) are the same
  code with another limit.

  `executed_append_unexecuted`: whatever the order of steps, each request that was not refused is
  executed once, in the order of the commits. `worker_executes_all`: a worker that has not returned
  executes all of them without any further help; no notification gets lost.

  `shutdown` sets the flag and notifies without the mutex. If it notifies between the worker's
  look at the queue and its sleep, the worker sleeps on and the join never ends; otherwise the
  worker executes what was committed and returns (`joinEnds_iff_notifiesAwake`).

  What a request does is not here, and `execute` lets no exception out. Wake-ups without a
  notification may happen at any time.
-/
import DistributedIM.Lib.Monitor
import DistributedIM.Lib.Trace

namespace DistributedIM.ChattingServer.RequestQueue

/-- Where the worker is in `processing`. -/
inductive Phase
  /-- at the head of the loop or in `m_cv.wait` -/
  | waiting
  /-- behind `if (m_stop)`, with what was found there; the front is executed next -/
  | serving (stopped : Bool)
  /-- the front has been executed and is popped next -/
  | popping (stopped : Bool)
  | returned
  deriving DecidableEq, Repr

/-- The worker is the only thread that waits. -/
structure SyncLogic (τ : Type*) where
  monitor : Monitor τ
  phase : Phase
  /-- the requests that were not refused -/
  accepted : List τ
  executed : List τ
  /-- `shutdown` has notified -/
  notified : Bool

namespace SyncLogic

variable {τ : Type*}

def init : SyncLogic τ where
  monitor := ⟨⟨[], false⟩, [.outside]⟩
  phase := .waiting
  accepted := []
  executed := []
  notified := false

def queue (s : SyncLogic τ) : List τ :=
  s.monitor.shared.queue

/-! ## Steps -/

inductive Event (τ : Type*)
  | commit (request : τ)
  /-- a step of `m_cv.wait`, or the worker takes the mutex at the head of the loop -/
  | wait (e : Monitor.Step)
  /-- `if (m_stop)` -/
  | readStop
  /-- the test of the inner loop and `execute`; with nothing left the worker returns -/
  | execute
  | pop
  /-- `m_stop = true` -/
  | halt
  /-- `m_cv.notify_all()` -/
  | notifyAll

/-- Whom `notify_one` wakes. -/
def sleeper (s : SyncLogic τ) : Option Nat :=
  if .asleep ∈ s.monitor.procs then some 0 else none

/-- A request is refused when the queue is longer than its limit. -/
def commit (queueSize : Nat) (s : SyncLogic τ) (request : τ) : Option (SyncLogic τ) :=
  if s.queue.length > queueSize then
    if s.monitor.Free then some s else none
  else
    (s.monitor.push request s.sleeper).map fun m =>
      { s with monitor := m, accepted := s.accepted ++ [request] }

def wait (s : SyncLogic τ) (e : Monitor.Step) : Option (SyncLogic τ) :=
  if s.phase = .waiting then (s.monitor.wait 0 e).map fun m => { s with monitor := m } else none

def readStop (s : SyncLogic τ) : Option (SyncLogic τ) :=
  if s.phase = .waiting ∧ s.monitor.procs = [.inside] then
    some { s with phase := .serving s.monitor.shared.stop }
  else none

/-- The front of an empty queue is not there to be executed; the worker that has seen `m_stop`
    looks first. -/
def execute (s : SyncLogic τ) : Option (SyncLogic τ) :=
  match s.phase with
  | .serving stopped =>
    match s.queue with
    | request :: _ =>
      some { s with phase := .popping stopped, executed := s.executed ++ [request] }
    | [] =>
      if stopped then
        (s.monitor.leave 0).map fun m => { s with monitor := m, phase := .returned }
      else none
  | _ => none

/-- `m_queue.pop()`; outside the inner loop the mutex is given back. -/
def pop (s : SyncLogic τ) : Option (SyncLogic τ) :=
  match s.phase with
  | .popping true => some { s with monitor := s.monitor.pop, phase := .serving true }
  | .popping false =>
    (s.monitor.leave 0).map fun m => { s with monitor := m.pop, phase := .waiting }
  | _ => none

def step (queueSize : Nat) (s : SyncLogic τ) : Event τ → Option (SyncLogic τ)
  | .commit request => s.commit queueSize request
  | .wait e => s.wait e
  | .readStop => s.readStop
  | .execute => s.execute
  | .pop => s.pop
  | .halt => some { s with monitor := s.monitor.halt }
  | .notifyAll =>
    if s.monitor.shared.stop then some { s with monitor := s.monitor.notifyAll, notified := true }
    else none

/-- What the worker does by itself, without being woken. -/
def Event.isWorkers : Event τ → Bool
  | .wait .rouse => false
  | .wait _ | .readStop | .execute | .pop => true
  | _ => false

/-- The accepted requests that are still to be executed. -/
def unexecuted (s : SyncLogic τ) : List τ :=
  match s.phase with
  | .popping _ => s.queue.tail
  | _ => s.queue

/-! ## What a step does -/

inductive Steps (queueSize : Nat) (s : SyncLogic τ) : Event τ → SyncLogic τ → Prop
  | refused (request : τ) (hfull : queueSize < s.queue.length) (hfree : s.monitor.Free) :
    Steps queueSize s (.commit request) s
  | accepted (request : τ) (m : Monitor τ) (hroom : s.queue.length ≤ queueSize)
      (hpush : s.monitor.push request s.sleeper = some m) :
    Steps queueSize s (.commit request)
      { s with monitor := m, accepted := s.accepted ++ [request] }
  | waited (e : Monitor.Step) (m : Monitor τ) (hphase : s.phase = .waiting)
      (hwait : s.monitor.wait 0 e = some m) :
    Steps queueSize s (.wait e) { s with monitor := m }
  | readStop (hphase : s.phase = .waiting) (hinside : s.monitor.procs = [.inside]) :
    Steps queueSize s .readStop { s with phase := .serving s.monitor.shared.stop }
  | executed (stopped : Bool) (request : τ) (rest : List τ) (hphase : s.phase = .serving stopped)
      (hqueue : s.queue = request :: rest) :
    Steps queueSize s .execute
      { s with phase := .popping stopped, executed := s.executed ++ [request] }
  | returned (m : Monitor τ) (hphase : s.phase = .serving true) (hqueue : s.queue = [])
      (hleave : s.monitor.leave 0 = some m) :
    Steps queueSize s .execute { s with monitor := m, phase := .returned }
  | poppedInner (hphase : s.phase = .popping true) :
    Steps queueSize s .pop { s with monitor := s.monitor.pop, phase := .serving true }
  | poppedOuter (m : Monitor τ) (hphase : s.phase = .popping false)
      (hleave : s.monitor.leave 0 = some m) :
    Steps queueSize s .pop { s with monitor := m.pop, phase := .waiting }
  | halted : Steps queueSize s .halt { s with monitor := s.monitor.halt }
  | notifiedAll (hstop : s.monitor.shared.stop = true) :
    Steps queueSize s .notifyAll { s with monitor := s.monitor.notifyAll, notified := true }

variable {queueSize : Nat} {s s' : SyncLogic τ}

theorem step_cases {e : Event τ} (hstep : s.step queueSize e = some s') :
    Steps queueSize s e s' := by
  cases e with
  | commit request =>
    have hstep : s.commit queueSize request = some s' := hstep
    unfold commit at hstep
    split at hstep
    · rename_i hfull
      obtain ⟨hfree, hs⟩ := Option.ite_none_right_eq_some.mp hstep
      obtain rfl := Option.some.inj hs
      exact .refused request hfull hfree
    · rename_i hroom
      obtain ⟨m, hpush, rfl⟩ := Option.map_eq_some_iff.mp hstep
      exact .accepted request m (Nat.not_lt.mp hroom) hpush
  | wait e =>
    obtain ⟨hphase, hmap⟩ := Option.ite_none_right_eq_some.mp hstep
    obtain ⟨m, hwait, rfl⟩ := Option.map_eq_some_iff.mp hmap
    exact .waited e m hphase hwait
  | readStop =>
    obtain ⟨⟨hphase, hinside⟩, hs'⟩ := Option.ite_none_right_eq_some.mp hstep
    obtain rfl := Option.some.inj hs'
    exact .readStop hphase hinside
  | execute =>
    have hstep : s.execute = some s' := hstep
    unfold execute at hstep
    split at hstep
    · rename_i stopped hphase
      split at hstep
      · rename_i request rest hqueue
        obtain rfl := Option.some.inj hstep
        exact .executed stopped request rest hphase hqueue
      · rename_i hqueue
        obtain ⟨rfl, hmap⟩ := Option.ite_none_right_eq_some.mp hstep
        obtain ⟨m, hleave, rfl⟩ := Option.map_eq_some_iff.mp hmap
        exact .returned m hphase hqueue hleave
    · cases hstep
  | pop =>
    have hstep : s.pop = some s' := hstep
    unfold pop at hstep
    split at hstep
    · rename_i hphase
      obtain rfl := Option.some.inj hstep
      exact .poppedInner hphase
    · rename_i hphase
      obtain ⟨m, hleave, rfl⟩ := Option.map_eq_some_iff.mp hstep
      exact .poppedOuter m hphase hleave
    · cases hstep
  | halt =>
    obtain rfl := Option.some.inj hstep
    exact .halted
  | notifyAll =>
    obtain ⟨hstop, hs'⟩ := Option.ite_none_right_eq_some.mp hstep
    obtain rfl := Option.some.inj hs'
    exact .notifiedAll hstop

/-! ## The invariant -/

/-- Where the worker stands in each phase, and what it has found there. -/
def Stands : Phase → Wait → Buffer τ → Prop
  | .waiting, w, b => w = .inside → b.queue ≠ [] ∨ b.stop = true
  | .serving stopped, w, b => w = .inside ∧ (stopped = false → b.queue ≠ [])
  | .popping _, w, b => w = .inside ∧ b.queue ≠ []
  | .returned, w, _ => w = .outside

structure Inv (queueSize : Nat) (s : SyncLogic τ) : Prop where
  worker : ∃ w, s.monitor.procs = [w] ∧ Stands s.phase w s.monitor.shared
  safe : s.monitor.Safe
  served : s.monitor.Served
  account : s.accepted = s.executed ++ s.unexecuted
  bound : s.queue.length ≤ queueSize + 1

theorem inv_init : Inv queueSize (init : SyncLogic τ) where
  worker := ⟨.outside, rfl, fun h => absurd h (by decide)⟩
  safe := ⟨Nat.zero_le 1, fun h => absurd (List.mem_singleton.mp h) (by decide)⟩
  served := Monitor.served_of_nil rfl
  account := rfl
  bound := Nat.zero_le _

/-- Past the wait the worker has the mutex, until it returns. -/
theorem inside_of_stands {w : Wait} {b : Buffer τ} {phase : Phase} (h : Stands phase w b)
    (hwaiting : phase ≠ .waiting) : w = .inside ∨ phase = .returned := by
  cases phase with
  | waiting => exact absurd rfl hwaiting
  | serving stopped => exact .inl h.1
  | popping stopped => exact .inl h.1
  | returned => exact .inr rfl

theorem free_iff_of_worker {w : Wait} (hw : s.monitor.procs = [w]) :
    s.monitor.Free ↔ w.holdsMutex = false := by
  rw [Monitor.Free, hw]
  simp

/-- While the mutex is free the worker is not in the middle of anything. -/
theorem unexecuted_of_free (h : Inv queueSize s) (hfree : s.monitor.Free) :
    (s.phase = .waiting ∨ s.phase = .returned) ∧ s.unexecuted = s.queue := by
  obtain ⟨w, hw, hstands⟩ := h.worker
  have hphase : s.phase = .waiting ∨ s.phase = .returned := by
    by_cases hwaiting : s.phase = .waiting
    · exact .inl hwaiting
    · refine .inr ((inside_of_stands hstands hwaiting).resolve_left ?_)
      rintro rfl
      exact absurd ((free_iff_of_worker hw).mp hfree) (by decide)
  refine ⟨hphase, ?_⟩
  unfold unexecuted
  rcases hphase with hphase | hphase <;> rw [hphase]

/-- `notify_one` wakes the worker if it is asleep. -/
theorem procs_notifyOne {m m' : Monitor τ} {target : Option Nat} {w : Wait}
    (hw : m.procs = [w]) (hnotify : m.notifyOne target = some m') :
    m'.shared = m.shared ∧ (m'.procs = [w] ∨ w = .asleep ∧ m'.procs = [.woken]) := by
  rcases Monitor.notifyOne_eq_some.mp hnotify with ⟨j, -, hrouse⟩ | ⟨-, -, rfl⟩
  · obtain ⟨hj, rfl⟩ := Monitor.move_eq_some.mp hrouse
    refine ⟨rfl, .inr ?_⟩
    rw [hw] at hj
    cases j with
    | zero =>
      obtain rfl : w = .asleep := Option.some.inj hj
      exact ⟨rfl, by rw [hw]; rfl⟩
    | succ j => cases hj
  · exact ⟨rfl, .inl hw⟩

theorem inv_accepted {request : τ} {m : Monitor τ} (h : Inv queueSize s)
    (hroom : s.queue.length ≤ queueSize) (hpush : s.monitor.push request s.sleeper = some m) :
    Inv queueSize { s with monitor := m, accepted := s.accepted ++ [request] } := by
  obtain ⟨hfree, hnotify⟩ := Monitor.push_eq_some.mp hpush
  obtain ⟨w, hw, hstands⟩ := h.worker
  obtain ⟨hshared, hprocs⟩ := procs_notifyOne (m := s.monitor.put request) hw hnotify
  have hqueue : m.shared.queue = s.queue ++ [request] := by
    rw [hshared]
    rfl
  have hsome : m.shared.queue ≠ [] := by
    rw [hqueue]
    exact List.append_ne_nil_of_right_ne_nil _ (List.cons_ne_nil _ _)
  obtain ⟨hphase, hunexecuted⟩ := unexecuted_of_free h hfree
  refine
    { worker := ?worker, safe := Monitor.Safe.push hpush
      served := Monitor.served_push h.served hpush, account := ?account, bound := ?bound }
  case worker =>
    show ∃ w, m.procs = [w] ∧ Stands s.phase w m.shared
    rcases hphase with hphase | hphase <;> rw [hphase] at hstands ⊢
    · rcases hprocs with hprocs | ⟨-, hprocs⟩ <;> exact ⟨_, hprocs, fun _ => .inl hsome⟩
    · obtain rfl : w = .outside := hstands
      exact ⟨.outside, hprocs.resolve_right fun hwoken => absurd hwoken.1 (by decide), rfl⟩
  case account =>
    have haccount := h.account
    rw [hunexecuted] at haccount
    have hnew : unexecuted { s with monitor := m, accepted := s.accepted ++ [request] } =
        s.queue ++ [request] := by
      unfold unexecuted
      rcases hphase with hphase | hphase <;> rw [hphase] <;> exact hqueue
    rw [hnew, ← List.append_assoc, ← haccount]
  case bound =>
    show m.shared.queue.length ≤ queueSize + 1
    rw [hqueue, List.length_append, List.length_singleton]
    omega

/-- The worker's point after a step of its `wait`; it is past the wait only if it has found
    something. -/
theorem procs_wait {m m' : Monitor τ} {w : Wait} {e : Monitor.Step} (hw : m.procs = [w])
    (hwait : m.wait 0 e = some m') :
    ∃ w', m'.procs = [w'] ∧ (w' = .inside → m.shared.queue ≠ [] ∨ m.shared.stop = true) := by
  have hmove {src dst : Wait} (hmove : m.move 0 src dst = some m') : m'.procs = [dst] := by
    rw [(Monitor.move_eq_some.mp hmove).2, hw]
    rfl
  cases e with
  | test =>
    refine ⟨_, hmove hwait, fun hinside => ?_⟩
    split at hinside
    · cases hinside
    · rename_i hpred
      rw [Bool.and_eq_true, List.isEmpty_iff, Bool.not_eq_true', not_and_or,
        Bool.not_eq_false] at hpred
      exact hpred
  | enter => exact ⟨_, hmove (Monitor.enter_eq_some.mp hwait).2, fun h => absurd h (by decide)⟩
  | block => exact ⟨_, hmove hwait, fun h => absurd h (by decide)⟩
  | rouse => exact ⟨_, hmove hwait, fun h => absurd h (by decide)⟩
  | relock => exact ⟨_, hmove (Monitor.relock_eq_some.mp hwait).2, fun h => absurd h (by decide)⟩

theorem inv_waited {e : Monitor.Step} {m : Monitor τ} (h : Inv queueSize s)
    (hphase : s.phase = .waiting) (hwait : s.monitor.wait 0 e = some m) :
    Inv queueSize { s with monitor := m } := by
  obtain ⟨w, hw, -⟩ := h.worker
  obtain ⟨w', hw', hfound⟩ := procs_wait hw hwait
  have hshared := Monitor.shared_wait hwait
  have hqueue : m.shared.queue = s.queue := congrArg Buffer.queue hshared
  refine
    { worker := ⟨w', hw', ?worker⟩, safe := h.safe.wait hwait
      served := Monitor.served_wait h.safe h.served hwait, account := ?account, bound := ?bound }
  case bound =>
    show m.shared.queue.length ≤ queueSize + 1
    rw [hqueue]
    exact h.bound
  case worker =>
    show Stands s.phase w' m.shared
    rw [hphase, hshared]
    exact hfound
  case account =>
    have haccount := h.account
    unfold unexecuted at haccount ⊢
    rw [hphase] at haccount
    simp only [hphase]
    exact haccount.trans (congrArg (s.executed ++ ·) hqueue.symm)

theorem inv_readStop (h : Inv queueSize s) (hphase : s.phase = .waiting)
    (hinside : s.monitor.procs = [.inside]) :
    Inv queueSize { s with phase := .serving s.monitor.shared.stop } := by
  obtain ⟨w, hw, hstands⟩ := h.worker
  rw [hphase] at hstands
  have haccount := h.account
  unfold unexecuted at haccount
  rw [hphase] at haccount
  refine
    { worker := ⟨.inside, hinside, rfl, fun hstop => ?worker⟩, safe := h.safe, served := h.served
      account := haccount, bound := h.bound }
  have hfound := hstands (List.singleton_inj.mp (hw.symm.trans hinside))
  refine hfound.resolve_right fun hset => ?_
  rw [hstop] at hset
  cases hset

theorem inv_executed {stopped : Bool} {request : τ} {rest : List τ} (h : Inv queueSize s)
    (hphase : s.phase = .serving stopped) (hqueue : s.queue = request :: rest) :
    Inv queueSize { s with phase := .popping stopped, executed := s.executed ++ [request] } := by
  obtain ⟨w, hw, hstands⟩ := h.worker
  rw [hphase] at hstands
  obtain rfl : w = .inside := hstands.1
  have hsome : s.queue ≠ [] := by
    rw [hqueue]
    exact List.cons_ne_nil _ _
  refine
    { worker := ⟨.inside, hw, rfl, hsome⟩, safe := h.safe, served := h.served
      account := ?account, bound := h.bound }
  have haccount := h.account
  unfold unexecuted at haccount
  rw [hphase] at haccount
  show s.accepted = (s.executed ++ [request]) ++ s.queue.tail
  rw [haccount, hqueue, List.tail_cons, List.append_assoc, List.singleton_append]

theorem procs_leave {m m' : Monitor τ} {w : Wait} (hw : m.procs = [w])
    (hleave : m.leave 0 = some m') : m' = ⟨m.shared, [.outside]⟩ := by
  rw [(Monitor.move_eq_some.mp hleave).2, hw]
  rfl

theorem inv_returned {m : Monitor τ} (h : Inv queueSize s) (hphase : s.phase = .serving true)
    (hqueue : s.queue = []) (hleave : s.monitor.leave 0 = some m) :
    Inv queueSize { s with monitor := m, phase := .returned } := by
  obtain ⟨w, hw, -⟩ := h.worker
  have hsafe := h.safe.leave hleave
  obtain rfl := procs_leave hw hleave
  have haccount := h.account
  unfold unexecuted at haccount
  rw [hphase] at haccount
  exact
    { worker := ⟨.outside, rfl, rfl⟩, safe := hsafe, served := Monitor.served_of_nil hqueue
      account := haccount, bound := h.bound }

theorem tail_bound (h : Inv queueSize s) : s.queue.tail.length ≤ queueSize + 1 := by
  rw [List.length_tail]
  exact Nat.le_trans (Nat.sub_le _ 1) h.bound

theorem inv_poppedInner (h : Inv queueSize s) (hphase : s.phase = .popping true) :
    Inv queueSize { s with monitor := s.monitor.pop, phase := .serving true } := by
  obtain ⟨w, hw, hstands⟩ := h.worker
  rw [hphase] at hstands
  obtain rfl : w = .inside := hstands.1
  have hawake : .asleep ∉ s.monitor.procs := by
    rw [hw]
    decide
  have haccount := h.account
  unfold unexecuted at haccount
  rw [hphase] at haccount
  exact
    { worker := ⟨.inside, hw, rfl, fun hstopped => absurd hstopped (by decide)⟩
      safe := h.safe.pop, served := fun hasleep => absurd hasleep hawake
      account := haccount, bound := tail_bound h }

theorem inv_poppedOuter {m : Monitor τ} (h : Inv queueSize s) (hphase : s.phase = .popping false)
    (hleave : s.monitor.leave 0 = some m) :
    Inv queueSize { s with monitor := m.pop, phase := .waiting } := by
  obtain ⟨w, hw, -⟩ := h.worker
  have hsafe := (h.safe.leave hleave).pop
  have hserved := Monitor.served_take h.served hleave
  obtain rfl := procs_leave hw hleave
  have haccount := h.account
  unfold unexecuted at haccount
  rw [hphase] at haccount
  exact
    { worker := ⟨.outside, rfl, fun hinside => absurd hinside (by decide)⟩, safe := hsafe
      served := hserved, account := haccount, bound := tail_bound h }

/-- Everybody notified, a worker that was asleep wants the mutex; any other stays where it is. -/
theorem procs_notifyAll {w : Wait} (hw : s.monitor.procs = [w]) :
    s.monitor.notifyAll.procs = [w.notified] := by
  unfold Monitor.notifyAll
  rw [hw]
  rfl

theorem inv_notifiedAll (h : Inv queueSize s) :
    Inv queueSize { s with monitor := s.monitor.notifyAll, notified := true } := by
  obtain ⟨w, hw, hstands⟩ := h.worker
  refine
    { worker := ⟨w.notified, procs_notifyAll hw, ?worker⟩, safe := h.safe.notifyAll
      served := Monitor.served_notifyAll, account := h.account, bound := h.bound }
  show Stands s.phase w.notified s.monitor.shared
  cases w with
  | asleep =>
    cases hphase : s.phase with
    | waiting => exact fun hinside => absurd hinside (by decide)
    | serving stopped | popping stopped =>
      rw [hphase] at hstands
      cases hstands.1
    | returned =>
      rw [hphase] at hstands
      cases hstands
  | outside | testing | blocking | woken | inside => exact hstands

theorem inv_step {e : Event τ} (h : Inv queueSize s) (hstep : s.step queueSize e = some s') :
    Inv queueSize s' := by
  cases step_cases hstep with
  | refused request hfull hfree => exact h
  | accepted request m hroom hpush => exact inv_accepted h hroom hpush
  | waited e m hphase hwait => exact inv_waited h hphase hwait
  | readStop hphase hinside => exact inv_readStop h hphase hinside
  | executed stopped request rest hphase hqueue => exact inv_executed h hphase hqueue
  | returned m hphase hqueue hleave => exact inv_returned h hphase hqueue hleave
  | poppedInner hphase => exact inv_poppedInner h hphase
  | poppedOuter m hphase hleave => exact inv_poppedOuter h hphase hleave
  | halted =>
    obtain ⟨w, hw, hstands⟩ := h.worker
    refine ⟨⟨w, hw, ?_⟩, h.safe.halt, h.served, h.account, h.bound⟩
    show Stands s.phase w s.monitor.halt.shared
    cases hphase : s.phase with
    | waiting => exact fun _ => .inr rfl
    | serving stopped | popping stopped | returned =>
      rw [hphase] at hstands
      exact hstands
  | notifiedAll hstop => exact inv_notifiedAll h

theorem inv_of_reaches (h : Trace.Reaches (step queueSize) init s) : Inv queueSize s :=
  Trace.invariant (Inv queueSize) (fun _ _ _ => inv_step) inv_init h

/-! ## What has been executed -/

/-- Every request that was not refused is executed once, in the order of the commits, and the queue
    stays within one of its limit. -/
theorem executed_append_unexecuted (h : Trace.Reaches (step queueSize) init s) :
    s.accepted = s.executed ++ s.unexecuted ∧ s.queue.length ≤ queueSize + 1 :=
  ⟨(inv_of_reaches h).account, (inv_of_reaches h).bound⟩

/-- Two requests, one of them executed and not yet popped. -/
def halfway : SyncLogic Nat where
  monitor := ⟨⟨[7, 8], false⟩, [.inside]⟩
  phase := .popping false
  accepted := [7, 8]
  executed := [7]
  notified := false

theorem reaches_halfway : Trace.Reaches (step 1) init halfway :=
  ⟨[.commit 7, .commit 8, .wait .enter, .wait .test, .readStop, .execute], rfl⟩

theorem executed_append_unexecuted_halfway :
    halfway.accepted = halfway.executed ++ halfway.unexecuted ∧ halfway.queue.length ≤ 1 + 1 :=
  executed_append_unexecuted reaches_halfway

/-! ## The worker by itself -/

/-- The worker alone gets to a state where everything accepted is executed, and returns if the flag
    is set. -/
def Finishes (queueSize : Nat) (s : SyncLogic τ) : Prop :=
  ∃ es s', (∀ e ∈ es, e.isWorkers = true) ∧ Trace.exec (step queueSize) s es = some s' ∧
    s'.executed = s.accepted ∧ (s.monitor.shared.stop = true → s'.phase = .returned)

theorem finishes_step {m : SyncLogic τ} {e : Event τ} (hworkers : e.isWorkers = true)
    (hstep : s.step queueSize e = some m) (haccepted : m.accepted = s.accepted)
    (hstop : m.monitor.shared.stop = s.monitor.shared.stop) (h : Finishes queueSize m) :
    Finishes queueSize s := by
  obtain ⟨es, s', hall, hexec, hexecuted, hreturned⟩ := h
  refine ⟨e :: es, s', ?_, (Trace.exec_cons_some _).mpr ⟨m, hstep, hexec⟩,
    hexecuted.trans haccepted, fun hset => hreturned (hstop.trans hset)⟩
  intro e' he'
  rcases List.mem_cons.mp he' with rfl | he'
  · exact hworkers
  · exact hall e' he'

/-- A step of the `wait` on the way to the queue. -/
theorem finishes_wait {m : Monitor τ} {e : Monitor.Step} (hphase : s.phase = .waiting)
    (hworkers : (Event.wait e : Event τ).isWorkers = true) (hwait : s.monitor.wait 0 e = some m)
    (h : Finishes queueSize { s with monitor := m }) : Finishes queueSize s := by
  refine finishes_step (m := { s with monitor := m }) hworkers ?_ rfl
    (congrArg Buffer.stop (Monitor.shared_wait hwait)) h
  show s.wait e = _
  rw [wait, if_pos hphase, hwait]
  rfl

theorem move_of_procs {m : Monitor τ} {src dst : Wait} (hprocs : m.procs = [src]) :
    m.move 0 src dst = some ⟨m.shared, [dst]⟩ := by
  rw [Monitor.move_eq_some, hprocs]
  exact ⟨rfl, rfl⟩

/-- The worker has found something and is past the wait. -/
theorem finishes_inside (hphase : s.phase = .waiting) (hprocs : s.monitor.procs = [.inside])
    (h : Finishes queueSize { s with phase := .serving s.monitor.shared.stop }) :
    Finishes queueSize s :=
  finishes_step (e := .readStop) rfl (if_pos ⟨hphase, hprocs⟩) rfl rfl h

/-- Past the wait, with what was found in `m_stop`. -/
def served (s : SyncLogic τ) : SyncLogic τ :=
  { s with
    monitor := ⟨s.monitor.shared, [.inside]⟩
    phase := .serving s.monitor.shared.stop }

theorem inv_served (h : Inv queueSize s) (hphase : s.phase = .waiting)
    (hfinds : s.queue ≠ [] ∨ s.monitor.shared.stop = true) : Inv queueSize s.served where
  worker := by
    refine ⟨.inside, rfl, rfl, fun hstop => hfinds.resolve_right fun hset => ?_⟩
    rw [hstop] at hset
    cases hset
  safe := ⟨Nat.le_refl 1, fun hb => absurd (List.mem_singleton.mp hb) (by decide)⟩
  served := fun hasleep => absurd (List.mem_singleton.mp hasleep) (by decide)
  account := by
    have haccount := h.account
    unfold unexecuted at haccount
    rw [hphase] at haccount
    exact haccount
  bound := h.bound

/-- The worker looks and finds something. -/
theorem finishes_testing (hphase : s.phase = .waiting) (hprocs : s.monitor.procs = [.testing])
    (hfinds : s.queue ≠ [] ∨ s.monitor.shared.stop = true) (h : Finishes queueSize s.served) :
    Finishes queueSize s := by
  have hpred : ¬(s.monitor.shared.queue.isEmpty && !s.monitor.shared.stop) = true := by
    rw [Bool.and_eq_true, List.isEmpty_iff, Bool.not_eq_true', not_and_or, Bool.not_eq_false]
    exact hfinds
  have htest : s.monitor.test 0 = some ⟨s.monitor.shared, [.inside]⟩ := by
    rw [Monitor.test, if_neg hpred]
    exact move_of_procs hprocs
  exact finishes_wait (e := .test) hphase rfl htest (finishes_inside hphase rfl h)

/-- A worker that is neither asleep nor about to be gets past the wait. -/
theorem finishes_waiting (h : Inv queueSize s) (hphase : s.phase = .waiting)
    (hasleep : s.monitor.procs ≠ [.asleep]) (hblocking : s.monitor.procs ≠ [.blocking])
    (hfinds : s.queue ≠ [] ∨ s.monitor.shared.stop = true) (hserved : Finishes queueSize s.served) :
    Finishes queueSize s := by
  obtain ⟨w, hw, -⟩ := h.worker
  have hlock : ∀ src, w = src → src.holdsMutex = false →
      (if s.monitor.Free then s.monitor.move 0 src .testing else none) =
        some ⟨s.monitor.shared, [.testing]⟩ := by
    intro src hsrc hmutex
    subst hsrc
    rw [if_pos ((free_iff_of_worker hw).mpr hmutex)]
    exact move_of_procs hw
  cases w with
  | outside =>
    refine finishes_wait (e := .enter) hphase rfl (hlock .outside rfl rfl) ?_
    exact finishes_testing hphase rfl hfinds hserved
  | woken =>
    refine finishes_wait (e := .relock) hphase rfl (hlock .woken rfl rfl) ?_
    exact finishes_testing hphase rfl hfinds hserved
  | testing => exact finishes_testing hphase hw hfinds hserved
  | inside =>
    have hmonitor : s.monitor = ⟨s.monitor.shared, [.inside]⟩ := by rw [← hw]
    refine finishes_inside hphase hw ?_
    unfold served at hserved
    rwa [← hmonitor] at hserved
  | blocking => exact absurd hw hblocking
  | asleep => exact absurd hw hasleep

theorem executed_eq_accepted (h : Inv queueSize s) (hnil : s.unexecuted = []) :
    s.executed = s.accepted := by
  rw [h.account, hnil, List.append_nil]

/-- With nothing left the inner loop ends and the worker returns. -/
theorem finishes_nil {stopped : Bool} (h : Inv queueSize s) (hnil : s.queue = [])
    (hphase : s.phase = .serving stopped) : Finishes queueSize s := by
  obtain ⟨w, hw, hstands⟩ := h.worker
  rw [hphase] at hstands
  obtain ⟨rfl, hfound⟩ := hstands
  have hstopped : stopped = true := by
    cases stopped with
    | true => rfl
    | false => exact absurd hnil (hfound rfl)
  subst hstopped
  have hexecute : s.execute = some { s with
      monitor := ⟨s.monitor.shared, [.outside]⟩, phase := .returned } := by
    unfold execute
    simp only [hphase, hnil, if_true]
    rw [Monitor.leave, move_of_procs hw]
    rfl
  have hunexecuted : s.unexecuted = [] := by
    unfold unexecuted
    rw [hphase]
    exact hnil
  have hexecuted : s.executed = s.accepted := executed_eq_accepted h hunexecuted
  refine finishes_step (e := .execute) rfl hexecute rfl rfl ?_
  exact ⟨[], _, by simp, rfl, hexecuted, fun _ => rfl⟩

/-- The worker comes to the queue from the head of the loop. -/
theorem finishes_of_waiting {n : Nat}
    (hserving : ∀ {s : SyncLogic τ} {stopped : Bool}, Inv queueSize s → s.queue.length ≤ n →
      s.phase = .serving stopped → Finishes queueSize s)
    (h : Inv queueSize s) (hphase : s.phase = .waiting) (hasleep : s.monitor.procs ≠ [.asleep])
    (hblocking : s.monitor.procs ≠ [.blocking]) (hlength : s.queue.length ≤ n) :
    Finishes queueSize s := by
  by_cases hfinds : s.queue ≠ [] ∨ s.monitor.shared.stop = true
  · exact finishes_waiting h hphase hasleep hblocking hfinds
      (hserving (inv_served h hphase hfinds) hlength rfl)
  · rw [not_or, not_not] at hfinds
    have hunexecuted : s.unexecuted = [] := by
      unfold unexecuted
      rw [hphase]
      exact hfinds.1
    exact ⟨[], s, by simp, rfl, executed_eq_accepted h hunexecuted, fun hset =>
      absurd hset hfinds.2⟩

/-- The front is popped; what is left is served by the inner loop or around the outer one. -/
theorem finishes_popping {n : Nat}
    (hserving : ∀ {s : SyncLogic τ} {stopped : Bool}, Inv queueSize s → s.queue.length ≤ n →
      s.phase = .serving stopped → Finishes queueSize s)
    {stopped : Bool} (h : Inv queueSize s) (hphase : s.phase = .popping stopped)
    (hlength : s.queue.tail.length ≤ n) : Finishes queueSize s := by
  obtain ⟨w, hw, hstands⟩ := h.worker
  rw [hphase] at hstands
  obtain rfl : w = .inside := hstands.1
  cases stopped with
  | true =>
    have hpop : s.pop = some { s with monitor := s.monitor.pop, phase := .serving true } := by
      unfold pop
      rw [hphase]
    exact finishes_step (e := .pop) rfl hpop rfl rfl
      (hserving (inv_poppedInner h hphase) hlength rfl)
  | false =>
    have hleave : s.monitor.leave 0 = some ⟨s.monitor.shared, [.outside]⟩ := move_of_procs hw
    have hpop : s.pop = some { s with
        monitor := Monitor.pop ⟨s.monitor.shared, [.outside]⟩, phase := .waiting } := by
      unfold pop
      rw [hphase]
      dsimp only
      rw [hleave]
      rfl
    refine finishes_step (e := .pop) rfl hpop rfl rfl ?_
    refine finishes_of_waiting hserving (inv_poppedOuter h hphase hleave) rfl ?_ ?_ hlength
    · intro hasleep
      cases hasleep
    · intro hblocking
      cases hblocking

/-- Induction on how much is left. -/
theorem finishes_serving (n : Nat) : ∀ {s : SyncLogic τ} {stopped : Bool}, Inv queueSize s →
    s.queue.length ≤ n → s.phase = .serving stopped → Finishes queueSize s := by
  induction n with
  | zero =>
    intro s stopped h hlength hphase
    exact finishes_nil h (List.eq_nil_of_length_eq_zero (Nat.le_zero.mp hlength)) hphase
  | succ n ih =>
    intro s stopped h hlength hphase
    cases hqueue : s.queue with
    | nil => exact finishes_nil h hqueue hphase
    | cons request rest =>
      have hexecute : s.execute = some { s with
          phase := .popping stopped, executed := s.executed ++ [request] } := by
        unfold execute
        simp only [hphase, hqueue]
      refine finishes_step (e := .execute) rfl hexecute rfl rfl ?_
      refine finishes_popping ih (inv_executed h hphase hqueue) rfl ?_
      show s.queue.tail.length ≤ n
      rw [List.length_tail]
      omega

theorem finishes_of_awake (h : Inv queueSize s) (hreturned : s.phase ≠ .returned)
    (hasleep : s.monitor.procs ≠ [.asleep]) (hblocking : s.monitor.procs ≠ [.blocking]) :
    Finishes queueSize s := by
  cases hphase : s.phase with
  | waiting =>
    exact finishes_of_waiting (n := s.queue.length) (finishes_serving _) h hphase hasleep hblocking
      (Nat.le_refl _)
  | serving stopped => exact finishes_serving _ h (Nat.le_refl _) hphase
  | popping stopped =>
    exact finishes_popping (n := s.queue.tail.length) (finishes_serving _) h hphase (Nat.le_refl _)
  | returned => exact absurd hphase hreturned

/-- A worker that sleeps, or is about to, has nothing left to do. -/
theorem unexecuted_of_asleep (h : Inv queueSize s)
    (hasleep : s.monitor.procs = [.asleep] ∨ s.monitor.procs = [.blocking]) :
    s.unexecuted = [] := by
  have hnil : s.queue = [] := by
    rcases hasleep with hw | hw
    · refine Monitor.queue_eq_nil_of_idle h.served ?_ ?_
      · rw [hw]
        exact List.mem_singleton_self _
      · rw [hw]
        simp [Wait.awake]
    · refine h.safe.blocking ?_
      rw [hw]
      exact List.mem_singleton_self _
  unfold unexecuted
  split
  · rw [hnil, List.tail_nil]
  · exact hnil

/-- From any state a worker that has not returned gets by itself, without being woken, to a state
    where it has executed everything accepted so far. -/
theorem worker_executes_all (h : Trace.Reaches (step queueSize) init s)
    (hreturned : s.phase ≠ .returned) :
    ∃ es s', (∀ e ∈ es, e.isWorkers = true) ∧ Trace.exec (step queueSize) s es = some s' ∧
      s'.executed = s.accepted := by
  have hinv := inv_of_reaches h
  by_cases hasleep : s.monitor.procs = [.asleep] ∨ s.monitor.procs = [.blocking]
  · exact ⟨[], s, by simp, rfl, executed_eq_accepted hinv (unexecuted_of_asleep hinv hasleep)⟩
  · rw [not_or] at hasleep
    obtain ⟨es, s', hall, hexec, hexecuted, -⟩ :=
      finishes_of_awake hinv hreturned hasleep.1 hasleep.2
    exact ⟨es, s', hall, hexec, hexecuted⟩

theorem worker_executes_all_halfway :
    ∃ es s', (∀ e ∈ es, e.isWorkers = true) ∧ Trace.exec (step 1) halfway es = some s' ∧
      s'.executed = [7, 8] :=
  worker_executes_all reaches_halfway (by decide)

/-! ## Shutdown -/

/-- The join ends: the worker gets to its return by itself, and has then executed whatever was
    accepted while it was still running. -/
def JoinEnds (queueSize : Nat) (s : SyncLogic τ) : Prop :=
  ∃ es s', (∀ e ∈ es, e.isWorkers = true) ∧ Trace.exec (step queueSize) s es = some s' ∧
    s'.phase = .returned ∧ (s.phase ≠ .returned → s'.executed = s.accepted)

/-- The worker does not sleep, and is not about to. -/
def Awake (s : SyncLogic τ) : Prop :=
  s.monitor.procs ≠ [.asleep] ∧ s.monitor.procs ≠ [.blocking]

theorem awake_of_outside (hw : s.monitor.procs = [.outside]) : s.Awake := by
  unfold Awake
  rw [hw]
  decide

/-- `shutdown` does not notify between the worker's look at the queue and its sleep. -/
def NotifiesAwake (s : SyncLogic τ) : Event τ → Prop
  | .notifyAll => s.monitor.procs ≠ [.blocking]
  | _ => True

theorem waiting_of_not_awake (h : Inv queueSize s) (hawake : ¬s.Awake) : s.phase = .waiting := by
  obtain ⟨w, hw, hstands⟩ := h.worker
  unfold Awake at hawake
  rw [hw] at hawake
  by_contra hwaiting
  rcases inside_of_stands hstands hwaiting with rfl | hreturned
  · exact hawake (by decide)
  · rw [hreturned] at hstands
    obtain rfl : w = .outside := hstands
    exact hawake (by decide)

/-- Asleep, the worker does nothing by itself. -/
theorem step_of_asleep (h : Inv queueSize s) (hw : s.monitor.procs = [.asleep]) {e : Event τ}
    (he : e.isWorkers = true) : s.step queueSize e = none := by
  have hphase : s.phase = .waiting := waiting_of_not_awake h fun hawake => hawake.1 hw
  have hmove : ∀ src dst, src ≠ .asleep → s.monitor.move 0 src dst = none := by
    intro src dst hne
    unfold Monitor.move
    rw [hw]
    exact if_neg fun heq => hne (Option.some.inj heq).symm
  cases e with
  | wait e =>
    have hwait : s.monitor.wait 0 e = none := by
      cases e with
      | enter => simp [Monitor.wait, Monitor.enter, hmove]
      | test => exact hmove _ _ (by decide)
      | block => exact hmove _ _ (by decide)
      | rouse => cases he
      | relock => simp [Monitor.wait, Monitor.relock, hmove]
    show s.wait e = none
    rw [wait, if_pos hphase, hwait]
    rfl
  | readStop =>
    show s.readStop = none
    rw [readStop, hw]
    exact if_neg fun hinside => absurd hinside.2 (by decide)
  | execute =>
    show s.execute = none
    unfold execute
    rw [hphase]
  | pop =>
    show s.pop = none
    unfold pop
    rw [hphase]
  | commit _ | halt | notifyAll => cases he

theorem not_joinEnds_of_asleep (h : Inv queueSize s) (hw : s.monitor.procs = [.asleep]) :
    ¬JoinEnds queueSize s := by
  rintro ⟨es, s', hall, hexec, hreturned, -⟩
  cases es with
  | nil =>
    obtain rfl : s = s' := Option.some.inj hexec
    have hwaiting := waiting_of_not_awake h fun hawake => hawake.1 hw
    rw [hwaiting] at hreturned
    cases hreturned
  | cons e es =>
    obtain ⟨m, hstep, -⟩ := (Trace.exec_cons_some _).mp hexec
    rw [step_of_asleep h hw (hall e (List.mem_cons_self ..))] at hstep
    cases hstep

/-- About to sleep, the worker can do nothing else. -/
theorem asleep_of_blocking (h : Inv queueSize s) (hw : s.monitor.procs = [.blocking])
    {e : Event τ} (he : e.isWorkers = true) (hstep : s.step queueSize e = some s') :
    s'.monitor.procs = [.asleep] ∧ s'.phase = s.phase ∧ s'.accepted = s.accepted := by
  have hphase : s.phase = .waiting := waiting_of_not_awake h fun hawake => hawake.2 hw
  have hsrc {src dst : Wait} {m : Monitor τ} (hmove : s.monitor.move 0 src dst = some m) :
      src = .blocking ∧ m.procs = [dst] := by
    obtain ⟨hsrc, rfl⟩ := Monitor.move_eq_some.mp hmove
    rw [hw] at hsrc ⊢
    exact ⟨(Option.some.inj hsrc).symm, rfl⟩
  cases step_cases hstep with
  | waited e m _ hwait =>
    refine ⟨?_, rfl, rfl⟩
    show m.procs = [.asleep]
    cases e with
    | block => exact (hsrc hwait).2
    | enter => cases (hsrc (Monitor.enter_eq_some.mp hwait).2).1
    | test => cases (hsrc hwait).1
    | rouse => cases he
    | relock => cases (hsrc (Monitor.relock_eq_some.mp hwait).2).1
  | readStop _ hinside =>
    rw [hw] at hinside
    cases hinside
  | executed stopped request rest hserving _ => cases hphase.symm.trans hserving
  | returned m hserving _ _ => cases hphase.symm.trans hserving
  | poppedInner hpopping => cases hphase.symm.trans hpopping
  | poppedOuter m hpopping _ => cases hphase.symm.trans hpopping
  | refused _ _ _ | accepted _ _ _ _ | halted | notifiedAll _ => cases he

theorem not_joinEnds_of_blocking (h : Inv queueSize s) (hw : s.monitor.procs = [.blocking]) :
    ¬JoinEnds queueSize s := by
  rintro ⟨es, s', hall, hexec, hreturned, hexecuted⟩
  have hwaiting := waiting_of_not_awake h fun hawake => hawake.2 hw
  cases es with
  | nil =>
    obtain rfl : s = s' := Option.some.inj hexec
    rw [hwaiting] at hreturned
    cases hreturned
  | cons e es =>
    obtain ⟨m, hstep, hexec⟩ := (Trace.exec_cons_some _).mp hexec
    obtain ⟨hasleep, hphase, haccepted⟩ :=
      asleep_of_blocking h hw (hall e (List.mem_cons_self ..)) hstep
    refine not_joinEnds_of_asleep (inv_step h hstep) hasleep
      ⟨es, s', fun e' he' => hall e' (List.mem_cons_of_mem _ he'), hexec, hreturned, ?_⟩
    rw [hphase, haccepted]
    exact hexecuted

theorem joinEnds_of_awake (h : Inv queueSize s) (hstop : s.monitor.shared.stop = true)
    (hawake : s.Awake) : JoinEnds queueSize s := by
  by_cases hreturned : s.phase = .returned
  · exact ⟨[], s, by simp, rfl, hreturned, fun hne => absurd hreturned hne⟩
  · obtain ⟨es, s', hall, hexec, hexecuted, hends⟩ :=
      finishes_of_awake h hreturned hawake.1 hawake.2
    exact ⟨es, s', hall, hexec, hends hstop, fun _ => hexecuted⟩

/-- With the flag set the worker finds the predicate true, and does not go back to sleep. -/
theorem awake_wait {m : Monitor τ} {e : Monitor.Step} (h : Inv queueSize s)
    (hstop : s.monitor.shared.stop = true) (hawake : s.Awake)
    (hwait : s.monitor.wait 0 e = some m) : Awake { s with monitor := m } := by
  obtain ⟨w, hw, -⟩ := h.worker
  show m.procs ≠ [.asleep] ∧ m.procs ≠ [.blocking]
  cases e with
  | enter =>
    obtain ⟨-, rfl⟩ := Monitor.move_eq_some.mp (Monitor.enter_eq_some.mp hwait).2
    simp [hw]
  | test =>
    obtain ⟨-, rfl⟩ := Monitor.move_eq_some.mp hwait
    simp [hw, hstop]
  | block =>
    obtain ⟨hsrc, -⟩ := Monitor.move_eq_some.mp hwait
    rw [hw] at hsrc
    obtain rfl : w = .blocking := Option.some.inj hsrc
    exact absurd hw hawake.2
  | rouse =>
    obtain ⟨-, rfl⟩ := Monitor.move_eq_some.mp hwait
    simp [hw]
  | relock =>
    obtain ⟨-, rfl⟩ := Monitor.move_eq_some.mp (Monitor.relock_eq_some.mp hwait).2
    simp [hw]

theorem awake_notifyAll {w : Wait} (hw : s.monitor.procs = [w])
    (hblocking : s.monitor.procs ≠ [.blocking]) :
    Awake { s with monitor := s.monitor.notifyAll, notified := true } := by
  show s.monitor.notifyAll.procs ≠ [.asleep] ∧ s.monitor.notifyAll.procs ≠ [.blocking]
  rw [procs_notifyAll hw]
  rw [hw] at hblocking
  revert hblocking
  cases w <;> decide

theorem awake_step {e : Event τ} (h : Inv queueSize s) (hstop : s.monitor.shared.stop = true)
    (hawake : s.Awake) (hstep : s.step queueSize e = some s') :
    s'.monitor.shared.stop = true ∧ s'.Awake := by
  obtain ⟨w, hw, -⟩ := h.worker
  cases step_cases hstep with
  | refused request _ _ => exact ⟨hstop, hawake⟩
  | accepted request m _ hpush =>
    obtain ⟨-, hnotify⟩ := Monitor.push_eq_some.mp hpush
    obtain ⟨hshared, hprocs⟩ := procs_notifyOne (m := s.monitor.put request) hw hnotify
    refine ⟨(congrArg Buffer.stop hshared).trans hstop, ?_⟩
    show m.procs ≠ [.asleep] ∧ m.procs ≠ [.blocking]
    rcases hprocs with hprocs | ⟨-, hprocs⟩
    · rw [hprocs, ← hw]
      exact hawake
    · rw [hprocs]
      decide
  | waited e m _ hwait =>
    exact ⟨(congrArg Buffer.stop (Monitor.shared_wait hwait)).trans hstop,
      awake_wait h hstop hawake hwait⟩
  | readStop _ _ => exact ⟨hstop, hawake⟩
  | executed stopped request rest _ _ => exact ⟨hstop, hawake⟩
  | returned m _ _ hleave =>
    obtain rfl := procs_leave hw hleave
    exact ⟨hstop, awake_of_outside rfl⟩
  | poppedInner _ => exact ⟨hstop, hawake⟩
  | poppedOuter m _ hleave =>
    obtain rfl := procs_leave hw hleave
    exact ⟨hstop, awake_of_outside rfl⟩
  | halted => exact ⟨rfl, hawake⟩
  | notifiedAll _ => exact ⟨hstop, awake_notifyAll hw hawake.2⟩

/-- Once `shutdown` has notified, the flag is set and the worker awake. -/
structure Notified (queueSize : Nat) (s : SyncLogic τ) : Prop where
  inv : Inv queueSize s
  awake : s.notified = true → s.monitor.shared.stop = true ∧ s.Awake

theorem notified_step {e : Event τ} (h : Notified queueSize s) (hnotifies : NotifiesAwake s e)
    (hstep : s.step queueSize e = some s') : Notified queueSize s' := by
  refine ⟨inv_step h.inv hstep, fun hnotified => ?_⟩
  by_cases hold : s.notified = true
  · obtain ⟨hstop, hawake⟩ := h.awake hold
    exact awake_step h.inv hstop hawake hstep
  · cases step_cases hstep with
    | notifiedAll hstop =>
      obtain ⟨w, hw, -⟩ := h.inv.worker
      exact ⟨hstop, awake_notifyAll hw hnotifies⟩
    | refused _ _ _ | accepted _ _ _ _ | waited _ _ _ _ | readStop _ _ | executed _ _ _ _ _
    | returned _ _ _ _ | poppedInner _ | poppedOuter _ _ _ | halted =>
      exact absurd hnotified hold

/-- Once `shutdown` has notified, its join ends in every state of a run, with everything accepted by
    then executed, exactly if it has never notified between the worker's look and its sleep. -/
theorem joinEnds_iff_notifiesAwake (es : List (Event τ)) :
    Trace.Always (step queueSize) (fun s => s.notified = true → JoinEnds queueSize s) init es ↔
      Trace.Meets (step queueSize) NotifiesAwake init es := by
  refine Trace.always_iff_meets (Notified queueSize) ?joins ?good ?bad ⟨inv_init, ?start⟩ es
  case joins =>
    intro s h hnotified
    obtain ⟨hstop, hawake⟩ := h.awake hnotified
    exact joinEnds_of_awake h.inv hstop hawake
  case good =>
    intro s e s' h hnotifies hstep
    exact notified_step h hnotifies hstep
  case bad =>
    intro s e s' h hnot hstep hends
    cases e with
    | notifyAll =>
      have hw : s.monitor.procs = [.blocking] := not_not.mp hnot
      have hinv := inv_step h.inv hstep
      obtain ⟨-, hs'⟩ := Option.ite_none_right_eq_some.mp hstep
      obtain rfl := Option.some.inj hs'
      refine not_joinEnds_of_blocking hinv ?_ (hends rfl)
      show s.monitor.procs.map Wait.notified = [.blocking]
      rw [hw]
      rfl
    | commit _ | wait _ | readStop | execute | pop | halt => exact hnot trivial
  case start =>
    intro hnotified
    cases hnotified

end SyncLogic

end DistributedIM.ChattingServer.RequestQueue
