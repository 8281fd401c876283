/-
  The write pump of a `Session`: any number of `sendMessage` calls and the `handle_write` calls of
  the writes, on a session that nobody terminates and whose writes all succeed.

  A call that finds the queue empty clears `m_write_in_progress` one step later. A message pushed
  in between, whose compare-exchange is refused before the flag is cleared, is left to nobody.
  `drained_iff`: a session at rest has an empty queue exactly if that did not happen to its last
  messages.
-/
import DistributedIM.ChattingServer.OneWriter

namespace DistributedIM.ChattingServer

namespace Session

variable {α : Type}

/-- What happens on a session without a mark and without a failed write. -/
inductive PumpEvent (α : Type)
  | sendMessage (m : α)
  | run (i : Nat)
  | written (j : Nat)
  deriving DecidableEq, Repr

def PumpEvent.toSessionEvent : PumpEvent α → SessionEvent α
  | .sendMessage m => .sendMessage m
  | .run i => .run i
  | .written j => .written j

def pump (s : Session α) (e : PumpEvent α) : Option (Session α) :=
  step s e.toSessionEvent

/-- No call is executing and no `async_write` is outstanding. -/
structure Quiet (s : Session α) : Prop where
  notWriting : s.shared.writing = []
  returned : ∀ pc ∈ s.procs, pc = .returned

/-- Nothing waits for a later message. -/
structure Drained (o : Outbox α) : Prop where
  emptyQueue : o.concurrentSentQueue = []
  notInProgress : o.writeInProgress = false

/-! ## The call that comes too early -/

def atCompareExchange : Pc α → Bool
  | .compareExchange => true
  | _ => false

def atRelease : Pc α → Bool
  | .release => true
  | _ => false

/-- The call goes on to pop or to write. -/
def serves : Pc α → Bool
  | .tryPop => true
  | .checkDeferredTermination => true
  | .asyncWrite => true
  | _ => false

/-- A message is queued, a call has found the queue empty and not yet cleared the flag, and only
    one call is about to compare-exchange. -/
def stranding (s : Session α) : Bool :=
  !s.shared.concurrentSentQueue.isEmpty && decide (0 < s.count atRelease) &&
    decide (s.count atCompareExchange = 1)

/-- The history of the last compare-exchange: it came in such a state, and nothing has been sent
    since. -/
def noteRefusal (stranded : Bool) (s : Session α) : PumpEvent α → Bool
  | .sendMessage _ => false
  | .run i => if s.procs[i]?.any atCompareExchange then s.stranding else stranded
  | .written _ => stranded

/-- The last compare-exchange of the run came between a failed `try_pop` and the store that clears
    the flag, on a queue that was not empty, and nothing was sent after it. -/
def lastStranded (es : List (PumpEvent α)) : Bool :=
  Trace.history pump noteRefusal false init es

/-! ## The invariant -/

/-- Who will pop the queued messages, for the numbers of calls that serve, that are about to
    release and that are about to compare-exchange. -/
structure Pumped (o : Outbox α) (servers releases arrivals : Nat) (stranded : Bool) : Prop where
  alive : o.state = .alive
  flag : o.writeInProgress = true → 1 ≤ servers + releases + o.writing.length
  stuck : stranded = true →
    o.concurrentSentQueue ≠ [] ∧ servers + o.writing.length + arrivals = 0
  served : stranded = false → o.concurrentSentQueue ≠ [] →
    0 < servers + o.writing.length + arrivals

theorem count_owns (s : Session α) : s.count owns = s.count serves + s.count atRelease := by
  unfold Pool.count
  induction s.procs with
  | nil => rfl
  | cons pc procs ih =>
    simp only [List.countP_cons, ih]
    cases pc <;> simp [owns, serves, atRelease] <;> omega

/-- A refused compare-exchange. The flag says that some call or write has the write side; if a
    call that is about to release has it, nobody serves. -/
theorem pumped_refused {o : Outbox α} {v l a a' k : Nat} {stranded : Bool}
    (h : Pumped o v l a stranded) (hsingle : Single o (v + l) k)
    (hflag : o.writeInProgress = true) (ha : a' + 1 = a) :
    Pumped o v l a' (!o.concurrentSentQueue.isEmpty && decide (0 < l) && decide (a = 1)) where
  alive := h.alive
  flag := h.flag
  stuck hstranded := by
    simp only [Bool.and_eq_true, Bool.not_eq_true', decide_eq_true_eq,
      List.isEmpty_eq_false_iff] at hstranded
    obtain ⟨⟨hqueue, hl⟩, hone⟩ := hstranded
    have hsole := hsingle.one
    exact ⟨hqueue, by omega⟩
  served hspared hqueue := by
    have hsomebody := h.flag hflag
    simp only [List.isEmpty_eq_false_iff.mpr hqueue, Bool.not_false, Bool.true_and,
      Bool.and_eq_false_iff, decide_eq_false_iff_not] at hspared
    omega

/-- A step of a call that serves: the messages in the queue had somebody, and still have. -/
theorem pumped_serve {o o' : Outbox α} {v l a v' l' a' : Nat} {stranded : Bool}
    (h : Pumped o v l a stranded) (hv : 1 ≤ v) (halive : o'.state = .alive)
    (hflag : 1 ≤ v' + l' + o'.writing.length)
    (hserved : o'.concurrentSentQueue ≠ [] → 0 < v' + o'.writing.length + a') :
    Pumped o' v' l' a' stranded where
  alive := halive
  flag _ := hflag
  stuck hstranded := by
    have hnobody := (h.stuck hstranded).2
    omega
  served _ := hserved

theorem queue_empty_of_release {o : Outbox α} {r : Outbox α × Pc α}
    (hadvance : o.advance .tryPop = some r) (hrelease : r.2 = .release) :
    o.concurrentSentQueue = [] := by
  simp only [Outbox.advance] at hadvance
  split at hadvance
  · assumption
  · obtain rfl := Option.some.inj hadvance
    cases hrelease

/-- A step of a call, by the point it starts from. -/
theorem pumped_advance {o : Outbox α} {pc : Pc α} {r : Outbox α × Pc α}
    {v l a v' l' a' k : Nat} {stranded : Bool} (h : Pumped o v l a stranded)
    (hsingle : Single o (v + l) k) (hadvance : o.advance pc = some r)
    (hserves : (serves pc).toNat ≤ v)
    (hv : v' + (serves pc).toNat = v + (serves r.2).toNat)
    (hl : l' + (atRelease pc).toNat = l + (atRelease r.2).toNat)
    (ha : a' + (atCompareExchange pc).toNat = a + (atCompareExchange r.2).toNat) :
    Pumped r.1 v' l' a'
      (if atCompareExchange pc then
        !o.concurrentSentQueue.isEmpty && decide (0 < l) && decide (a = 1) else stranded) := by
  cases Outbox.advances hadvance with
  | refused =>
    obtain rfl : v' = v := by simpa [serves] using hv
    obtain rfl : l' = l := by simpa [atRelease] using hl
    have hflag : o.writeInProgress = true := by
      cases hfree : o.writeInProgress with
      | true => rfl
      | false => simp [Outbox.advance, hfree] at hadvance
    exact pumped_refused h hsingle hflag (by simpa [atCompareExchange] using ha)
  | entered hfree =>
    have hnone := hsingle.flag hfree
    obtain rfl : l = 0 := by omega
    obtain rfl : v' = v + 1 := by simpa [serves] using hv
    obtain rfl : l' = 0 := by simpa [atRelease] using hl
    simp only [atCompareExchange, if_true, Nat.lt_irrefl, decide_false, Bool.and_false,
      Bool.false_and]
    exact ⟨h.alive, fun _ => by omega, fun h => absurd h Bool.false_ne_true, fun _ _ => by omega⟩
  | drained =>
    have hqueue := queue_empty_of_release hadvance rfl
    obtain rfl : l' = l + 1 := by simpa [atRelease] using hl
    exact pumped_serve h hserves h.alive (by omega) fun hne => absurd hqueue hne
  | popped hqueue =>
    obtain rfl : v' = v := by simpa [serves] using hv
    have hpos : 1 ≤ v' := hserves
    exact pumped_serve h hserves h.alive (by omega) fun _ => by omega
  | terminated hfires =>
    rw [h.alive] at hfires
    cases hfires
  | passed =>
    obtain rfl : v' = v := by simpa [serves] using hv
    have hpos : 1 ≤ v' := hserves
    exact pumped_serve h hserves h.alive (by omega) fun _ => by omega
  | handedOn hm =>
    refine pumped_serve h hserves h.alive ?_ fun _ => ?_ <;>
    · simp only [List.length_append, List.length_singleton]
      omega
  | released =>
    obtain rfl : v' = v := by simpa [serves] using hv
    obtain rfl : a' = a := by simpa [atCompareExchange] using ha
    exact ⟨h.alive, fun hflag => absurd hflag Bool.false_ne_true, h.stuck, h.served⟩
  | installed queued =>
    obtain rfl : v' = v := by simpa [serves] using hv
    obtain rfl : l' = l := by simpa [atRelease] using hl
    obtain rfl : a' = a := by simpa [atCompareExchange] using ha
    exact ⟨h.alive, h.flag, h.stuck, h.served⟩

/-- The invariant of the pump with its history. -/
structure PumpInv (s : Session α) (stranded : Bool) : Prop where
  single : Single s.shared (s.count owns) (s.count holds)
  pumped : Pumped s.shared (s.count serves) (s.count atRelease) (s.count atCompareExchange)
    stranded

theorem pumpInv_init : PumpInv (init : Session α) false where
  single := single_init
  pumped :=
    { alive := rfl
      flag := fun h => by cases h
      stuck := fun h => by cases h
      served := fun _ h => absurd rfl h }

theorem pumped_run {s s' : Session α} {stranded : Bool} {i : Nat} (h : PumpInv s stranded)
    (hstep : pump s (.run i) = some s') :
    Pumped s'.shared (s'.count serves) (s'.count atRelease) (s'.count atCompareExchange)
      (noteRefusal stranded s (.run i)) := by
  obtain ⟨pc, r, hpc, hadvance, rfl⟩ := Pool.runProc_eq_some.mp hstep
  have hserves : (serves pc).toNat ≤ s.count serves := by
    cases hs : serves pc with
    | false => exact Nat.zero_le _
    | true => exact Pool.one_le_count hpc hs
  have hsingle := h.single
  rw [count_owns] at hsingle
  simp only [noteRefusal, hpc, Option.any_some]
  exact pumped_advance h.pumped hsingle hadvance hserves (Pool.count_set hpc r.1 r.2 serves)
    (Pool.count_set hpc r.1 r.2 atRelease) (Pool.count_set hpc r.1 r.2 atCompareExchange)

theorem pumpInv_step {s s' : Session α} {stranded : Bool} {e : PumpEvent α}
    (h : PumpInv s stranded) (hstep : pump s e = some s') :
    PumpInv s' (noteRefusal stranded s e) := by
  refine ⟨single_step h.single hstep, ?_⟩
  have hpumped := h.pumped
  cases e with
  | run i => exact pumped_run h hstep
  | sendMessage m =>
    obtain rfl := Option.some.inj hstep
    simp only [Pool.count_spawn]
    refine ⟨hpumped.alive, hpumped.flag, fun h => absurd h Bool.false_ne_true, fun _ _ => ?_⟩
    exact Nat.succ_pos _
  | written j =>
    simp only [pump, PumpEvent.toSessionEvent, step] at hstep
    split at hstep
    · cases hstep
    · rename_i m hm
      obtain rfl := Option.some.inj hstep
      have hlength := length_eraseIdx hm
      have hserved := hpumped.served
      simp only [Pool.count_spawn]
      refine ⟨hpumped.alive, fun hflag => ?_, fun hstranded => ?_, fun hspared hqueue => ?_⟩
      · have := hpumped.flag hflag
        simp only [serves, atRelease, Bool.toNat_true, Bool.toNat_false]
        omega
      · have hnobody := (hpumped.stuck hstranded).2
        omega
      · simp only [serves, Bool.toNat_true]
        omega

/-! ## At rest -/

/-- At rest nothing waits exactly if the last compare-exchange did not come too early. -/
theorem drained_iff {es : List (PumpEvent α)} {s : Session α}
    (hrun : Trace.exec pump init es = some s) (hquiet : Quiet s) :
    Drained s.shared ↔ lastStranded es = false := by
  have hinv : PumpInv s (lastStranded es) :=
    Trace.history_invariant PumpInv (fun _ _ _ _ => pumpInv_step) pumpInv_init hrun
  have hpumped := hinv.pumped
  rw [count_eq_zero_of_returned hquiet.returned (f := serves) rfl,
    count_eq_zero_of_returned hquiet.returned (f := atRelease) rfl,
    count_eq_zero_of_returned hquiet.returned (f := atCompareExchange) rfl] at hpumped
  constructor
  · intro hdrained
    rw [Bool.eq_false_iff]
    intro hstranded
    exact (hpumped.stuck hstranded).1 hdrained.emptyQueue
  · intro hlast
    constructor
    · by_contra hqueue
      have hsomebody := hpumped.served hlast hqueue
      simp [hquiet.notWriting] at hsomebody
    · rw [Bool.eq_false_iff]
      intro hflag
      have hsomebody := hpumped.flag hflag
      simp [hquiet.notWriting] at hsomebody

/-- Two messages: the second is pushed, and its compare-exchange refused, when the call of the first
    one's `handle_write` has found the queue empty and is about to clear the flag. -/
def pushedTooEarly : List (PumpEvent Nat) :=
  [.sendMessage 1, .run 0, .run 0, .run 0, .run 0, .written 0, .run 1, .sendMessage 2, .run 2,
    .run 1]

/-- The same two messages; the flag is cleared before the compare-exchange. -/
def pushedInTime : List (PumpEvent Nat) :=
  [.sendMessage 1, .run 0, .run 0, .run 0, .run 0, .written 0, .run 1, .sendMessage 2, .run 1,
    .run 2, .run 2, .run 2, .run 2, .written 0, .run 3, .run 3]

theorem quiet_of_all {s : Session α} (hwriting : s.shared.writing.isEmpty = true)
    (hreturned : s.procs.all (fun pc => match pc with | .returned => true | _ => false) = true) :
    Quiet s where
  notWriting := List.isEmpty_iff.mp hwriting
  returned := all_returned hreturned

theorem drained_pushedInTime :
    ∃ s, Trace.exec pump (init : Session Nat) pushedInTime = some s ∧ Quiet s ∧
      (Drained s.shared ↔ lastStranded pushedInTime = false) :=
  ⟨_, rfl, quiet_of_all rfl rfl, drained_iff rfl (quiet_of_all rfl rfl)⟩

/-- Message 2 stays in the queue of a session at rest. -/
theorem not_drained_pushedTooEarly :
    ¬ ∀ (es : List (PumpEvent Nat)) (s : Session Nat),
      Trace.exec pump init es = some s → Quiet s → Drained s.shared := by
  intro h
  have hdrained := h pushedTooEarly _ rfl (quiet_of_all rfl rfl)
  exact absurd hdrained.emptyQueue (by decide)

end Session

end DistributedIM.ChattingServer
