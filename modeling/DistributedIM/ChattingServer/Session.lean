/-
  The outbox of a chatting-server `Session`: `sendMessage`, `handle_write`,
  `checkDeferredTermination` and `markAsDeferredTerminated`, for any number of threads.

  Each access to the send queue, to `m_write_in_progress`, to `m_state` and to the final handler
  is one atomic step, and the calls in progress take their steps in any order (`Lib.Interleave`).
  `checkDeferredTermination` is one step. A write ends with success, which starts `handle_write`,
  or with an error, after which `handle_write` leaves the outbox alone.

  History variables record what the results are about: the messages in the order they were queued,
  handed to `async_write`, completely written and dropped, and for each run of the final handler
  what had been queued before the mark and what had been written by then.

  `Inv` says what holds as long as no popped message meets the termination check: at most one call
  owns the write side, and queued = handed ++ in hand ++ waiting. `always_flushed_iff_spared`: the
  outbox is flushed in every state of a run exactly when that check never fires.

  Not modelled: `m_state` is never set to `Kicked`; the purge that follows a failed write acts on
  the maps of `UserManager` and reaches the outbox as a mark.
-/
import DistributedIM.Lib.Interleave
import DistributedIM.Lib.Trace

namespace DistributedIM.ChattingServer

/-! ## State -/

/-- `Session::SessionState`. -/
inductive SessionState
  | unkown
  | alive
  | kicked
  | logoutPending
  | terminated
  deriving DecidableEq, Repr

/-- One run of the final handler, which closes the socket. -/
structure HandlerRun (α : Type) where
  queuedBeforeMark : List α
  written : List α
  deriving DecidableEq, Repr

/-- What the calls on one session share. The final handler is represented by the messages that
    were queued before the mark that installed it. -/
structure Outbox (α : Type) where
  state : SessionState
  finalSendCompleteHandler : Option (List α)
  concurrentSentQueue : List α
  writeInProgress : Bool
  currentWriteMsg : Option α
  /-- messages of the `async_write` calls that have not ended -/
  writing : List α
  queued : List α
  handed : List α
  written : List α
  dropped : List α
  handlerRuns : List (HandlerRun α)
  deriving DecidableEq, Repr

/-- The next atomic step of a call. -/
inductive Pc (α : Type)
  /-- `m_write_in_progress.compare_exchange_strong(false, true)` -/
  | compareExchange
  /-- `m_concurrent_sent_queue.try_pop(m_current_write_msg)` -/
  | tryPop
  /-- `checkDeferredTermination()` -/
  | checkDeferredTermination
  /-- `async_write` of `m_current_write_msg` -/
  | asyncWrite
  /-- `m_write_in_progress = false`, then the call returns -/
  | release
  /-- `m_finalSendCompleteHandler = std::move(callable)` -/
  | setHandler (queued : List α)
  | returned
  deriving DecidableEq, Repr

variable {α : Type}

abbrev Session (α : Type) := Pool (Outbox α) (Pc α)

/-- A session without calls. -/
def Session.init : Session α where
  shared :=
    { state := .alive, finalSendCompleteHandler := none, concurrentSentQueue := [],
      writeInProgress := false, currentWriteMsg := none, writing := [], queued := [],
      handed := [], written := [], dropped := [], handlerRuns := [] }
  procs := []

/-- The states in which `checkDeferredTermination` returns true. -/
def SessionState.isTerminating (s : SessionState) : Bool :=
  s = .logoutPending || s = .kicked

namespace Outbox

/-- The body of `checkDeferredTermination`: the state, then the handler if there is one. -/
def runFinalHandler (o : Outbox α) : Outbox α :=
  match o.finalSendCompleteHandler with
  | none => o
  | some queued =>
    { o with
      state := .terminated
      finalSendCompleteHandler := none
      handlerRuns := o.handlerRuns ++ [⟨queued, o.written⟩] }

/-- One atomic step of a call. -/
def advance (o : Outbox α) : Pc α → Option (Outbox α × Pc α)
  | .compareExchange =>
    if o.writeInProgress then some (o, .returned)
    else some ({ o with writeInProgress := true }, .tryPop)
  | .tryPop =>
    match o.concurrentSentQueue with
    | [] => some (o, .release)
    | m :: queue =>
      some ({ o with currentWriteMsg := some m, concurrentSentQueue := queue },
        .checkDeferredTermination)
  | .checkDeferredTermination =>
    if o.state.isTerminating then
      -- the popped message is not written
      some ({ o.runFinalHandler with dropped := o.dropped ++ o.currentWriteMsg.toList }, .release)
    else some (o, .asyncWrite)
  | .asyncWrite =>
    match o.currentWriteMsg with
    | none => none
    | some m => some ({ o with handed := o.handed ++ [m], writing := o.writing ++ [m] }, .returned)
  | .release => some ({ o with writeInProgress := false }, .returned)
  | .setHandler queued => some ({ o with finalSendCompleteHandler := some queued }, .returned)
  | .returned => none

/-- What a step of a call does, with what it has found. -/
inductive Advances (o : Outbox α) : Pc α → Outbox α × Pc α → Prop
  | refused : Advances o .compareExchange (o, .returned)
  | entered (free : o.writeInProgress = false) :
      Advances o .compareExchange ({ o with writeInProgress := true }, .tryPop)
  | drained : Advances o .tryPop (o, .release)
  | popped {m : α} {queue : List α} (next : o.concurrentSentQueue = m :: queue) :
      Advances o .tryPop ({ o with currentWriteMsg := some m, concurrentSentQueue := queue },
        .checkDeferredTermination)
  | terminated (fires : o.state.isTerminating = true) :
      Advances o .checkDeferredTermination
        ({ o.runFinalHandler with dropped := o.dropped ++ o.currentWriteMsg.toList }, .release)
  | passed (spared : o.state.isTerminating = false) :
      Advances o .checkDeferredTermination (o, .asyncWrite)
  | handedOn {m : α} (current : o.currentWriteMsg = some m) :
      Advances o .asyncWrite
        ({ o with handed := o.handed ++ [m], writing := o.writing ++ [m] }, .returned)
  | released : Advances o .release ({ o with writeInProgress := false }, .returned)
  | installed (queued : List α) :
      Advances o (.setHandler queued)
        ({ o with finalSendCompleteHandler := some queued }, .returned)

theorem advances {o : Outbox α} {pc : Pc α} {r : Outbox α × Pc α} (h : o.advance pc = some r) :
    o.Advances pc r := by
  cases pc with
  | compareExchange =>
    simp only [advance] at h
    split at h
    · obtain rfl := Option.some.inj h
      exact .refused
    · rename_i hfree
      obtain rfl := Option.some.inj h
      exact .entered (by simpa using hfree)
  | tryPop =>
    simp only [advance] at h
    split at h
    · obtain rfl := Option.some.inj h
      exact .drained
    · rename_i hqueue
      obtain rfl := Option.some.inj h
      exact .popped hqueue
  | checkDeferredTermination =>
    simp only [advance] at h
    split at h
    · rename_i hfires
      obtain rfl := Option.some.inj h
      exact .terminated hfires
    · rename_i hspared
      obtain rfl := Option.some.inj h
      exact .passed (by simpa using hspared)
  | asyncWrite =>
    simp only [advance] at h
    split at h
    · cases h
    · rename_i hm
      obtain rfl := Option.some.inj h
      exact .handedOn hm
  | release =>
    obtain rfl := Option.some.inj h
    exact .released
  | setHandler queued =>
    obtain rfl := Option.some.inj h
    exact .installed queued
  | returned => cases h

end Outbox

/-! ## Steps -/

/-- What can happen next. -/
inductive SessionEvent (α : Type)
  /-- a thread calls `sendMessage`; the push is the first step of the call -/
  | sendMessage (m : α)
  /-- a call takes its next step -/
  | run (i : Nat)
  /-- an `async_write` completes and `handle_write` starts -/
  | written (j : Nat)
  /-- an `async_write` fails -/
  | writeFailed (j : Nat)
  /-- `markAsDeferredTerminated`; the store of the state is the first step of the call -/
  | markAsDeferredTerminated
  deriving DecidableEq, Repr

namespace Session

def step (s : Session α) : SessionEvent α → Option (Session α)
  | .sendMessage m =>
    some (Pool.spawn { s with shared :=
      { s.shared with
        concurrentSentQueue := s.shared.concurrentSentQueue ++ [m]
        queued := s.shared.queued ++ [m] } } .compareExchange)
  | .run i => s.runProc Outbox.advance i
  | .written j =>
    match s.shared.writing[j]? with
    | none => none
    | some m =>
      some (Pool.spawn { s with shared :=
        { s.shared with
          writing := s.shared.writing.eraseIdx j
          written := s.shared.written ++ [m] } } .tryPop)
  | .writeFailed j =>
    match s.shared.writing[j]? with
    | none => none
    | some _ =>
      some { s with shared := { s.shared with writing := s.shared.writing.eraseIdx j } }
  | .markAsDeferredTerminated =>
    some (Pool.spawn { s with shared := { s.shared with state := .logoutPending } }
      (.setHandler s.shared.queued))

/-- What the deferred termination is for: messages leave in queue order, the socket is closed only
    when everything queued before the mark is written, and no popped message is lost. -/
structure Flushed (s : Session α) : Prop where
  inOrder : s.shared.handed <+: s.shared.queued
  flushed : ∀ r ∈ s.shared.handlerRuns, r.queuedBeforeMark <+: r.written
  kept : s.shared.dropped = []

/-- The step is not a termination check that fires: no message has been popped when the session is
    about to be terminated. -/
def Spared (s : Session α) : SessionEvent α → Prop
  | .run i => s.procs[i]? = some .checkDeferredTermination → s.shared.state.isTerminating = false
  | _ => True

/-! ## Who owns the write side -/

/-- The call has set `m_write_in_progress`, or runs on behalf of a write that completed. -/
def owns : Pc α → Bool
  | .tryPop => true
  | .checkDeferredTermination => true
  | .asyncWrite => true
  | .release => true
  | _ => false

/-- The call has popped a message it has not handed on. -/
def holds : Pc α → Bool
  | .checkDeferredTermination => true
  | .asyncWrite => true
  | _ => false

/-- The message popped and not handed on, if a call holds one. -/
def inHand (o : Outbox α) (holders : Nat) : List α :=
  if holders = 0 then [] else o.currentWriteMsg.toList

/-- What holds as long as every step is spared, for the numbers of calls that own the write side
    and that hold a popped message. -/
structure Sound (o : Outbox α) (owners holders : Nat) : Prop where
  one : owners + o.writing.length ≤ 1
  flag : o.writeInProgress = false → owners + o.writing.length = 0
  current : holders ≠ 0 → o.currentWriteMsg.isSome
  flow : o.queued = o.handed ++ inHand o holders ++ o.concurrentSentQueue
  kept : o.dropped = []
  noRun : o.handlerRuns = []

def Inv (s : Session α) : Prop :=
  Sound s.shared (s.count owns) (s.count holds)

theorem inv_init : Inv (init : Session α) where
  one := by simp [init, Pool.count]
  flag := by simp [init, Pool.count]
  current := by simp [init, Pool.count]
  flow := by simp [init, inHand, Pool.count]
  kept := rfl
  noRun := rfl

/-- When all calls are over, none is at a point of another kind. -/
theorem count_eq_zero_of_returned {s : Session α} (h : ∀ pc ∈ s.procs, pc = .returned)
    {f : Pc α → Bool} (hf : f .returned = false) : s.count f = 0 := by
  apply List.countP_eq_zero.mpr
  intro pc hpc
  rw [h pc hpc, hf]
  exact Bool.false_ne_true

theorem all_returned {procs : List (Pc α)}
    (h : procs.all (fun pc => match pc with | .returned => true | _ => false) = true) :
    ∀ pc ∈ procs, pc = .returned := by
  intro pc hpc
  have hreturned := List.all_eq_true.mp h pc hpc
  split at hreturned
  · rfl
  · cases hreturned

/-- The calls other than call `i`: those that hold a message own the write side. -/
theorem others_hold_le_own {s : Session α} {i : Nat} {pc : Pc α} (hpc : s.procs[i]? = some pc) :
    s.count holds + (owns pc).toNat ≤ s.count owns + (holds pc).toNat := by
  have ho : _ + (owns pc).toNat = s.count owns + 0 := Pool.count_set hpc s.shared .returned owns
  have hh : _ + (holds pc).toNat = s.count holds + 0 :=
    Pool.count_set hpc s.shared .returned holds
  have hle : (Pool.mk s.shared (s.procs.set i .returned)).count holds ≤
      (Pool.mk s.shared (s.procs.set i .returned)).count owns := by
    apply List.countP_mono_left
    intro pc' _ h
    cases pc' <;> first | rfl | cases h
  omega

/-- A step of a call, by the point it starts from. How the two numbers change, and that nobody
    else holds a message while this call owns the write side, is known from the calls. -/
theorem sound_advance {o : Outbox α} {pc : Pc α} {r : Outbox α × Pc α} {n k n' k' : Nat}
    (h : Sound o n k) (hadvance : o.advance pc = some r)
    (hspared : pc = .checkDeferredTermination → o.state.isTerminating = false)
    (hothers : k + (owns pc).toNat ≤ n + (holds pc).toNat) (hpos : (holds pc).toNat ≤ k)
    (hn : n' + (owns pc).toNat = n + (owns r.2).toNat)
    (hk : k' + (holds pc).toNat = k + (holds r.2).toNat) : Sound r.1 n' k' := by
  have hone := h.one
  have hflag := h.flag
  have hflow := h.flow
  cases Outbox.advances hadvance with
  | refused =>
    obtain rfl : n' = n := by simpa [owns] using hn
    obtain rfl : k' = k := by simpa [holds] using hk
    exact h
  | entered hfree =>
    simp only [owns, holds, Bool.toNat_false, Bool.toNat_true, Nat.add_zero] at hn hk
    have hzero := hflag hfree
    subst hn hk
    exact ⟨by simp only; omega, by simp, h.current, hflow, h.kept, h.noRun⟩
  | drained =>
    obtain rfl : n' = n := by simpa [owns] using hn
    obtain rfl : k' = k := by simpa [holds] using hk
    exact h
  | popped hqueue =>
    simp only [owns, holds, Bool.toNat_false, Bool.toNat_true] at hothers
    obtain rfl : k = 0 := by omega
    obtain rfl : n' = n := by simpa [owns] using hn
    obtain rfl : k' = 1 := by simpa [holds] using hk
    refine ⟨hone, hflag, fun _ => rfl, ?_, h.kept, h.noRun⟩
    rw [hqueue] at hflow
    simpa [inHand] using hflow
  | terminated hfires =>
    rw [hspared rfl] at hfires
    cases hfires
  | passed =>
    obtain rfl : n' = n := by simpa [owns] using hn
    obtain rfl : k' = k := by simpa [holds] using hk
    exact h
  | handedOn hm =>
    simp only [owns, holds, Bool.toNat_false, Bool.toNat_true] at hpos hothers hn hk
    obtain rfl : k = 1 := by omega
    obtain rfl : k' = 0 := by omega
    refine ⟨?_, ?_, fun hne => absurd rfl hne, ?_, h.kept, h.noRun⟩
    · simp only [List.length_append, List.length_singleton]
      omega
    · intro hfree
      have := hflag hfree
      omega
    · simpa [inHand, hm] using hflow
  | released =>
    simp only [owns, holds, Bool.toNat_false, Bool.toNat_true, Nat.add_zero] at hn hk
    subst hk
    exact ⟨by simp only; omega, fun _ => by simp only; omega, h.current, hflow, h.kept, h.noRun⟩
  | installed queued =>
    simp only [owns, holds, Bool.toNat_false, Nat.add_zero] at hn hk
    subst hn hk
    exact ⟨hone, hflag, h.current, hflow, h.kept, h.noRun⟩

theorem inv_run {s s' : Session α} {i : Nat} (h : Inv s) (hspared : Spared s (.run i))
    (hstep : step s (.run i) = some s') : Inv s' := by
  obtain ⟨pc, r, hpc, hadvance, rfl⟩ := Pool.runProc_eq_some.mp hstep
  apply sound_advance h hadvance
  · intro hcheck
    exact hspared (hcheck ▸ hpc)
  · exact others_hold_le_own hpc
  · cases hholds : holds pc with
    | false => exact Nat.zero_le _
    | true => exact Pool.one_le_count hpc hholds
  · exact Pool.count_set hpc r.1 r.2 owns
  · exact Pool.count_set hpc r.1 r.2 holds

theorem length_eraseIdx {l : List α} {j : Nat} {m : α} (hm : l[j]? = some m) :
    (l.eraseIdx j).length + 1 = l.length := by
  obtain ⟨hj, -⟩ := List.getElem?_eq_some_iff.mp hm
  rw [List.length_eraseIdx_of_lt hj]
  omega

theorem inv_step {s s' : Session α} {e : SessionEvent α} (h : Inv s) (hspared : Spared s e)
    (hstep : step s e = some s') : Inv s' := by
  cases e with
  | run i => exact inv_run h hspared hstep
  | sendMessage m =>
    obtain rfl := Option.some.inj hstep
    unfold Inv
    rw [Pool.count_spawn, Pool.count_spawn]
    refine ⟨h.one, h.flag, h.current, ?_, h.kept, h.noRun⟩
    show s.shared.queued ++ [m] = s.shared.handed ++ _ ++ (s.shared.concurrentSentQueue ++ [m])
    rw [h.flow, List.append_assoc]
    rfl
  | written j =>
    simp only [step] at hstep
    split at hstep
    · cases hstep
    · rename_i m hm
      obtain rfl := Option.some.inj hstep
      unfold Inv
      rw [Pool.count_spawn, Pool.count_spawn]
      have hone := h.one
      have hflag := h.flag
      have hlength := length_eraseIdx hm
      refine ⟨?_, fun hfree => ?_, h.current, h.flow, h.kept, h.noRun⟩
      · show s.count owns + 1 + (s.shared.writing.eraseIdx j).length ≤ 1
        omega
      · have := hflag hfree
        omega
  | writeFailed j =>
    simp only [step] at hstep
    split at hstep
    · cases hstep
    · rename_i m hm
      obtain rfl := Option.some.inj hstep
      have hone := h.one
      have hflag := h.flag
      have hlength := length_eraseIdx hm
      refine ⟨?_, fun hfree => ?_, h.current, h.flow, h.kept, h.noRun⟩
      · show s.count owns + (s.shared.writing.eraseIdx j).length ≤ 1
        omega
      · have := hflag hfree
        omega
  | markAsDeferredTerminated =>
    obtain rfl := Option.some.inj hstep
    unfold Inv
    rw [Pool.count_spawn, Pool.count_spawn]
    exact ⟨h.one, h.flag, h.current, h.flow, h.kept, h.noRun⟩

theorem flushed_of_inv {s : Session α} (h : Inv s) : Flushed s where
  inOrder := by
    rw [h.flow, List.append_assoc]
    exact List.prefix_append _ _
  flushed := by
    intro r hr
    rw [h.noRun] at hr
    cases hr
  kept := h.kept

/-- A check that fires drops the message that was just popped. -/
theorem not_flushed_of_check {s s' : Session α} {e : SessionEvent α} (h : Inv s)
    (hfires : ¬ Spared s e) (hstep : step s e = some s') : ¬ Flushed s' := by
  cases e with
  | run i =>
    simp only [Spared, Classical.not_imp, Bool.not_eq_false] at hfires
    obtain ⟨hpc, hterminating⟩ := hfires
    obtain ⟨pc, r, hpc', hadvance, rfl⟩ := Pool.runProc_eq_some.mp hstep
    obtain rfl := Option.some.inj (hpc.symm.trans hpc')
    simp only [Outbox.advance, hterminating, if_true] at hadvance
    obtain rfl := Option.some.inj hadvance
    have hholds : s.count holds ≠ 0 := Nat.one_le_iff_ne_zero.mp (Pool.one_le_count hpc rfl)
    obtain ⟨m, hm⟩ := Option.isSome_iff_exists.mp (h.current hholds)
    intro hflushed
    have hdropped : s.shared.dropped ++ s.shared.currentWriteMsg.toList = [] := hflushed.kept
    rw [hm] at hdropped
    simp at hdropped
  | sendMessage m => exact absurd trivial hfires
  | written j => exact absurd trivial hfires
  | writeFailed j => exact absurd trivial hfires
  | markAsDeferredTerminated => exact absurd trivial hfires

/-- The outbox is flushed in every state of a run exactly when no message is popped while the
    session waits for its termination. -/
theorem always_flushed_iff_spared (es : List (SessionEvent α)) :
    Trace.Always step Flushed init es ↔ Trace.Meets step Spared init es := by
  apply Trace.always_iff_meets Inv
  · intro s h
    exact flushed_of_inv h
  · intro s e s' h hspared hstep
    exact inv_step h hspared hstep
  · intro s e s' h hfires hstep
    exact not_flushed_of_check h hfires hstep
  · exact inv_init

/-- The logout of a user to whom a message is on its way: message 1 is being written, the notice 2
    is queued, the session is marked. When 1 is written, 2 is popped, dropped, and the final
    handler runs. -/
theorem not_flushed_logout_notice :
    ¬ Trace.Always step Flushed (init : Session Nat)
      [.sendMessage 1, .run 0, .run 0, .run 0, .run 0, .sendMessage 2, .run 1,
        .markAsDeferredTerminated, .run 2, .written 0, .run 3, .run 3] := by
  intro h
  have hlast := Trace.exec_of_always h rfl
  exact absurd hlast.kept (by decide)

end Session

end DistributedIM.ChattingServer
