/-
  Whether a marked session is ever terminated: the outbox of a `Session` at rest, after any order
  of `sendMessage`, `handle_write` and `markAsDeferredTerminated`.

  The final handler runs in `checkDeferredTermination`, which runs only after a message has been
  popped. So a mark is served by a message that was popped and not checked, or still queued, when
  the handler was installed, or by one sent later. `completes_iff`: a session at rest has completed
  its termination exactly if that was so for its last mark.
-/
import DistributedIM.ChattingServer.Session

namespace DistributedIM.ChattingServer

namespace Session

variable {α : Type}

/-- No `async_write` outstanding, an empty send queue, no call executing. -/
structure AtRest (s : Session α) : Prop where
  notWriting : s.shared.writing = []
  emptyQueue : s.shared.concurrentSentQueue = []
  returned : ∀ pc ∈ s.procs, pc = .returned

/-- The session waits for its termination, and the final handler has not run. -/
def TerminationPending (o : Outbox α) : Prop :=
  o.state = .logoutPending ∧ o.finalSendCompleteHandler.isSome = true

def atCheck : Pc α → Bool
  | .checkDeferredTermination => true
  | _ => false

def atSetHandler : Pc α → Bool
  | .setHandler _ => true
  | _ => false

/-- No message is queued, and none has been popped that is still to be checked. -/
def idle (s : Session α) : Bool :=
  s.shared.concurrentSentQueue.isEmpty && s.count atCheck == 0

/-- The history of the last mark: its handler was installed on an idle session that waits for its
    termination, and nothing has been sent since. -/
def noteMark (unserved : Bool) (s : Session α) : SessionEvent α → Bool
  | .sendMessage _ => false
  | .run i =>
    if s.procs[i]?.any atSetHandler then s.shared.state = .logoutPending && s.idle else unserved
  | _ => unserved

/-- The handler of the run's last mark was installed on an idle session, and nothing was sent
    after that. -/
def lastMarkUnserved (es : List (SessionEvent α)) : Bool :=
  Trace.history step noteMark false init es

/-- What the history says about the state, for the numbers of calls that are about to check and to
    install a handler. -/
structure MarkInv (o : Outbox α) (checks installs : Nat) (unserved : Bool) : Prop where
  stuck : unserved = true → o.concurrentSentQueue = [] ∧ checks = 0 ∧ TerminationPending o
  served : unserved = false → TerminationPending o →
    o.concurrentSentQueue ≠ [] ∨ 0 < checks ∨ 0 < installs

/-- Installing a handler starts the history of a new mark. -/
theorem markInv_setHandler (o : Outbox α) (queued : List α) (checks installs : Nat) :
    MarkInv { o with finalSendCompleteHandler := some queued } checks installs
      (o.state = .logoutPending && (o.concurrentSentQueue.isEmpty && checks == 0)) where
  stuck h := by
    simp only [Bool.and_eq_true, decide_eq_true_eq, List.isEmpty_iff, beq_iff_eq] at h
    exact ⟨h.2.1, h.2.2, h.1, rfl⟩
  served h hpending := by
    obtain ⟨hstate, -⟩ : o.state = .logoutPending ∧ _ := hpending
    simp only [hstate, decide_true, Bool.true_and, Bool.and_eq_false_iff] at h
    rcases h with hqueue | hchecks
    · left
      intro hnil
      simp [show o.concurrentSentQueue = [] from hnil] at hqueue
    · right
      left
      have hne : checks ≠ 0 := by simpa using hchecks
      omega

/-- A check leaves no termination pending. -/
theorem not_pending_of_check {o : Outbox α} {r : Outbox α × Pc α}
    (hadvance : o.advance .checkDeferredTermination = some r) : ¬ TerminationPending r.1 := by
  intro hpending
  obtain ⟨hstate, hsome⟩ := hpending
  cases Outbox.advances hadvance with
  | terminated =>
    cases hhandler : o.finalSendCompleteHandler with
    | none => simp [Outbox.runFinalHandler, hhandler] at hsome
    | some queued => simp [Outbox.runFinalHandler, hhandler] at hsome
  | passed hspared => simp [SessionState.isTerminating, show o.state = _ from hstate] at hspared

/-- A call that is about to check shows that the last mark is served; after its check nothing is
    pending. -/
theorem markInv_check {o o' : Outbox α} {n k n' k' : Nat} {unserved : Bool}
    (h : MarkInv o n k unserved) (hpos : 1 ≤ n) (hpending : ¬TerminationPending o') :
    MarkInv o' n' k' unserved where
  stuck hun := by
    have hzero := (h.stuck hun).2.1
    omega
  served _ hp := absurd hp hpending

/-- A step of a call that installs no handler. -/
theorem markInv_advance {o : Outbox α} {pc : Pc α} {r : Outbox α × Pc α} {n k n' k' : Nat}
    {unserved : Bool} (h : MarkInv o n k unserved) (hadvance : o.advance pc = some r)
    (hpc : atSetHandler pc = false) (hpos : (atCheck pc).toNat ≤ n)
    (hn : n' + (atCheck pc).toNat = n + (atCheck r.2).toNat)
    (hk : k' + (atSetHandler pc).toNat = k + (atSetHandler r.2).toNat) :
    MarkInv r.1 n' k' unserved := by
  cases Outbox.advances hadvance with
  | popped hqueue =>
    obtain rfl : n' = n + 1 := by simpa [atCheck] using hn
    refine ⟨fun hun => ?_, fun _ _ => Or.inr (Or.inl (Nat.succ_pos n))⟩
    have hnil := (h.stuck hun).1
    rw [hqueue] at hnil
    cases hnil
  | terminated =>
    exact markInv_check h hpos (not_pending_of_check hadvance)
  | passed =>
    exact markInv_check h hpos (not_pending_of_check hadvance)
  | installed queued => cases hpc
  | _ =>
    obtain rfl : n' = n := by simpa [atCheck] using hn
    obtain rfl : k' = k := by simpa [atSetHandler] using hk
    exact ⟨h.stuck, h.served⟩

/-- The relation along the steps of a session. -/
def Marked (s : Session α) (unserved : Bool) : Prop :=
  MarkInv s.shared (s.count atCheck) (s.count atSetHandler) unserved

theorem marked_run {s s' : Session α} {unserved : Bool} {i : Nat} (h : Marked s unserved)
    (hstep : step s (.run i) = some s') : Marked s' (noteMark unserved s (.run i)) := by
  obtain ⟨pc, r, hpc, hadvance, rfl⟩ := Pool.runProc_eq_some.mp hstep
  have hn := Pool.count_set hpc r.1 r.2 atCheck
  have hk := Pool.count_set hpc r.1 r.2 atSetHandler
  cases hinstalls : atSetHandler pc with
  | false =>
    simp only [noteMark, hpc, Option.any_some, hinstalls, Bool.false_eq_true, if_false]
    apply markInv_advance h hadvance hinstalls _ hn hk
    cases hcheck : atCheck pc with
    | false => exact Nat.zero_le _
    | true => exact Pool.one_le_count hpc hcheck
  | true =>
    simp only [noteMark, hpc, Option.any_some, hinstalls, if_true]
    cases pc with
    | setHandler queued =>
      obtain rfl := Option.some.inj hadvance
      have hsame : (Pool.mk { s.shared with finalSendCompleteHandler := some queued }
          (s.procs.set i .returned)).count atCheck = s.count atCheck := hn
      show MarkInv _ ((Pool.mk _ _).count atCheck) _ _
      rw [hsame]
      exact markInv_setHandler ..
    | _ => cases hinstalls

theorem marked_step {s s' : Session α} {unserved : Bool} {e : SessionEvent α}
    (h : Marked s unserved) (hstep : step s e = some s') :
    Marked s' (noteMark unserved s e) := by
  cases e with
  | run i => exact marked_run h hstep
  | sendMessage m =>
    obtain rfl := Option.some.inj hstep
    refine ⟨fun hun => absurd hun Bool.false_ne_true, fun _ _ => Or.inl ?_⟩
    show s.shared.concurrentSentQueue ++ [m] ≠ []
    simp
  | written j =>
    simp only [step] at hstep
    split at hstep
    · cases hstep
    · obtain rfl := Option.some.inj hstep
      unfold Marked
      rw [Pool.count_spawn, Pool.count_spawn]
      exact ⟨h.stuck, h.served⟩
  | writeFailed j =>
    simp only [step] at hstep
    split at hstep
    · cases hstep
    · obtain rfl := Option.some.inj hstep
      exact ⟨h.stuck, h.served⟩
  | markAsDeferredTerminated =>
    obtain rfl := Option.some.inj hstep
    unfold Marked
    rw [Pool.count_spawn, Pool.count_spawn]
    refine ⟨fun hun => ?_, fun _ _ => Or.inr (Or.inr (Nat.succ_pos _))⟩
    obtain ⟨hqueue, hchecks, -, hsome⟩ := h.stuck hun
    exact ⟨hqueue, hchecks, rfl, hsome⟩

theorem marked_init : Marked (init : Session α) false where
  stuck h := by cases h
  served _ hpending := by cases hpending.1

/-- At rest a session is still waiting for its termination exactly if its last mark was made on an
    idle session and nothing was sent after it. -/
theorem completes_iff {es : List (SessionEvent α)} {s : Session α}
    (hrun : Trace.exec step init es = some s) (hrest : AtRest s) :
    ¬ TerminationPending s.shared ↔ lastMarkUnserved es = false := by
  have hmarked : Marked s (lastMarkUnserved es) :=
    Trace.history_invariant Marked (fun _ _ _ _ => marked_step) marked_init hrun
  cases hlast : lastMarkUnserved es with
  | true =>
    simp only [Bool.true_eq_false, iff_false, not_not]
    exact (hmarked.stuck hlast).2.2
  | false =>
    simp only [iff_true]
    intro hpending
    rcases hmarked.served hlast hpending with hqueue | hchecks | hinstalls
    · exact hqueue hrest.emptyQueue
    · rw [count_eq_zero_of_returned hrest.returned rfl] at hchecks
      exact Nat.lt_irrefl 0 hchecks
    · rw [count_eq_zero_of_returned hrest.returned rfl] at hinstalls
      exact Nat.lt_irrefl 0 hinstalls

/-- The notice of a kick is written before the mark comes. -/
def noticeThenMark : List (SessionEvent Nat) :=
  [.sendMessage 1, .run 0, .run 0, .run 0, .run 0, .written 0, .run 1, .run 1,
    .markAsDeferredTerminated, .run 2]

/-- The mark comes while the notice is still queued: a message sent before it is being written. -/
def markWhileQueued : List (SessionEvent Nat) :=
  [.sendMessage 1, .run 0, .run 0, .run 0, .run 0, .sendMessage 2, .run 1,
    .markAsDeferredTerminated, .run 2, .written 0, .run 3, .run 3, .run 3]

theorem atRest_of_empty {s : Session α} (hwriting : s.shared.writing.isEmpty = true)
    (hqueue : s.shared.concurrentSentQueue.isEmpty = true)
    (hreturned : s.procs.all (fun pc => match pc with | .returned => true | _ => false) = true) :
    AtRest s where
  notWriting := List.isEmpty_iff.mp hwriting
  emptyQueue := List.isEmpty_iff.mp hqueue
  returned := all_returned hreturned

theorem completes_markWhileQueued :
    ∃ s, Trace.exec step (init : Session Nat) markWhileQueued = some s ∧ AtRest s ∧
      (¬ TerminationPending s.shared ↔ lastMarkUnserved markWhileQueued = false) :=
  ⟨_, rfl, atRest_of_empty rfl rfl rfl, completes_iff rfl (atRest_of_empty rfl rfl rfl)⟩

/-- The session of a kicked user whose notice went out at once is never closed. -/
theorem terminationPending_noticeThenMark :
    ∃ s, Trace.exec step (init : Session Nat) noticeThenMark = some s ∧ AtRest s ∧
      TerminationPending s.shared ∧ s.shared.handlerRuns = [] :=
  ⟨_, rfl, atRest_of_empty rfl rfl rfl, ⟨rfl, rfl⟩, rfl⟩

end Session

end DistributedIM.ChattingServer
