/-
  One writer for each chatting-server `Session`, in every run of `Session`: with calls of
  `sendMessage`, writes that end with or without an error, and `markAsDeferredTerminated`, in any
  order.

  `m_write_in_progress` is set by the compare-exchange of `sendMessage` and cleared by the calls
  that find the queue empty or the session about to be terminated. `handle_write` does not set it:
  the write that has ended hands it on. `Single` counts who has it: the calls that own the write
  side and the writes that have not ended are never more than one together.

  A message that the termination check drops is never handed on, so what is handed on is a
  subsequence of the queue, and a prefix only as long as the check does not fire (`Session`).
-/
import DistributedIM.ChattingServer.Session

namespace DistributedIM.ChattingServer

namespace Session

variable {α : Type}

/-- At most one `async_write` is outstanding, its message stays in `m_current_write_msg`, and the
    messages are handed on in the order of the queue, each at most once. -/
structure OneWriter (s : Session α) : Prop where
  one : s.shared.writing.length ≤ 1
  intact : ∀ m ∈ s.shared.writing, s.shared.currentWriteMsg = some m
  notReplaced : .tryPop ∈ s.procs → s.shared.writing = []
  inOrder : s.shared.handed.Sublist s.shared.queued

/-! ## The invariant -/

/-- What holds in every state, for the numbers of calls that own the write side and that hold a
    popped message. -/
structure Single (o : Outbox α) (owners holders : Nat) : Prop where
  one : owners + o.writing.length ≤ 1
  flag : o.writeInProgress = false → owners + o.writing.length = 0
  intact : ∀ m ∈ o.writing, o.currentWriteMsg = some m
  flow : (o.handed ++ inHand o holders ++ o.concurrentSentQueue).Sublist o.queued

theorem single_init : Single (init : Session α).shared 0 0 where
  one := by simp [init]
  flag := by simp [init]
  intact := by simp [init]
  flow := by simp [init, inHand]

/-- The final handler leaves the queue and the writes alone. -/
theorem Single.runFinalHandler {o : Outbox α} {n k : Nat} (h : Single o n k) :
    Single o.runFinalHandler n k := by
  unfold Outbox.runFinalHandler
  split
  · exact h
  · exact ⟨h.one, h.flag, h.intact, h.flow⟩

/-- Without the popped message, the others still are in order. -/
theorem Single.drop {o : Outbox α} {n k : Nat} (h : Single o n k) (dropped : List α) :
    Single { o with dropped := dropped } n 0 where
  one := h.one
  flag := h.flag
  intact := h.intact
  flow := by
    refine List.Sublist.trans ?_ h.flow
    simp only [inHand, if_true, List.append_nil]
    exact (List.sublist_append_left o.handed _).append (List.Sublist.refl _)

/-- A call that owns the write side pops the next message: nobody is writing. -/
theorem Single.pop {o : Outbox α} {n : Nat} (h : Single o n 0) (hn : 1 ≤ n) {m : α}
    {queue : List α} (hqueue : o.concurrentSentQueue = m :: queue) :
    Single { o with currentWriteMsg := some m, concurrentSentQueue := queue } n 1 where
  one := h.one
  flag := h.flag
  intact := by
    have hone := h.one
    have hwriting : o.writing = [] := List.length_eq_zero_iff.mp (by omega)
    intro m' hm'
    simp only [hwriting, List.not_mem_nil] at hm'
  flow := by
    have hflow := h.flow
    rw [hqueue] at hflow
    simpa [inHand] using hflow

/-- The call that holds the popped message hands it on. -/
theorem Single.write {o : Outbox α} {n n' : Nat} (h : Single o n 1) (hn : n' + 1 = n) {m : α}
    (hm : o.currentWriteMsg = some m) :
    Single { o with handed := o.handed ++ [m], writing := o.writing ++ [m] } n' 0 := by
  have hone := h.one
  have hflag := h.flag
  have hwriting : o.writing = [] := List.length_eq_zero_iff.mp (by omega)
  refine ⟨?_, ?_, ?_, ?_⟩
  · simp only [List.length_append, List.length_singleton]
    omega
  · intro hfree
    have hnone := hflag hfree
    omega
  · intro m' hm'
    simp only [hwriting, List.nil_append, List.mem_singleton] at hm'
    rw [hm']
    exact hm
  · have hflow := h.flow
    simpa [inHand, hm] using hflow

/-- A step of a call, by the point it starts from. How the two numbers change, and that nobody
    else holds a message while this call owns the write side, is known from the calls. -/
theorem single_advance {o : Outbox α} {pc : Pc α} {r : Outbox α × Pc α} {n k n' k' : Nat}
    (h : Single o n k) (hadvance : o.advance pc = some r)
    (hothers : k + (owns pc).toNat ≤ n + (holds pc).toNat) (howns : (owns pc).toNat ≤ n)
    (hn : n' + (owns pc).toNat = n + (owns r.2).toNat)
    (hk : k' + (holds pc).toNat = k + (holds r.2).toNat) : Single r.1 n' k' := by
  have hone := h.one
  cases Outbox.advances hadvance with
  | refused =>
    obtain rfl : n' = n := by simpa [owns] using hn
    obtain rfl : k' = k := by simpa [holds] using hk
    exact h
  | entered hfree =>
    have hzero := h.flag hfree
    simp only [owns, Bool.toNat_false, Bool.toNat_true, Nat.add_zero] at hn
    obtain rfl : k' = k := by simpa [holds] using hk
    exact ⟨by show n' + o.writing.length ≤ 1; omega, by simp, h.intact, h.flow⟩
  | drained =>
    obtain rfl : n' = n := by simpa [owns] using hn
    obtain rfl : k' = k := by simpa [holds] using hk
    exact h
  | popped hqueue =>
    simp only [owns, holds, Bool.toNat_false, Bool.toNat_true] at hothers howns
    obtain rfl : k = 0 := by omega
    obtain rfl : n' = n := by simpa [owns] using hn
    obtain rfl : k' = 1 := by simpa [holds] using hk
    exact h.pop howns hqueue
  | terminated =>
    simp only [owns, holds, Bool.toNat_true, Bool.toNat_false] at hothers howns hk
    obtain rfl : n' = n := by simpa [owns] using hn
    obtain rfl : k' = 0 := by omega
    exact h.runFinalHandler.drop _
  | passed =>
    obtain rfl : n' = n := by simpa [owns] using hn
    obtain rfl : k' = k := by simpa [holds] using hk
    exact h
  | handedOn hm =>
    simp only [owns, holds, Bool.toNat_false, Bool.toNat_true] at hothers howns hn hk
    obtain rfl : k = 1 := by omega
    obtain rfl : k' = 0 := by omega
    exact h.write hn hm
  | released =>
    simp only [owns, Bool.toNat_false, Bool.toNat_true, Nat.add_zero] at hn
    obtain rfl : k' = k := by simpa [holds] using hk
    exact ⟨by show n' + o.writing.length ≤ 1; omega,
      fun _ => by show n' + o.writing.length = 0; omega, h.intact, h.flow⟩
  | installed queued =>
    obtain rfl : n' = n := by simpa [owns] using hn
    obtain rfl : k' = k := by simpa [holds] using hk
    exact ⟨hone, h.flag, h.intact, h.flow⟩

/-- An `async_write` has ended; `n'` calls own the write side now. -/
theorem Single.ended {o : Outbox α} {n n' k : Nat} (h : Single o n k) {j : Nat} {m : α}
    (hm : o.writing[j]? = some m) (hn : n' ≤ n + 1) (written : List α) :
    Single { o with writing := o.writing.eraseIdx j, written := written } n' k := by
  have hone := h.one
  have hflag := h.flag
  have hlength := length_eraseIdx hm
  refine ⟨?_, ?_, ?_, h.flow⟩
  · show n' + (o.writing.eraseIdx j).length ≤ 1
    omega
  · intro hfree
    have hnone := hflag hfree
    omega
  · intro m' hm'
    exact h.intact m' (List.mem_of_mem_eraseIdx hm')

/-- Every step of a session keeps the write side with one owner. -/
theorem single_step {s s' : Session α} {e : SessionEvent α}
    (h : Single s.shared (s.count owns) (s.count holds)) (hstep : step s e = some s') :
    Single s'.shared (s'.count owns) (s'.count holds) := by
  cases e with
  | sendMessage m =>
    obtain rfl := Option.some.inj hstep
    rw [Pool.count_spawn, Pool.count_spawn]
    refine ⟨h.one, h.flag, h.intact, ?_⟩
    show List.Sublist (_ ++ (s.shared.concurrentSentQueue ++ [m])) (s.shared.queued ++ [m])
    rw [← List.append_assoc]
    exact h.flow.append (List.Sublist.refl [m])
  | run i =>
    obtain ⟨pc, r, hpc, hadvance, rfl⟩ := Pool.runProc_eq_some.mp hstep
    apply single_advance h hadvance
    · exact others_hold_le_own hpc
    · cases howns : owns pc with
      | false => exact Nat.zero_le _
      | true => exact Pool.one_le_count hpc howns
    · exact Pool.count_set hpc r.1 r.2 owns
    · exact Pool.count_set hpc r.1 r.2 holds
  | written j =>
    simp only [step] at hstep
    split at hstep
    · cases hstep
    · rename_i m hm
      obtain rfl := Option.some.inj hstep
      rw [Pool.count_spawn, Pool.count_spawn]
      exact h.ended hm (Nat.le_refl _) _
  | writeFailed j =>
    simp only [step] at hstep
    split at hstep
    · cases hstep
    · rename_i m hm
      obtain rfl := Option.some.inj hstep
      exact h.ended hm (Nat.le_succ _) _
  | markAsDeferredTerminated =>
    obtain rfl := Option.some.inj hstep
    rw [Pool.count_spawn, Pool.count_spawn]
    exact ⟨h.one, h.flag, h.intact, h.flow⟩

theorem oneWriter_of_single {s : Session α}
    (h : Single s.shared (s.count owns) (s.count holds)) : OneWriter s where
  one := Nat.le_trans (Nat.le_add_left _ _) h.one
  intact := h.intact
  notReplaced := by
    intro hpop
    have hone := h.one
    have howner : 1 ≤ s.count owns := List.countP_pos_iff.mpr ⟨.tryPop, hpop, rfl⟩
    exact List.length_eq_zero_iff.mp (by omega)
  inOrder := by
    refine List.Sublist.trans ?_ h.flow
    rw [List.append_assoc]
    exact List.sublist_append_left _ _

/-- In every state of every run, the session has at most one writer. -/
theorem always_oneWriter (es : List (SessionEvent α)) :
    Trace.Always step OneWriter (init : Session α) es := by
  refine Trace.always_mono (fun s => oneWriter_of_single) (Trace.always_of_invariant
    (fun s : Session α => Single s.shared (s.count owns) (s.count holds)) ?_ single_init es)
  intro s e s' h hstep
  exact single_step h hstep

end Session

end DistributedIM.ChattingServer
