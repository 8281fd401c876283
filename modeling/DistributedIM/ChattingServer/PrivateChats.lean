/-
  Opening the private chat of a pair more than once.

  `createNewPrivateChat` looks for the pair's row first, and would commit and answer with its
  thread. But `checkPrivateChatExistance` reads `thread_id`, a BIGINT UNSIGNED, with `as_string`: as
  soon as the pair has a row, from an earlier call or from a confirmation, the call ends with an
  exception (`createNewPrivateChat_existing`). It adds no row, and never tells the thread
  (`not_opensOnce`).
-/
import DistributedIM.ChattingServer.FriendConfirmation

namespace DistributedIM.ChattingServer

open Transaction (Store Conn Call Ending)

/-- Two calls for one pair, the second on the database `between`: they answer with one thread, that
    of the pair's row, and the second adds nothing. -/
structure OpensOnce (a b : Nat) (first second : Except Exn (Option String) × DbConn)
    (between : DbStore) : Prop where
  sameThread : ∃ thread, first.1 = .ok (some thread) ∧ second.1 = .ok (some thread)
  ofPair : ∀ p ∈ between.tables.privateChat, p.IsOf a b →
    second.1 = .ok (some p.threadId.repr)
  noRow : second.2.store.tables = between.tables

/-! ## The pair has a row -/

theorem hasPrivateChat_comm {t : Tables} {a b : Nat} :
    HasPrivateChat t a b ↔ HasPrivateChat t b a := by
  unfold HasPrivateChat
  simp only [PrivateChat.isOf_comm]

theorem hasPrivateChat_of_reaches {sql : MySql} {s s' : DbStore} {a b : Nat}
    (h : HasPrivateChat s.tables a b) (hreach : Trace.Reaches (dbStep sql) s s') :
    HasPrivateChat s'.tables a b := by
  refine invariant_of_effects (fun s => HasPrivateChat s.tables a b) ?_ h hreach
  intro s s' h heffect
  obtain ⟨p, hp, hof⟩ := h
  exact ⟨p, heffect.privateChat_subset hp, hof⟩

/-- Whichever statement fails, a pair that has a row is not told of a thread, and nothing is
    added. -/
theorem createNewPrivateChat_of_hasPrivateChat {sql : MySql} {c c' : DbConn} {a b : Nat}
    {r : Except Exn (Option String)} (h : HasPrivateChat c.store.tables a b)
    (hcall : createNewPrivateChat sql a b c = (r, c')) :
    c'.store.tables = c.store.tables ∧ ∀ thread, r ≠ .ok (some thread) := by
  obtain ⟨htables, hanswer⟩ | ⟨-, hfree, -⟩ := createNewPrivateChat_cases hcall
  · exact ⟨htables, hanswer⟩
  · obtain ⟨p, hp, hof⟩ := h
    exact absurd hof (hfree p hp)

/-- A call that answers with a thread has made the row of the pair. -/
theorem hasPrivateChat_of_answer {sql : MySql} {c c' : DbConn} {a b : Nat} {thread : String}
    (hcall : createNewPrivateChat sql a b c = (.ok (some thread), c')) :
    HasPrivateChat c'.store.tables a b := by
  obtain ⟨-, hanswer⟩ | ⟨-, -, hstore, -⟩ := createNewPrivateChat_cases hcall
  · exact absurd rfl (hanswer thread)
  · rw [hstore]
    exact ⟨_, List.mem_append_right _ (List.mem_singleton_self _), rfl, rfl⟩

theorem checkPrivateChatExistance_existing {s : DbStore} {userOne userTwo : Nat}
    (h : ∃ p ∈ s.tables.privateChat, p.user1Uuid = userOne ∧ p.user2Uuid = userTwo) :
    checkPrivateChatExistance userOne userTwo ⟨s, []⟩ = (.error .badFieldAccess, ⟨s, []⟩) := by
  have hne : (s.tables.privateChat.filter fun p =>
      p.user1Uuid = userOne ∧ p.user2Uuid = userTwo) ≠ [] := by
    obtain ⟨p, hp, hpair⟩ := h
    exact List.ne_nil_of_mem (List.mem_filter.mpr ⟨hp, by simpa using hpair⟩)
  exact Call.bind_apply_ok (executeCommand_select_clear _ rfl hne) _

/-- On a connection without faults the exception is that of the accessor. -/
theorem createNewPrivateChat_existing {sql : MySql} {s : DbStore} {a b : Nat}
    (ha : a ∈ s.tables.authentication) (hb : b ∈ s.tables.authentication)
    (h : HasPrivateChat s.tables a b) :
    createNewPrivateChat sql a b ⟨s, []⟩ = (.error .badFieldAccess, ⟨s, []⟩) := by
  unfold createNewPrivateChat
  have hclear : ([] : List Bool).headD false = false := rfl
  obtain ⟨l₁, h₁⟩ := bind_userUuidCheck_clear hclear ⟨a, ha, rfl⟩ _
  refine h₁.trans ?_
  obtain ⟨l₂, h₂⟩ := bind_userUuidCheck_clear hclear ⟨b, hb, rfl⟩ _
  refine h₂.trans ?_
  rw [if_neg (by simp)]
  have hcheck := checkPrivateChatExistance_existing (s := s) h
  apply Call.catching_of_error
  · exact Call.guarded_of_error (Call.bind_apply_error hcheck _)
  · decide

/-! ## Calls for one pair -/

/-- In no database, for no pair of users and no order of the two, whatever happens between the
    calls and whichever statements fail. -/
theorem not_opensOnce (sql : MySql) (s between : DbStore) (a b x y : Nat)
    (faults faults' : List Bool) (hpair : (x = a ∧ y = b) ∨ (x = b ∧ y = a))
    (hlater : Trace.Reaches (dbStep sql) (createNewPrivateChat sql a b ⟨s, faults⟩).2.store
      between) :
    ¬ OpensOnce a b (createNewPrivateChat sql a b ⟨s, faults⟩)
      (createNewPrivateChat sql x y ⟨between, faults'⟩) between := by
  intro h
  cases hfirst : createNewPrivateChat sql a b ⟨s, faults⟩ with
  | mk r c =>
    cases hsecond : createNewPrivateChat sql x y ⟨between, faults'⟩ with
    | mk r' c' =>
      rw [hfirst] at hlater h
      rw [hsecond] at h
      obtain ⟨thread, hr, hr'⟩ := h.sameThread
      dsimp only at hr hr'
      subst hr
      have hrow := hasPrivateChat_of_reaches (hasPrivateChat_of_answer hfirst) hlater
      have hrow' : HasPrivateChat between.tables x y := by
        obtain ⟨rfl, rfl⟩ | ⟨rfl, rfl⟩ := hpair
        · exact hrow
        · exact hasPrivateChat_comm.mp hrow
      exact (createNewPrivateChat_of_hasPrivateChat hrow' hsecond).2 thread hr'

/-- Users 1 and 2, the pair turned round the second time. -/
theorem not_opensOnce_turned :
    ¬ OpensOnce 1 2 (createNewPrivateChat (.decimal true) 1 2 ⟨registered [1, 2], []⟩)
      (createNewPrivateChat (.decimal true) 2 1
        ⟨(createNewPrivateChat (.decimal true) 1 2 ⟨registered [1, 2], []⟩).2.store, []⟩)
      (createNewPrivateChat (.decimal true) 1 2 ⟨registered [1, 2], []⟩).2.store :=
  not_opensOnce (.decimal true) (registered [1, 2]) _ 1 2 2 1 [] [] (Or.inr ⟨rfl, rfl⟩) ⟨[], rfl⟩

/-- The first call answers with thread 1, the second throws. -/
theorem second_call_throws :
    let first := createNewPrivateChat (.decimal true) 1 2 ⟨registered [1, 2], []⟩
    let second := createNewPrivateChat (.decimal true) 1 2 ⟨first.2.store, []⟩
    first.1 = .ok (some "1") ∧ second.1 = .error .badFieldAccess ∧
      ¬ OpensOnce 1 2 first second first.2.store := by
  refine ⟨by rfl, by rfl, ?_⟩
  intro h
  obtain ⟨thread, -, hsecond⟩ := h.sameThread
  cases hsecond.symm.trans (by rfl : _ = .error .badFieldAccess)

end DistributedIM.ChattingServer
