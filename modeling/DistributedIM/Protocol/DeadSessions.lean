/-
  Dead sessions in the routing map: runs of the servers that remember whose connection has failed
  and been purged.

  `purgeRemoveConnection` takes nobody out of `m_uuid2Session`; it only marks who is in the
  termination zone. `always_noDeadSession_iff` says when the map is clean along a run: a session
  whose connection fails has been taken out before, by a kick, a logout or the heartbeat, and no
  login that was queued or under way puts it back.
-/
import DistributedIM.Protocol.SingleLogin

namespace DistributedIM.Protocol

open DistributedIM.ChattingServer

namespace DeadSessions

/-- The servers, and the sessions whose read or write has failed and that have been purged. -/
structure Purges where
  servers : SingleLogin.Servers
  purged : List SessionId

def init : Purges where
  servers := SingleLogin.init
  purged := []

def Purges.getSession (p : Purges) (server uuid : String) : Option SessionId :=
  p.servers.cluster.getSession server uuid

/-- The purged sessions after an event; a malformed frame is no failed read. Where a purge goes on
    call by call, this event is its last one, with no lock to be had any more. -/
def notePurge (purged : List SessionId) : SingleLogin.Event → List SessionId
  | .handler (.purge sid true _) => sid :: purged
  | _ => purged

def step (p : Purges) (e : SingleLogin.Event) : Option Purges :=
  (SingleLogin.step p.servers e).map fun s => ⟨s, notePurge p.purged e⟩

/-- `getSession` returns no session that has been purged. -/
def NoDeadSession (p : Purges) : Prop :=
  ∀ i ∈ p.purged, ∀ server uuid, p.getSession server uuid ≠ some i

/-- A session that fails is not registered any more, and where the login of a purged one comes to
    `createUserSession`, its uuid is taken. -/
def RegistersNoDead (p : Purges) : SingleLogin.Event → Prop
  | .handler (.purge sid true _) => ∀ server uuid, p.getSession server uuid ≠ some sid
  | .work server => ∀ q, p.servers.worker server = some q → q.stage = .register →
      q.sid ∈ p.purged → (p.getSession (p.servers.cluster.session q.sid).server q.uuid).isSome
  | _ => True

theorem step_eq_some {p p' : Purges} {e : SingleLogin.Event} (h : step p e = some p') :
    SingleLogin.step p.servers e = some p'.servers ∧ p'.purged = notePurge p.purged e := by
  obtain ⟨s, hs, rfl⟩ := Option.map_eq_some_iff.mp h
  exact ⟨hs, rfl⟩

/-! ## One step of the servers -/

/-- No step but `createUserSession` registers a session. -/
theorem getSession_of_step {s s' : SingleLogin.Servers} {e : SingleLogin.Event}
    (hstep : SingleLogin.step s e = some s') {server key : String} {i : SessionId}
    (hi : s'.cluster.getSession server key = some i) :
    s.cluster.getSession server key = some i ∨
      ∃ name q, e = .work name ∧ s.worker name = some q ∧ q.stage = .register ∧
        server = (s.cluster.session q.sid).server ∧ key = q.uuid ∧ i = q.sid := by
  rcases SingleLogin.step_cases hstep with ⟨name, -, rfl⟩ | ⟨sid, request, out, -, -, -, rfl⟩ |
    ⟨name, q, rfl, hq, rfl⟩ | ⟨-, hdown, -⟩
  · exact Or.inl hi
  · exact Or.inl ((SingleLogin.windsDown_startLogin ..).registered _ _ _ hi)
  · change (SingleLogin.work s.cluster q).1.getSession server key = some i at hi
    rcases SingleLogin.work_cases s.cluster q with ⟨hstage, hwork⟩ | ⟨-, hwork⟩ | ⟨-, hdown, -⟩
    · rw [hwork] at hi
      rcases Cluster.getSession_register_eq_some hi with hold | ⟨hserver, hkey, hsid⟩
      · exact Or.inl hold
      · exact Or.inr ⟨name, q, rfl, hq, hstage, hserver, hkey, hsid⟩
    · rw [hwork] at hi
      rcases s.cluster.answer_cases q.sid q.number q.out with ⟨-, hanswer⟩ | ⟨-, hdown⟩
      · dsimp only at hi
        rw [hanswer] at hi
        exact Or.inl hi
      · exact Or.inl (hdown.registered _ _ _ hi)
    · exact Or.inl (hdown.registered _ _ _ hi)
  · exact Or.inl (hdown.registered _ _ _ hi)

/-- `createUserSession` keeps who is registered under the uuid. -/
theorem getSession_work_register {s : SingleLogin.Servers} {name : String}
    {q : SingleLogin.PendingLogin} (hstage : q.stage = .register) :
    (s.work name q).cluster.getSession (s.cluster.session q.sid).server q.uuid =
      some ((s.cluster.getSession (s.cluster.session q.sid).server q.uuid).getD q.sid) := by
  show (SingleLogin.work s.cluster q).1.getSession _ _ = _
  unfold SingleLogin.work
  rw [hstage]
  exact s.cluster.getSession_register q.sid q.uuid

/-- The purge leaves the map as it is. -/
theorem getSession_purgeRemoveConnection (c : Cluster) (sid : SessionId) (ended lock : Bool)
    (server key : String) :
    (c.purgeRemoveConnection sid ended lock).getSession server key = c.getSession server key := by
  unfold Cluster.purgeRemoveConnection Cluster.removeUsrSession Cluster.removeRedisCache
  dsimp only
  split
  · split <;> rfl
  · split <;> rfl

theorem getSession_of_purge {s s' : SingleLogin.Servers} {sid : SessionId} {ended lock : Bool}
    (hstep : SingleLogin.step s (.handler (.purge sid ended lock)) = some s')
    (server key : String) : s'.cluster.getSession server key = s.cluster.getSession server key := by
  have hpurge : (ClusterRuns.step s.cluster (.purge sid ended lock)).map
      (fun c => { s with cluster := c }) = some s' := hstep
  obtain ⟨c, hc, rfl⟩ := Option.map_eq_some_iff.mp hpurge
  obtain ⟨-, hc⟩ := Option.ite_none_right_eq_some.mp hc
  rw [← Option.some.inj hc]
  exact getSession_purgeRemoveConnection ..

/-! ## One step of a run -/

theorem mem_notePurge {purged : List SessionId} {e : SingleLogin.Event} {i : SessionId}
    (h : i ∈ notePurge purged e) : i ∈ purged ∨ ∃ lock, e = .handler (.purge i true lock) := by
  unfold notePurge at h
  split at h
  · rename_i sid lock
    rcases List.mem_cons.mp h with rfl | hold
    · exact Or.inr ⟨lock, rfl⟩
    · exact Or.inl hold
  · exact Or.inl h

theorem noDeadSession_step {p p' : Purges} {e : SingleLogin.Event} (h : NoDeadSession p)
    (hclean : RegistersNoDead p e) (hstep : step p e = some p') : NoDeadSession p' := by
  obtain ⟨hservers, hpurged⟩ := step_eq_some hstep
  intro i hi server key hkey
  rw [hpurged] at hi
  rcases getSession_of_step hservers hkey with hold |
    ⟨name, q, rfl, hq, hstage, rfl, rfl, rfl⟩
  · rcases mem_notePurge hi with hwas | ⟨lock, rfl⟩
    · exact h i hwas server key hold
    · exact hclean server key hold
  · obtain ⟨q', hq', hs'⟩ := Option.map_eq_some_iff.mp hservers
    obtain rfl := Option.some.inj (hq.symm.trans hq')
    obtain ⟨j, hj⟩ := Option.isSome_iff_exists.mp (hclean q hq hstage hi)
    -- the uuid is taken, so it is somebody else's
    rw [Purges.getSession, ← hs', getSession_work_register hstage] at hkey
    change p.servers.cluster.getSession _ _ = some j at hj
    rw [hj, Option.getD_some] at hkey
    exact h q.sid hi _ _ (hj.trans hkey)

theorem not_noDeadSession_step {p p' : Purges} {e : SingleLogin.Event}
    (hdead : ¬RegistersNoDead p e) (hstep : step p e = some p') : ¬NoDeadSession p' := by
  obtain ⟨hservers, hpurged⟩ := step_eq_some hstep
  intro hno
  apply hdead
  cases e with
  | work name =>
    intro q hq hstage hsid
    by_contra hfree
    obtain ⟨q', hq', hs'⟩ := Option.map_eq_some_iff.mp hservers
    obtain rfl := Option.some.inj (hq.symm.trans hq')
    refine hno q.sid (hpurged ▸ hsid) (p.servers.cluster.session q.sid).server q.uuid ?_
    rw [Purges.getSession, ← hs', getSession_work_register hstage]
    change ¬(p.servers.cluster.getSession _ _).isSome = true at hfree
    rw [Option.not_isSome_iff_eq_none.mp hfree, Option.getD_none]
  | call call => trivial
  | handler e =>
    cases e with
    | purge sid ended lock =>
      cases ended with
      | false => trivial
      | true =>
        intro server key hkey
        refine hno sid ?_ server key ?_
        · rw [hpurged]
          exact List.mem_cons_self ..
        · rw [Purges.getSession, getSession_of_purge hservers]
          exact hkey
    | _ => trivial

theorem noDeadSession_init : NoDeadSession init := by
  intro i hi
  cases hi

/-- Along a run the map never returns a session that has been purged exactly when every session
    that fails is out of the map before, and no login of a purged session puts it there. -/
theorem always_noDeadSession_iff (es : List SingleLogin.Event) :
    Trace.Always step NoDeadSession init es ↔ Trace.Meets step RegistersNoDead init es := by
  apply Trace.always_iff_meets NoDeadSession
  · exact fun _ h => h
  · exact fun _ _ _ h hclean hstep => noDeadSession_step h hclean hstep
  · exact fun _ _ _ _ hdead hstep => not_noDeadSession_step hdead hstep
  · exact noDeadSession_init

/-- User 7 logs in, and the connection breaks. -/
theorem not_noDeadSession_broken_connection :
    ¬Trace.Always step NoDeadSession init
      (.handler (.accept "A") :: SingleLogin.wholeLogin 0 "A" ++
        [.handler (.purge 0 true true)]) := by
  intro h
  have hlast := Trace.exec_of_always h rfl
  exact absurd rfl (hlast 0 (by decide) "A" "7")

end DeadSessions

end DistributedIM.Protocol
